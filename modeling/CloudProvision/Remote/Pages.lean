import CloudProvision.Remote.Error

/-!
# Listings in pages

A listing is requested page by page: each page names the token of the next one, and the last page
has none or an empty one. `collectPages` walks the pages, one request after the other.

A cloud whose pages never end is walked for ever. A function of its requests cannot do so, so here a
walk has a page limit, which is an idealisation: no program gives up a listing as `endless`, and a
walk that ends is the same within every limit that it stays below.
-/

namespace CloudProvision.Remote

/-- Request for a page. The first page is requested without a token. -/
structure PageRequest where
  pageSize : Nat
  token : Option String
  deriving DecidableEq

/-- A page of a listing. -/
structure Page (α : Type) where
  items : List α
  next : Option String
  deriving DecidableEq

/-- The token to go on with, if the listing goes on. -/
def Page.next? {α : Type} (page : Page α) : Option String :=
  page.next.filter (!·.isEmpty)

/-- Why a listing failed. -/
inductive ListingError where
  /-- A page could not be fetched. -/
  | page (error : ApiError)
  /-- There are more pages than the limit. This is where a walk without a limit goes on. -/
  | endless
  deriving DecidableEq

/-- The text of an error. -/
def ListingError.message : ListingError → String
  | page error => error.message
  | endless => "the listing does not end"

instance : ToString ListingError := ⟨ListingError.message⟩

/-- The items of all pages from the one with `token` on, at most `limit` pages. -/
def collectPages {m : Type → Type} [Monad m] {α : Type} (pageSize : Nat)
    (fetch : PageRequest → m (Except ApiError (Page α))) :
    (limit : Nat) → (token : Option String) → m (Except ListingError (List α))
  | 0, _ => return .error .endless
  | limit + 1, token => do
    match ← fetch ⟨pageSize, token⟩ with
    | .error e => return .error (.page e)
    | .ok page =>
      match page.next? with
      | none => return .ok page.items
      | some next =>
        match ← collectPages pageSize fetch limit (some next) with
        | .error e => return .error e
        | .ok rest => return .ok (page.items ++ rest)

end CloudProvision.Remote
