import CloudProvision.MemoryCloud
import CloudProvision.Proofs.Attr
import CloudProvision.Proofs.Request
import CloudProvision.Volume
import Mathlib

/-!
# Complete listings

A listing is fetched page by page. The server decides with each token how the walk goes on, and the
walk follows it: every page is requested once, and the items of all pages are returned in their
order, or the first error and no items. Where the walk goes does not depend on what the pages hold,
so a page without items does not end it.

The pages of a server that paginates by offset follow on from each other. Its volumes are listed
completely, whatever the size of a page.

## Main definitions

* `Page.GoesOn`, `Page.Ends`: what the token of a page says.
* `requestsFrom`: the requests of a walk.
* `PaginatesByOffset`: an API whose pages of volumes start at an offset.

## Main results

* `collectPages_of_answers`: what a walk returns, by the answers to its requests.
* `exists_walk`: an API that paginates by offset has a walk through what is left from there on.
* `MemoryCloud.paginatesByOffset`: the cloud in memory is such an API.
* `listing_complete`: what walks request and return, and what the listing of volumes does.
-/

namespace CloudProvision

namespace Remote

/-! ### Walks through pages -/

section Walk

variable {σ α : Type} {fetch : PageRequest → StateM σ (Except ApiError (Page α))}
  {pageSize : Nat} {page : Page α} {before : List (Page α)} {last : Except ApiError (Page α)}

/-- A page that has the token of the next one. -/
def Page.GoesOn (page : Page α) : Prop :=
  ∃ token, page.next = some token ∧ token ≠ ""

/-- A page that has no token, or the empty one. -/
def Page.Ends (page : Page α) : Prop :=
  page.next = none ∨ page.next = some ""

theorem Page.GoesOn.exists_next? (h : page.GoesOn) :
    ∃ token, page.next? = some token ∧ page.next = some token := by
  obtain ⟨token, next, filled⟩ := h
  exact ⟨token, by simp [Page.next?, next, filled], next⟩

theorem Page.Ends.next? (h : page.Ends) : page.next? = none := by
  rcases h with next | next <;> simp [Page.next?, next]

/-- The requests of a walk that comes through the pages `before`: the first one has the given token,
and each page is followed by a request with its own. -/
def requestsFrom (pageSize : Nat) (token : Option String) (before : List (Page α)) :
    List PageRequest :=
  ⟨pageSize, token⟩ :: before.map fun page => ⟨pageSize, page.next⟩

/-- What a walk returns that comes through the pages `before` and ends with the answer `last`. -/
def outcome (before : List (Page α)) :
    (last : Except ApiError (Page α)) → Except ListingError (List α)
  | .ok page => .ok ((before ++ [page]).flatMap Page.items)
  | .error e => .error (.page e)

/-- A state is passed from one step to the next. -/
theorem stateM_bind_run {β γ : Type} (x : StateM σ β) (f : β → StateM σ γ) (s : σ) :
    (x >>= f) s = f (x s).1 (x s).2 := rfl

/-- A server that is asked one request after the other answers the first one first. -/
theorem mapM_cons_eq {β γ : Type} {f : β → StateM σ γ} {x : β} {xs : List β} {y : γ} {ys : List γ}
    {s s' : σ} :
    (x :: xs).mapM f s = (y :: ys, s') ↔ ∃ t, f x s = (y, t) ∧ xs.mapM f t = (ys, s') := by
  rw [List.mapM_cons, stateM_bind_run, stateM_bind_run]
  constructor
  · intro h
    obtain ⟨answers, after⟩ := Prod.mk.inj h
    obtain ⟨first, rest⟩ := List.cons.inj answers
    exact ⟨(f x s).2, Prod.ext first rfl, Prod.ext rest after⟩
  · rintro ⟨t, first, rest⟩
    rw [first, rest]
    rfl

/-- One step of a walk. -/
theorem collectPages_succ_run (limit : Nat) (token : Option String) (s : σ) :
    collectPages pageSize fetch (limit + 1) token s =
      match fetch ⟨pageSize, token⟩ s with
      | (.error e, t) => (.error (.page e), t)
      | (.ok page, t) =>
        match page.next? with
        | none => (.ok page.items, t)
        | some next =>
          match collectPages pageSize fetch limit (some next) t with
          | (.error e, u) => (.error e, u)
          | (.ok rest, u) => (.ok (page.items ++ rest), u) := by
  rw [collectPages, stateM_bind_run]
  rcases fetch ⟨pageSize, token⟩ s with ⟨e | page, t⟩
  · rfl
  · dsimp only
    rcases page.next? with - | next
    · rfl
    · dsimp only
      rw [stateM_bind_run]
      rcases collectPages pageSize fetch limit (some next) t with ⟨e | rest, u⟩ <;> rfl

/-- A walk through pages that go on, up to one that ends or cannot be fetched, makes one request for
each of them and returns their items, or the error. -/
theorem collectPages_of_answers (onward : ∀ page ∈ before, page.GoesOn)
    (ends : ∀ page, last = .ok page → page.Ends) {limit : Nat} (admitted : before.length < limit)
    {token : Option String} {s s' : σ}
    (answers : (requestsFrom pageSize token before).mapM fetch s =
      (before.map .ok ++ [last], s')) :
    collectPages pageSize fetch limit token s = (outcome before last, s') := by
  induction before generalizing limit token s with
  | nil =>
      obtain ⟨limit, rfl⟩ := Nat.exists_eq_add_one.2 admitted
      obtain ⟨t, asked, done⟩ := mapM_cons_eq.1 answers
      obtain rfl : t = s' := (Prod.mk.inj done).2
      rw [collectPages_succ_run, asked]
      rcases last with e | page
      · rfl
      · simp only [(ends page rfl).next?, outcome, List.nil_append, List.flatMap_singleton]
  | cons page rest ih =>
      -- After the first page the walk is one through the others, from the token of this page on.
      obtain ⟨limit, rfl⟩ := Nat.exists_eq_add_one.2 (Nat.zero_lt_of_lt admitted)
      obtain ⟨t, asked, later⟩ := mapM_cons_eq.1 answers
      obtain ⟨next, more, named⟩ := (onward page List.mem_cons_self).exists_next?
      rw [List.map_cons, named] at later
      have walked := ih (fun p hp => onward p (List.mem_cons_of_mem page hp))
        (Nat.lt_of_succ_lt_succ admitted) later
      rw [collectPages_succ_run, asked]
      simp only [more, walked]
      rcases last with e | page'
      · rfl
      · simp only [outcome, List.cons_append, List.flatMap_cons]

/-! ### The requests of a walk -/

/-- The server with a record of the requests made of it. -/
def recorded (fetch : PageRequest → StateM σ (Except ApiError (Page α))) (request : PageRequest) :
    StateM (σ × List PageRequest) (Except ApiError (Page α)) := fun (s, requests) =>
  let (answer, t) := fetch request s
  (answer, t, requests ++ [request])

/-- A server answers in the same way whether the requests are recorded or not. -/
theorem mapM_recorded {requests : List PageRequest} {s s' : σ}
    {answers : List (Except ApiError (Page α))} (answered : requests.mapM fetch s = (answers, s'))
    (earlier : List PageRequest) :
    requests.mapM (recorded fetch) (s, earlier) = (answers, s', earlier ++ requests) := by
  induction requests generalizing s answers earlier with
  | nil =>
      obtain ⟨rfl, rfl⟩ := Prod.mk.inj answered
      rw [List.append_nil]
      rfl
  | cons request rest ih =>
      obtain ⟨answer, answers, rfl⟩ : ∃ answer later, answers = answer :: later := by
        rw [List.mapM_cons] at answered
        exact ⟨_, _, (Prod.mk.inj answered).1.symm⟩
      obtain ⟨t, first, later⟩ := mapM_cons_eq.1 answered
      refine mapM_cons_eq.2 ⟨(t, earlier ++ [request]), ?_, ?_⟩
      · simp only [recorded, first]
      · rw [ih later, List.append_assoc, List.singleton_append]

/-- A walk makes the requests that its pages ask for, and no others. -/
theorem collectPages_recorded (onward : ∀ page ∈ before, page.GoesOn)
    (ends : ∀ page, last = .ok page → page.Ends) {limit : Nat} (admitted : before.length < limit)
    {s s' : σ} (answers : (requestsFrom pageSize none before).mapM fetch s =
      (before.map .ok ++ [last], s')) :
    collectPages pageSize (recorded fetch) limit none (s, []) =
      (outcome before last, s', requestsFrom pageSize none before) :=
  collectPages_of_answers onward ends admitted (mapM_recorded answers [])

end Walk

/-! ### Pages at an offset -/

/-- The page that starts at an offset. If there is more, its token is the offset of the next page.
-/
def pageAt {α : Type} (pageSize first : Nat) (items : List α) : Page α :=
  let shown := (items.drop first).take pageSize
  let next := first + shown.length
  ⟨shown, if next < items.length then some (toString next) else none⟩

/-- The token that a page with an offset is requested with. -/
def IsTokenOf (first : Nat) (token : Option String) : Prop :=
  first = 0 ∧ token = none ∨ token = some (toString first)

/-- An API whose pages of volumes start at an offset, and which keeps the volumes when they are
listed. -/
structure PaginatesByOffset {σ : Type} (api : Api σ) (volumes : σ → List Volume) : Prop where
  answer : ∀ {first token}, IsTokenOf first token → ∀ pageSize now cloud,
    (api (.listVolumes ⟨pageSize, token⟩) now cloud).answer =
      .ok (pageAt pageSize first (volumes cloud))
  kept : ∀ request now cloud,
    volumes (api (.listVolumes request) now cloud).completed = volumes cloud

section Offset

variable {α : Type} {pageSize first : Nat} {items : List α}

/-- A page after which there is more names the next one. -/
theorem pageAt_of_lt (more : first + pageSize < items.length) :
    pageAt pageSize first items =
      ⟨(items.drop first).take pageSize, some (toString (first + pageSize))⟩ := by
  have shown : ((items.drop first).take pageSize).length = pageSize := by
    rw [List.length_take, List.length_drop]
    omega
  rw [pageAt, shown, if_pos more]

/-- The last page holds all that is left. -/
theorem pageAt_of_le (reached : items.length ≤ first + pageSize) :
    pageAt pageSize first items = ⟨items.drop first, none⟩ := by
  have shown : (items.drop first).take pageSize = items.drop first :=
    List.take_of_length_le (by rw [List.length_drop]; omega)
  have done : ¬first + (items.drop first).length < items.length := by
    rw [List.length_drop]
    omega
  rw [pageAt, shown, if_neg done]

end Offset

end Remote

open Remote Operation

/-! ### The listing of volumes -/

section Listing

variable {σ : Type} {env : Environment σ} {session : Session σ} {volumes : σ → List Remote.Volume}

/-- The server of an operation that fetches pages of volumes. -/
def volumePage (env : Environment σ) (request : PageRequest) :
    StateM (Session σ) (Except ApiError (Page Remote.Volume)) :=
  call (.listVolumes request) env

/-- A page of volumes starts at its offset, and the volumes stay as they are. -/
theorem volumePage_run (paginates : PaginatesByOffset env.api volumes) {first : Nat}
    {token : Option String} (start : IsTokenOf first token) (pageSize : Nat)
    (session : Session σ) :
    ∃ there, volumePage env ⟨pageSize, token⟩ session =
        (.ok (pageAt pageSize first (volumes session.cloud)), there) ∧
      volumes there.cloud = volumes session.cloud :=
  ⟨_, Prod.ext (paginates.answer start pageSize session.now session.cloud) rfl,
    paginates.kept ⟨pageSize, token⟩ session.now session.cloud⟩

/-- From any offset on there is a walk through what is left, and it comes through a page for every
volume at most. -/
theorem exists_walk (paginates : PaginatesByOffset env.api volumes) {pageSize : Nat}
    (positive : 1 ≤ pageSize) {first : Nat} {token : Option String} (start : IsTokenOf first token)
    (session : Session σ) :
    ∃ before last there, (∀ page ∈ before, Page.GoesOn page) ∧ Page.Ends last ∧
      (requestsFrom pageSize token before).mapM (volumePage env) session =
        (before.map .ok ++ [.ok last], there) ∧
      (before ++ [last]).flatMap Page.items = (volumes session.cloud).drop first ∧
      before.length ≤ (volumes session.cloud).length - first ∧
      volumes there.cloud = volumes session.cloud := by
  induction left : (volumes session.cloud).length - first using Nat.strong_induction_on
    generalizing first token session with
  | _ left' ih =>
  subst left
  obtain ⟨there, asked, kept⟩ := volumePage_run paginates start pageSize session
  by_cases reached : (volumes session.cloud).length ≤ first + pageSize
  · -- The first page is the last one.
    rw [pageAt_of_le reached] at asked
    exact ⟨[], _, there, by simp, .inl rfl, mapM_cons_eq.2 ⟨there, asked, rfl⟩, by simp,
      Nat.zero_le _, kept⟩
  · -- The first page is full. As it holds a volume at least, less is left behind it.
    rw [Nat.not_le] at reached
    rw [pageAt_of_lt reached] at asked
    have next : IsTokenOf (first + pageSize) (some (toString (first + pageSize))) := .inr rfl
    have smaller : (volumes there.cloud).length - (first + pageSize) <
        (volumes session.cloud).length - first := by
      rw [kept]
      omega
    obtain ⟨before, last, there', onward, ends, answers, items, few, kept'⟩ :=
      ih _ smaller next there rfl
    rw [kept] at items few kept'
    refine ⟨_ :: before, last, there', ?onward, ends, mapM_cons_eq.2 ⟨there, asked, answers⟩,
      ?items, ?few, kept'⟩
    case onward =>
      rintro page (_ | ⟨_, hp⟩)
      · exact ⟨_, rfl, Nat.repr_ne_empty⟩
      · exact onward page hp
    case items =>
      rw [List.cons_append, List.flatMap_cons, items, ← List.drop_drop, List.take_append_drop]
    case few =>
      rw [List.length_cons]
      omega

/-- An operation walks through the pages that its calls return. -/
theorem collectPages_env {α : Type} (pageSize : Nat)
    (fetch : PageRequest → Operation σ (Except ApiError (Page α))) (limit : Nat)
    (token : Option String) :
    collectPages pageSize fetch limit token env session =
      (collectPages pageSize (fun request => fetch request env) limit token :
        StateM (Session σ) (Except ListingError (List α))) session := by
  induction limit generalizing token session with
  | zero => rfl
  | succ limit ih =>
      rw [collectPages_succ_run, collectPages, bind_run]
      rcases fetch ⟨pageSize, token⟩ env session with ⟨e | page, there⟩
      · rfl
      · dsimp only
        rcases page.next? with - | next
        · rfl
        · dsimp only
          rw [bind_run, ih]
          rcases (collectPages pageSize (fun request => fetch request env) limit (some next) :
            StateM (Session σ) (Except ListingError (List α))) there with ⟨e | rest, there'⟩ <;> rfl

/-- All volumes are fetched, if there may be a page for each of them and one more. -/
theorem Volume.all_run (paginates : PaginatesByOffset env.api volumes)
    (positive : 1 ≤ env.settings.pageSize)
    (admitted : (volumes session.cloud).length < env.pageLimit) :
    ∃ there, Volume.all env session = (.ok (volumes session.cloud), there) ∧
      volumes there.cloud = volumes session.cloud := by
  obtain ⟨before, last, there, onward, ends, answers, items, few, kept⟩ :=
    exists_walk paginates positive (.inl ⟨rfl, rfl⟩) session
  have walked := collectPages_of_answers onward (by rintro _ ⟨⟩; exact ends)
    (Nat.lt_of_le_of_lt few admitted) answers
  refine ⟨there, ?_, kept⟩
  rw [Volume.all, bind_run, bind_run]
  change collectPages env.settings.pageSize (fun request => call (.listVolumes request))
    env.pageLimit none env session = _
  rw [collectPages_env]
  exact walked.trans (by rw [outcome, items, List.drop_zero])

/-- A volume has the name that is asked for, if one is. -/
def Volume.Listing.Asks (config : Volume.Listing) (v : Remote.Volume) : Prop :=
  ∀ name, config.name = .known name → name ≠ "" → v.name = some name

theorem Volume.isListed_iff {config : Volume.Listing} {v : Remote.Volume} :
    Volume.isListed config.name.nonempty? v = true ↔ config.Asks v := by
  rw [Volume.isListed, Volume.Listing.Asks, Attr.nonempty?_eq_key?, Option.all_eq_true]
  simp only [beq_iff_eq, Attr.key?_eq_some_iff, and_imp, String.isEmpty_eq_false_iff]

instance (config : Volume.Listing) (v : Remote.Volume) : Decidable (config.Asks v) :=
  decidable_of_iff _ Volume.isListed_iff

/-- The listing has the volumes that it asks for, in their order. -/
theorem Volume.listing_run (paginates : PaginatesByOffset env.api volumes)
    (positive : 1 ≤ env.settings.pageSize)
    (admitted : (volumes session.cloud).length < env.pageLimit) (config : Volume.Listing)
    (diagnostics : Diagnostics) :
    ∃ there, Volume.listing.read config diagnostics env session =
      ((some ⟨config.name, .known (((volumes session.cloud).filter (config.Asks ·)).map .ofRemote)⟩,
        diagnostics), there) := by
  obtain ⟨there, all, -⟩ := Volume.all_run paginates positive admitted
  refine ⟨there, ?_⟩
  have asked : (fun v => decide (config.Asks v)) = Volume.isListed config.name.nonempty? :=
    funext fun v => Bool.eq_iff_iff.2 (decide_eq_true_iff.trans Volume.isListed_iff.symm)
  rw [asked, Volume.listing]
  simp only [Request.bind_run, Request.orReport_run, all]
  rfl

end Listing

namespace MemoryCloud

/-- A page of volumes starts at the position that its token says, and the cloud stays as it is. -/
theorem listVolumes_run (request : PageRequest) (cloud : MemoryCloud) :
    listVolumes request cloud =
      match request.token.elim (some 0) String.toNat? with
      | none => .error (.rejected 400 "invalid page token")
      | some first =>
        .ok (pageAt request.pageSize first (cloud.volumes.values.map Entry.object), cloud) := by
  rw [listVolumes]
  change (match request.token.elim (some 0) String.toNat? with
    | none => throw (.rejected 400 "invalid page token")
    | some first => pure (pageAt request.pageSize first (cloud.volumes.values.map Entry.object)) :
      Served (Page Remote.Volume)) cloud = _
  rcases request.token.elim (some 0) String.toNat? with - | first <;> rfl

/-- The cloud in memory paginates its volumes by offset. -/
theorem paginatesByOffset :
    PaginatesByOffset api fun cloud => cloud.volumes.values.map Entry.object where
  answer := by
    intro first token start pageSize now cloud
    have position : token.elim (some 0) String.toNat? = some first := by
      rcases start with ⟨rfl, rfl⟩ | rfl
      · rfl
      · exact Nat.toNat?_repr first
    have served : serve (.listVolumes ⟨pageSize, token⟩) cloud =
        .ok (pageAt pageSize first (cloud.volumes.values.map Entry.object), cloud) := by
      rw [serve, listVolumes_run, position]
    rw [api, StateT.run, served]
  kept := by
    intro request now cloud
    have served : serve (.listVolumes request) cloud = listVolumes request cloud := rfl
    rw [api, StateT.run, served, listVolumes_run]
    rcases request.token.elim (some 0) String.toNat? with - | first <;> rfl

end MemoryCloud

/-! ### All pages, each of them once -/

/-- A walk makes one request for each page, of the given size and with the token of the page before.
It returns the items of all pages in their order, or the error of the page that fails and no items.
An API that paginates by offset, as the cloud in memory does, is therefore listed completely. -/
theorem listing_complete :
    (∀ {σ α : Type} (fetch : PageRequest → StateM σ (Except ApiError (Page α)))
      (pageSize limit : Nat) (before : List (Page α)) (s s' : σ),
      (∀ page ∈ before, page.GoesOn) → before.length < limit →
      (requestsFrom pageSize none before).length = before.length + 1 ∧
      (∀ last : Page α, last.Ends →
        (requestsFrom pageSize none before).mapM fetch s =
          (before.map .ok ++ [.ok last], s') →
        collectPages pageSize (recorded fetch) limit none (s, []) =
          (.ok ((before ++ [last]).flatMap Page.items), s', requestsFrom pageSize none before)) ∧
      ∀ e : ApiError,
        (requestsFrom pageSize none before).mapM fetch s =
          (before.map .ok ++ [.error e], s') →
        collectPages pageSize (recorded fetch) limit none (s, []) =
          (.error (.page e), s', requestsFrom pageSize none before)) ∧
    (∀ {σ : Type} (volumes : σ → List Remote.Volume) (env : Environment σ) (session : Session σ)
      (config : Volume.Listing) (diagnostics : Diagnostics),
      PaginatesByOffset env.api volumes → 1 ≤ env.settings.pageSize →
      (volumes session.cloud).length < env.pageLimit →
      ∃ there, Volume.listing.read config diagnostics env session =
        ((some ⟨config.name,
          .known (((volumes session.cloud).filter (config.Asks ·)).map .ofRemote)⟩, diagnostics),
          there)) ∧
    PaginatesByOffset MemoryCloud.api fun cloud => cloud.volumes.values.map Entry.object := by
  refine ⟨?walk, ?listing, MemoryCloud.paginatesByOffset⟩
  case walk =>
    intro σ α fetch pageSize limit before s s' onward admitted
    refine ⟨by simp [requestsFrom], fun last ends answers => ?_, fun e answers => ?_⟩
    · exact collectPages_recorded onward (by rintro _ ⟨⟩; exact ends) admitted answers
    · exact collectPages_recorded onward (by rintro _ ⟨⟩) admitted answers
  case listing =>
    intro σ volumes env session config diagnostics paginates positive admitted
    exact Volume.listing_run paginates positive admitted config diagnostics

/-- A server that gives the answers of a script in turn. -/
def scripted (_ : PageRequest) :
    StateM (List (Except ApiError (Page Nat))) (Except ApiError (Page Nat))
  | [] => (.error (.rejected 400 "invalid page token"), [])
  | answer :: rest => (answer, rest)

/-- A volume with a name and a size. -/
def namedVolume (id name : String) (sizeGib : Int) : Remote.Volume :=
  ⟨id, some name, sizeGib, none, none, none, "completed", none⟩

/-- A cloud with three volumes, two of which have the same name. -/
def threeVolumes : MemoryCloud :=
  (MemoryCloud.withEntry "vol-1" (⟨namedVolume "vol-1" "web" 1, []⟩ : Entry Remote.Volume) ∘
    MemoryCloud.withEntry "vol-2" (⟨namedVolume "vol-2" "db" 2, []⟩ : Entry Remote.Volume) ∘
    MemoryCloud.withEntry "vol-3" (⟨namedVolume "vol-3" "web" 3, []⟩ : Entry Remote.Volume)) .empty

/-- An environment in which volumes are listed in pages of two. -/
def pagesOfTwo : Environment MemoryCloud :=
  ⟨MemoryCloud.api, { Settings.default with pageSize := 2 }, none, 4⟩

/-- Three pages, one of them without items, are walked through, and so are two of which the last one
fails. Of three volumes in pages of two, those with the name that is asked for are listed. -/
theorem listing_complete_sample :
    collectPages 2 (recorded scripted) 3 none
        ([.ok ⟨[1, 2], some "a"⟩, .ok ⟨[], some "b"⟩, .ok ⟨[3], some ""⟩], []) =
      (.ok [1, 2, 3], [], [⟨2, none⟩, ⟨2, some "a"⟩, ⟨2, some "b"⟩]) ∧
    collectPages 2 (recorded scripted) 2 none
        ([.ok ⟨[1, 2], some "a"⟩, .error (.rejected 500 "broken")], []) =
      (.error (.page (.rejected 500 "broken")), [], [⟨2, none⟩, ⟨2, some "a"⟩]) ∧
    ∃ there, Volume.listing.read ⟨.known "web", .null⟩ .none pagesOfTwo ⟨0, threeVolumes, []⟩ =
      ((some ⟨.known "web", .known [.ofRemote (namedVolume "vol-1" "web" 1),
        .ofRemote (namedVolume "vol-3" "web" 3)]⟩, .none), there) := by
  refine ⟨?walked, ?failed, ?listed⟩
  case walked =>
    exact (listing_complete.1 scripted 2 3 [⟨[1, 2], some "a"⟩, ⟨[], some "b"⟩] _ []
      (by simp [Page.GoesOn]) (by decide)).2.1 ⟨[3], some ""⟩ (.inr rfl) rfl
  case failed =>
    exact (listing_complete.1 scripted 2 2 [⟨[1, 2], some "a"⟩] _ []
      (by simp [Page.GoesOn]) (by decide)).2.2 (.rejected 500 "broken") rfl
  case listed =>
    have listed : ((threeVolumes.volumes.values.map Entry.object).filter
        (Volume.Listing.Asks ⟨.known "web", .null⟩ ·)).map Volume.Item.ofRemote =
        [.ofRemote (namedVolume "vol-1" "web" 1), .ofRemote (namedVolume "vol-3" "web" 3)] := by
      decide +kernel
    rw [← listed]
    exact listing_complete.2.1 _ pagesOfTwo ⟨0, threeVolumes, []⟩ ⟨.known "web", .null⟩ .none
      MemoryCloud.paginatesByOffset (by decide) (by decide)

end CloudProvision
