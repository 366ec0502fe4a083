import CloudProvision.LoadBalancer.Difference
import CloudProvision.Proofs.Identity

/-!
# Searching a list without an index

The tables of an index are filled in one pass over a list and answer from then on. A linear search
walks through the list again for every question: for the first entry with the identifier, and if no
entry has it, for the first one with the name or, without a name, the natural key. Both find the
same position, for local and for remote objects.

## Main definitions

* `linearSearch`: the search.

## Main results

* `IdentityIndex.position?_eq_linearSearch`: an index and a search answer alike.
-/

namespace CloudProvision

variable {α β : Type} [Identified α] [Identified β]

/-! ### The search -/

/-- Whether an entry has no identifier. A blank one does not count. -/
def isBare (x : α) : Bool :=
  (Identified.id x).key?.isNone

/-- Whether an entry has the identifier of `probe`. -/
def sharesId (probe : β) (x : α) : Bool :=
  (Identified.id probe).key?.any fun id => (Identified.id x).key? = some id

/-- Whether an entry has the name of `probe`. -/
def sharesName (probe : β) (x : α) : Bool :=
  (Identified.name probe).key?.any fun name => (Identified.name x).key? = some name

/-- Whether an entry has no name, and the natural key of `probe`. -/
def sharesNaturalKey (probe : β) (x : α) : Bool :=
  (Identified.naturalKey probe).any fun key =>
    (Identified.name x).key? = none ∧ Identified.naturalKey x = some key

/-- The position of the entry that corresponds to `probe`, found by walking through the list: that
of the first entry with its identifier. If there is none, it is the first one with its name or,
without a name, its natural key, unless both have an identifier. -/
def linearSearch (entries : List α) (probe : β) : Option Nat :=
  if entries.any (sharesId probe) then entries.findIdx? (sharesId probe)
  else
    let candidate :=
      if (Identified.name probe).key?.isSome then entries.findIdx? (sharesName probe)
      else entries.findIdx? (sharesNaturalKey probe)
    candidate.filter fun position => isBare probe || entries[position]?.all isBare

omit [Identified α] in
/-- A search that rejects everything finds nothing. -/
private theorem findIdx?_none (entries : List α) : entries.findIdx? (fun _ => false) = none :=
  List.findIdx?_eq_none_iff.2 fun _ _ => rfl

/-! ### The tables of an index -/

omit [Identified α] in
/-- Where the first entry that satisfies `p` stands. -/
theorem Placed.map_position_first? (entries : List α) (p : α → Bool) :
    (first? entries p).map position = entries.findIdx? p := by
  rw [first?, ofList, List.find?_map, Option.map_map, List.findIdx?_eq_fst_find?_zipIdx]
  rfl

namespace IdentityIndex

open Placed (map_position_first?)

variable (entries : List α) (probe : β)

/-- The table of identifiers answers as a search for the identifier. -/
theorem bind_byId_ofList : (Identified.id probe).key?.bind (ofList entries).byId.get? =
    entries.findIdx? (sharesId probe) := by
  unfold sharesId
  cases (Identified.id probe).key? with
  | none => exact (findIdx?_none entries).symm
  | some id => exact (get?_byId_ofList entries id).trans (map_position_first? entries _)

/-- The tables of names and of natural keys answer as searches for them. -/
theorem byLabel?_eq_findIdx? : (ofList entries).byLabel? probe =
    if (Identified.name probe).key?.isSome then entries.findIdx? (sharesName probe)
    else entries.findIdx? (sharesNaturalKey probe) := by
  unfold byLabel? sharesName sharesNaturalKey
  cases (Identified.name probe).key? with
  | some name => exact (get?_byName_ofList entries name).trans (map_position_first? entries _)
  | none =>
      cases Identified.naturalKey probe with
      | none => exact (findIdx?_none entries).symm
      | some key =>
          refine (get?_byNaturalKey_ofList entries key).trans ?_
          rw [map_position_first?]
          refine congrArg (entries.findIdx? ·) (funext fun x => ?_)
          cases named : (Identified.name x).key? <;> simp [unnamedKey?, named]

/-- What is found by label is rejected by the index and by the search alike. -/
theorem isSome_and_hasId (position : Nat) :
    (!((Identified.id probe).key?.isSome && (ofList entries).hasId position)) =
      (isBare probe || entries[position]?.all isBare) := by
  rw [hasId, entries_ofList, isBare, Bool.not_and, Option.not_isSome]
  congr 1
  cases entries[position]? with
  | none => rfl
  | some x => simp [isBare, Attr.isPresent_eq]

/-- An index answers as a search through its list. -/
theorem position?_ofList : (ofList entries).position? probe = linearSearch entries probe := by
  rw [position?_eq, bind_byId_ofList, byLabel?_eq_findIdx?, linearSearch]
  simp only [isSome_and_hasId]
  cases found : entries.findIdx? (sharesId probe) with
  | none =>
      have absent : entries.any (sharesId probe) = false :=
        List.any_eq_false.2 fun x hx => by simpa using List.findIdx?_eq_none_iff.1 found x hx
      rw [absent]
      rfl
  | some position =>
      obtain ⟨bound, shared, -⟩ := List.findIdx?_eq_some_iff_getElem.1 found
      have present : entries.any (sharesId probe) = true :=
        List.any_eq_true.2 ⟨_, List.getElem_mem bound, shared⟩
      rw [present]
      rfl

variable {entries probe}

/-- What a search finds is a position of the list. -/
theorem lt_length_of_linearSearch {position : Nat}
    (found : linearSearch entries probe = some position) : position < entries.length := by
  have bound {p : α → Bool} (h : entries.findIdx? p = some position) : position < entries.length :=
    (List.findIdx?_eq_some_iff_getElem.1 h).1
  rw [linearSearch] at found
  split at found
  · exact bound found
  · obtain ⟨candidate, -⟩ := Option.filter_eq_some_iff.1 found
    split at candidate
    · exact bound candidate
    · exact bound candidate

/-- An index answers as a search through its list. What it answers is a position of the list, and
the entry there has no other identifier than the one that is looked up. -/
theorem position?_eq_linearSearch (entries : List α) (probe : β) :
    (ofList entries).position? probe = linearSearch entries probe ∧
      ∀ position, (ofList entries).position? probe = some position →
        ∃ x, entries[position]? = some x ∧ ∀ id id', (Identified.id probe).key? = some id →
          (Identified.id x).key? = some id' → id = id' := by
  refine ⟨position?_ofList entries probe, fun position found => ?_⟩
  have bound := lt_length_of_linearSearch ((position?_ofList entries probe).symm.trans found)
  have there : entries[position]? = some entries[position] := List.getElem?_eq_getElem bound
  have located : (ofList entries).locate? probe = some ⟨position, entries[position]⟩ := by
    simp [locate?, found, there]
  refine ⟨_, there, fun id id' key key' => ?_⟩
  have same := key?_of_locate? located key (Option.isSome_iff_exists.2 ⟨id', key'⟩)
  exact Option.some.inj (same.symm.trans key')

/-- Listeners of which the second has neither an identifier nor a name, and the third the same port
and protocol. -/
def sampleListeners : List LoadBalancer.Listener := [
  ⟨.known "ls-1", .known "web", .known 80, .known "http", .known "b", .null⟩,
  ⟨.known "", .unknown, .known 443, .known "https", .known "b", .null⟩,
  ⟨.known "ls-3", .null, .known 443, .known "https", .known "b", .null⟩]

/-- A listener with another identifier and a blank name. -/
def sampleProbe : LoadBalancer.Listener :=
  ⟨.known "ls-9", .known "", .known 443, .known "https", .null, .null⟩

/-- An unnamed listener is found by its port and its protocol. -/
theorem position?_eq_linearSearch_sample :
    (ofList sampleListeners).position? sampleProbe = some 1 ∧
      linearSearch sampleListeners sampleProbe = some 1 ∧
      ∃ x, sampleListeners[1]? = some x ∧ ∀ id id', (Identified.id sampleProbe).key? = some id →
        (Identified.id x).key? = some id' → id = id' := by
  obtain ⟨same, valid⟩ := position?_eq_linearSearch sampleListeners sampleProbe
  have found : (ofList sampleListeners).position? sampleProbe = some 1 := by decide +kernel
  exact ⟨found, same.symm.trans found, valid 1 found⟩

end IdentityIndex

end CloudProvision
