import CloudProvision.Proofs.Changes
import CloudProvision.Proofs.Except
import Mathlib.Tactic.MkIffOfInductiveProp

/-!
# Restating a list

A plan restates a list of the state if it says nothing that the state does not say: its entries
stand in any order, blank values are left out or not, attributes are undecided, and identifiers are
left out of entries that their labels tell apart. A restated list asks for no change.

## Main definitions

* `Attr.Restates`, `Attr.RestatesEntries`: the same up to blanks, or undecided; the same for the
  entries of a list, up to their order.
* `Distinguished`: the entries of a list are told apart.
* `KeepsIdentity`: what has to stay for an entry to be found again.

## Main results

* `locate?_of_keepsIdentity`: an entry that keeps its identity is found.
* `Restating.isEmpty`: a restated list asks for no change.
-/

namespace CloudProvision

/-! ### Attributes -/

namespace Attr

/-- A planned attribute restates the one of the state if it is undecided, or the same up to
blanks. -/
def Restates {α : Type} [Comparable α] (plan state : Attr α) : Prop :=
  plan = unknown ∨ plan.normalized = state.normalized

instance {α : Type} [Comparable α] [DecidableEq α] (plan state : Attr α) :
    Decidable (plan.Restates state) :=
  inferInstanceAs (Decidable (_ ∨ _))

/-- A planned list restates the one of the state if it is undecided, or each of its entries restates
one of the state in some order. -/
def RestatesEntries {α : Type} (R : α → α → Prop) (plan state : Attr (List α)) : Prop :=
  plan = unknown ∨ ∃ order, order.Perm state.entries ∧ List.Forall₂ R plan.entries order

/-- A restated attribute has not changed. -/
theorem Restates.changed {α : Type} [Comparable α] [LawfulComparable α] {plan state : Attr α}
    (h : plan.Restates state) : plan.changed state = false := by
  rcases h with rfl | same
  · rfl
  · exact changed_of_normalized_eq same

/-- A restated attribute that is decided is the same up to blanks. -/
theorem Restates.normalized_eq {α : Type} [Comparable α] {plan state : Attr α}
    (h : plan.Restates state) (decided : plan.isUnknown = false) :
    plan.normalized = state.normalized := by
  rcases h with rfl | same
  · cases decided
  · exact same

/-- Texts that are the same up to blanks have the same key. -/
theorem key?_eq_of_normalized_eq {s t : Attr String} (h : s.normalized = t.normalized) :
    s.key? = t.key? := by
  rw [key?, key?, h]

end Attr

/-! ### Identity -/

section Identity

variable {α : Type} [Identified α] {entries : List α}

/-- Identifiers, names, and the natural keys of unnamed entries are given once in a list, and every
entry has one of them. Blank ones do not count. -/
@[mk_iff]
structure Distinguished (entries : List α) : Prop where
  ids : (entries.filterMap fun x => (Identified.id x).key?).Nodup
  names : (entries.filterMap fun x => (Identified.name x).key?).Nodup
  naturalKeys : (entries.filterMap IdentityIndex.unnamedKey?).Nodup
  identified : ∀ x ∈ entries,
    (Identified.id x).key?.isSome = true ∨ (IdentityIndex.label? x).isSome = true

/-- A planned entry keeps the identity of an entry of the state if it has its identifier, or none
and its name. The identifier is left out only of an entry with a label. -/
@[mk_iff]
structure KeepsIdentity (plan state : α) : Prop where
  id : (Identified.id plan).normalized = (Identified.id state).normalized ∨
    (Identified.id plan).key? = none ∧ (IdentityIndex.label? state).isSome = true
  name : (Identified.id plan).key? = none →
    (Identified.name plan).normalized = (Identified.name state).normalized

instance (entries : List α) : Decidable (Distinguished entries) :=
  decidable_of_iff' _ (distinguished_iff entries)

instance (plan state : α) : Decidable (KeepsIdentity plan state) :=
  decidable_of_iff' _ (keepsIdentity_iff plan state)

/-- Labels tell the entries of a list apart that have one. -/
theorem Distinguished.eq_of_label? (h : Distinguished entries) {p q : Placed α}
    (hp : p ∈ Placed.ofList entries) (hq : q ∈ Placed.ofList entries) {label : String ⊕ String}
    (labelled : IdentityIndex.label? p.entry = some label)
    (same : IdentityIndex.label? q.entry = some label) : p = q := by
  cases label with
  | inl name =>
      exact Placed.eq_of_nodup_filterMap h.names hp hq (IdentityIndex.label?_eq_name.1 labelled)
        (IdentityIndex.label?_eq_name.1 same)
  | inr key =>
      exact Placed.eq_of_nodup_filterMap h.naturalKeys hp hq
        (IdentityIndex.label?_eq_naturalKey.1 labelled)
        (IdentityIndex.label?_eq_naturalKey.1 same)

/-- Entries with the same name have the same label, if without a name they have the same natural
key. -/
theorem label?_eq_of_normalized_eq {x y : α}
    (name : (Identified.name x).normalized = (Identified.name y).normalized)
    (naturalKey : (Identified.name y).key? = none →
      Identified.naturalKey x = Identified.naturalKey y) :
    IdentityIndex.label? x = IdentityIndex.label? y := by
  rw [IdentityIndex.label?, IdentityIndex.label?, Attr.key?_eq_of_normalized_eq name]
  cases named : (Identified.name y).key? with
  | some name => rfl
  | none => rw [naturalKey named]

/-- An entry is found again by what keeps its identity: by its identifier, else by its label. -/
theorem locate?_of_keepsIdentity (h : Distinguished entries) {p : α} {q : Placed α}
    (hq : q ∈ Placed.ofList entries) (kept : KeepsIdentity p q.entry)
    (naturalKey : (Identified.id p).key? = none → (Identified.name q.entry).key? = none →
      Identified.naturalKey p = Identified.naturalKey q.entry) :
    (IdentityIndex.ofList entries).locate? p = some q := by
  have mem := Placed.entry_mem hq
  cases key : (Identified.id p).key? with
  | some id =>
      have same : (Identified.id q.entry).key? = some id := by
        rcases kept.id with same | ⟨dropped, -⟩
        · rw [← Attr.key?_eq_of_normalized_eq same, key]
        · cases key.symm.trans dropped
      obtain ⟨q', found, there⟩ := IdentityIndex.locate?_of_key? mem key same
      rw [found, Placed.eq_of_nodup_filterMap h.ids hq (IdentityIndex.mem_of_locate? found)
        same there]
  | none =>
      have labelled : (IdentityIndex.label? q.entry).isSome := by
        rcases kept.id with same | ⟨-, labelled⟩
        · refine (h.identified q.entry mem).resolve_left fun present => ?_
          rw [← Attr.key?_eq_of_normalized_eq same, key] at present
          cases present
        · exact labelled
      obtain ⟨label, hlabel⟩ := Option.isSome_iff_exists.1 labelled
      have planned := (label?_eq_of_normalized_eq (kept.name key) (naturalKey key)).trans hlabel
      obtain ⟨q', found, there⟩ := IdentityIndex.locate?_of_label? mem key planned hlabel
      rw [found, h.eq_of_label? hq (IdentityIndex.mem_of_locate? found) hlabel there]

end Identity

/-! ### Lists -/

/-- A relation between planned entries and entries of the state under which a planned entry is found
again and unchanged. -/
structure Restating {α : Type} [Reconcilable α] (R : α → α → Prop) : Prop where
  identity : ∀ {plan state : α}, R plan state → KeepsIdentity plan state
  /-- What has neither an identifier nor a name keeps its natural key. -/
  naturalKey : ∀ {plan state : α}, R plan state → (Identified.id plan).key? = none →
    (Identified.name state).key? = none → Identified.naturalKey plan = Identified.naturalKey state
  unchanged : ∀ {plan state : α}, R plan state → Reconcilable.changedFrom plan state = false

/-- A restated list asks for no change. -/
theorem Restating.isEmpty {α : Type} [Reconcilable α] {R : α → α → Prop} (restating : Restating R)
    {plan state : Attr (List α)} (h : plan.RestatesEntries R state)
    (decided : plan.isUnknown = false) (distinguished : Distinguished state.entries) :
    (Changes.between plan.entries state.entries).isEmpty = true := by
  rcases h with rfl | ⟨order, perm, paired⟩
  · cases decided
  · refine Changes.isEmpty_of_counterparts ?_ restating.unchanged ?_ ?_
    · intro p q hq hR
      exact locate?_of_keepsIdentity distinguished hq (restating.identity hR)
        (restating.naturalKey hR)
    · intro p hp
      obtain ⟨x, hx, hR⟩ := exists_of_forall₂ paired.flip p hp
      exact ⟨x, perm.mem_iff.1 hx, hR⟩
    · intro x hx
      exact exists_of_forall₂ paired x (perm.mem_iff.2 hx)

end CloudProvision
