import CloudProvision.Proofs.Except
import CloudProvision.Proofs.Reordering

/-!
# Deferred attributes

A plan may leave attributes undecided that were decided before. Nothing can be said about the change
of an undecided attribute, so such a plan asks for no change that was not asked for before, as long
as its entries keep what they are found by: their identifiers and labels.

The entries stand where they stood before, so a new entry or a pair of the deferred plan is known
again by its position.

## Main definitions

* `Attr.Defers`, `Attr.DefersEntries`: an attribute or a list that is undecided now, or as it was.
* `Deferring`: a relation between entries that adds no change.
* `Changes.Within`: changes that are among others.

## Main results

* `Changes.within_of_forall₂`: the changes of deferred entries are among those from before.
-/

namespace CloudProvision

/-! ### Attributes -/

namespace Attr

variable {α : Type} {after before state : Attr α}

/-- An attribute is deferred to later if it is undecided now, or as it was before. -/
def Defers (after before : Attr α) : Prop :=
  after = unknown ∨ after = before

/-- A list is deferred if it is undecided now, or each of its entries is related to the one that
stood in its place. -/
def DefersEntries (R : α → α → Prop) (after before : Attr (List α)) : Prop :=
  after = unknown ∨ after.Related (List.Forall₂ R) before

instance [DecidableEq α] (after before : Attr α) : Decidable (after.Defers before) :=
  inferInstanceAs (Decidable (_ ∨ _))

/-- What is still decided is as it was. -/
theorem Defers.eq_of_decided (h : after.Defers before) (decided : after.isUnknown = false) :
    after = before := by
  rcases h with rfl | same
  · cases decided
  · exact same

/-- A deferred attribute that has changed had changed before. -/
theorem Defers.changed [Comparable α] (h : after.Defers before)
    (changed : after.changed state = true) : before.changed state = true := by
  rcases h with rfl | rfl
  · cases changed
  · exact changed

end Attr

/-! ### Lists -/

/-- Each element of a list is related to one of the other. -/
def Among {β : Type} (R : β → β → Prop) (after before : List β) : Prop :=
  ∀ x ∈ after, ∃ y ∈ before, R x y

namespace Among

variable {β : Type} {R : β → β → Prop} {after before : List β}

theorem nil (before : List β) : Among R [] before :=
  fun _ mem => nomatch mem

/-- Nothing is among nothing. -/
theorem eq_nil (h : Among R after []) : after = [] := by
  refine List.eq_nil_iff_forall_not_mem.2 fun x hx => ?_
  obtain ⟨_, hy, -⟩ := h x hx
  cases hy

/-- The elements of related lists are among each other. -/
theorem of_forall₂ (h : List.Forall₂ R after before) : Among R after before :=
  fun x hx => (exists_of_forall₂ h.flip x hx).imp fun _ hy => hy

/-- So are parts of them, if an element is taken only with its partner. -/
theorem filter {p q : β → Bool} (h : List.Forall₂ R after before)
    (taken : ∀ x y, R x y → p x = true → q y = true) :
    Among R (after.filter p) (before.filter q) := by
  intro x hx
  obtain ⟨mem, holds⟩ := List.mem_filter.1 hx
  obtain ⟨y, hy, related⟩ := of_forall₂ h x mem
  exact ⟨y, List.mem_filter.2 ⟨hy, taken x y related holds⟩, related⟩

end Among

/-- Entries of related lists stand at the same positions. -/
theorem Placed.forall₂_ofList {α : Type} {R : α → α → Prop} {after before : List α}
    (h : List.Forall₂ R after before) :
    List.Forall₂ (Placed.MovedFrom id R) (Placed.ofList after) (Placed.ofList before) := by
  rw [List.forall₂_iff_get] at h ⊢
  obtain ⟨length, related⟩ := h
  refine ⟨by rw [length_ofList, length_ofList, length], fun i hi hi' => ?_⟩
  rw [length_ofList] at hi hi'
  have there := related i hi hi'
  exact ⟨by simp [ofList], by simpa [ofList] using there⟩

/-! ### Changes -/

/-- A relation between entries that adds no change: deferred entries are looked up as before, and
what differs now differed before. -/
structure Deferring {α : Type} [Reconcilable α] (R : α → α → Prop) : Prop extends Alike R where
  changed : ∀ {p q x : α}, R p q → Reconcilable.changedFrom p x = true →
    Reconcilable.changedFrom q x = true

namespace Changes

variable {α : Type} {R : α → α → Prop} {plan plan' state : List α}

section Identified

variable [Identified α]

/-- Entries that are looked up alike have the same partners. -/
theorem forall₂_matched (state : List α) (alike : Alike R) (h : List.Forall₂ R plan' plan) :
    List.Forall₂ (Pairing.PlanMoved id R) (between plan' state).matched
      (between plan state).matched :=
  List.rel_filterMap (fun _ _ moved => pair?_of_plan_moved alike moved) (Placed.forall₂_ofList h)

/-- The same entries are new. -/
theorem forall₂_added (alike : Alike R) (h : List.Forall₂ R plan' plan) :
    List.Forall₂ (Placed.MovedFrom id R) (between plan' state).added
      (between plan state).added :=
  forall₂_filter (Placed.forall₂_ofList h) fun _ _ moved =>
    isNone_eq_of_rel (pair?_of_plan_moved alike moved)

/-- The same entries are left over. -/
theorem removed_eq (alike : Alike R) (h : List.Forall₂ R plan' plan) :
    (between plan' state).removed = (between plan state).removed := by
  have matched := forall₂_matched state alike h
  refine List.filter_congr fun x _ => ?_
  exact SameUpToOrder.all_eq ⟨_, .refl _, matched⟩ fun m' m moved => by rw [moved.state]

end Identified

variable [Reconcilable α]

/-- Changes that are among others: nothing else is new, changed or left over. -/
structure Within (R : α → α → Prop) (after before : Changes α) : Prop where
  added : Among (Placed.MovedFrom id R) after.added before.added
  changed : Among (Pairing.PlanMoved id R) after.changed before.changed
  removed : after.removed ⊆ before.removed

/-- No changes are among all. -/
theorem within_nil (before : Changes α) : (between [] []).Within R before where
  added := .nil _
  changed := .nil _
  removed := List.nil_subset _

/-- The changes of deferred entries are among those from before. -/
theorem within_of_forall₂ (deferring : Deferring R) (h : List.Forall₂ R plan' plan) :
    (between plan' state).Within R (between plan state) where
  added := .of_forall₂ (forall₂_added deferring.toAlike h)
  changed := by
    refine .filter (forall₂_matched state deferring.toAlike h) fun m' m moved changed => ?_
    rw [moved.state] at changed
    exact deferring.changed moved.plan.entry changed
  removed := by rw [removed_eq deferring.toAlike h]; exact List.Subset.refl _

/-- If there was nothing to do before, there is nothing to do now. -/
theorem Within.isEmpty {after before : Changes α} (h : after.Within R before)
    (empty : before.isEmpty = true) : after.isEmpty = true := by
  simp only [Changes.isEmpty, membershipChanged, Bool.and_eq_true, Bool.not_eq_true',
    Bool.or_eq_false_iff, Bool.not_eq_false', List.isEmpty_iff] at empty ⊢
  obtain ⟨⟨added, removed⟩, changed⟩ := empty
  exact ⟨⟨Among.eq_nil (added ▸ h.added), List.subset_nil.1 (removed ▸ h.removed)⟩,
    Among.eq_nil (changed ▸ h.changed)⟩

end Changes

end CloudProvision
