import CloudProvision.Proofs.LoadBalancer.Difference
import CloudProvision.Proofs.Pairing

/-!
# Two comparisons of backends

Backends are compared like every other collection, and once more with their changes split: into
those of the type of targets, of the fields, and of the targets. Both comparisons see the same
changes. Merging the three lists gives back the backends that differ, in the order of the plan.

## Main definitions

* `Pairing.merge`: two lists of pairs in the order of the plan as one.

## Main results

* `Pairing.merge_filter`: parts of a list merge to the part of both.
* `BackendChanges.refines_changes`: the split comparison refines the other one.
-/

namespace CloudProvision

/-! ### Merging -/

namespace Pairing

variable {α : Type}

/-- Two lists of pairs, each in the order of the plan, as one. A pair of both occurs once. -/
def merge : List (Pairing α) → List (Pairing α) → List (Pairing α)
  | [], right => right
  | left, [] => left
  | m :: left, m' :: right =>
    if m.plan.position < m'.plan.position then m :: merge left (m' :: right)
    else if m'.plan.position < m.plan.position then m' :: merge (m :: left) right
    else m :: merge left right

/-- A pair before all others of a list comes first. -/
theorem merge_cons_left {m : Pairing α} {left right : List (Pairing α)}
    (earlier : ∀ m' ∈ right, m.plan.position < m'.plan.position) :
    merge (m :: left) right = m :: merge left right := by
  cases right with
  | nil => cases left <;> simp [merge]
  | cons m' right => rw [merge, if_pos (earlier m' List.mem_cons_self)]

/-- The same on the other side. -/
theorem merge_cons_right {m : Pairing α} {left right : List (Pairing α)}
    (earlier : ∀ m' ∈ left, m.plan.position < m'.plan.position) :
    merge left (m :: right) = m :: merge left right := by
  cases left with
  | nil => simp [merge]
  | cons m' left =>
      have first := earlier m' List.mem_cons_self
      rw [merge, if_neg (Nat.lt_asymm first), if_pos first]

/-- A pair of both lists comes once. -/
theorem merge_cons_cons (m : Pairing α) (left right : List (Pairing α)) :
    merge (m :: left) (m :: right) = m :: merge left right := by
  simp [merge]

/-- Two parts of a list in the order of the plan merge to the part of what is in one of them. -/
theorem merge_filter {pairs : List (Pairing α)}
    (ascending : pairs.Pairwise fun m m' => m.plan.position < m'.plan.position)
    (p q : Pairing α → Bool) :
    merge (pairs.filter p) (pairs.filter q) = pairs.filter fun m => p m || q m := by
  induction ascending with
  | nil => simp [merge]
  | @cons m rest earlier _ ih =>
      have before (r : Pairing α → Bool) :
          ∀ m' ∈ rest.filter r, m.plan.position < m'.plan.position :=
        fun m' hm' => earlier m' (List.mem_of_mem_filter hm')
      cases hp : p m <;> cases hq : q m <;>
        simp only [List.filter_cons, hp, hq, Bool.or_false, Bool.or_true, Bool.false_eq_true,
          if_true, if_false]
      · exact ih
      · rw [merge_cons_right (before p), ih]
      · rw [merge_cons_left (before q), ih]
      · rw [merge_cons_cons, ih]

end Pairing

/-! ### Backends -/

namespace LoadBalancer.BackendChanges

open Pairing (merge)

variable (plan state : List Backend)

/-- The lists of a comparison are parts of the pairs. -/
theorem recreated_eq_filter : (between plan state).recreated =
    (Changes.between plan state).matched.filter fun m =>
      m.plan.entry.targetsTypeChanged m.state.entry := by
  simp [between, List.partition_eq_filter_filter]

theorem fields_eq_filter : (between plan state).fields =
    (Changes.between plan state).matched.filter fun m =>
      !m.plan.entry.targetsTypeChanged m.state.entry &&
        m.plan.entry.fieldsChanged m.state.entry := by
  simp [between, List.partition_eq_filter_filter, List.filter_filter, Bool.and_comm]

theorem targets_eq_filter : (between plan state).targets =
    (Changes.between plan state).matched.filter fun m =>
      !m.plan.entry.targetsTypeChanged m.state.entry &&
        targetsChanged m.plan.entry.targets m.state.entry.targets := by
  simp [between, List.partition_eq_filter_filter, List.filter_filter, Bool.and_comm]

/-- The pairs that differ, in the order of the plan. -/
theorem changed_eq_merge : (Changes.between plan state).changed =
    merge (between plan state).recreated
      (merge (between plan state).fields (between plan state).targets) := by
  have ascending := Changes.ascending_matched plan state
  rw [recreated_eq_filter, fields_eq_filter, targets_eq_filter, Pairing.merge_filter ascending,
    Pairing.merge_filter ascending, Changes.changed]
  refine congrArg (List.filter · _) (funext fun m => ?_)
  change m.plan.entry.changedFrom m.state.entry = _
  rw [Backend.changedFrom]
  cases m.plan.entry.targetsTypeChanged m.state.entry <;> simp

variable {plan state}

/-- A pair is in one of the lists exactly if its backend differs. -/
theorem mem_lists_iff {m : Pairing Backend} :
    m ∈ (between plan state).recreated ∨ m ∈ (between plan state).fields ∨
        m ∈ (between plan state).targets ↔
      m ∈ (Changes.between plan state).matched ∧
        m.plan.entry.changedFrom m.state.entry = true := by
  rw [mem_recreated, mem_fields, mem_targets, Backend.changedFrom]
  cases m.plan.entry.targetsTypeChanged m.state.entry <;> simp [and_or_left]

/-- A part of the pairs is in the order of the plan. -/
theorem map_plan_filter_sublist (p : Pairing Backend → Bool) :
    (((Changes.between plan state).matched.filter p).map Pairing.plan).Sublist
      (Placed.ofList plan) := by
  refine (List.filter_sublist.map Pairing.plan).trans ?_
  rw [Changes.map_plan_matched_eq_filter]
  exact List.filter_sublist

/-- The comparison of backends that splits their changes says what the comparison of all collections
says: what is new and left over, which pairs differ, in the order of the plan, and whether there is
anything to do. A backend that is created again is not updated as well. -/
theorem refines_changes (plan state : List Backend) :
    let changes := Changes.between plan state
    let backends := between plan state
    (backends.added = changes.added ∧ backends.removed = changes.removed) ∧
    (∀ m, m ∈ backends.recreated ∨ m ∈ backends.fields ∨ m ∈ backends.targets ↔
      m ∈ changes.matched ∧ m.plan.entry.changedFrom m.state.entry = true) ∧
    reconcile plan state =
      (merge backends.recreated (merge backends.fields backends.targets)).map Pairing.plan ∧
    (backends.recreated.Disjoint backends.fields ∧
      backends.recreated.Disjoint backends.targets) ∧
    (backends.added.Sublist (Placed.ofList plan) ∧
      (backends.recreated.map Pairing.plan).Sublist (Placed.ofList plan) ∧
      (backends.fields.map Pairing.plan).Sublist (Placed.ofList plan) ∧
      (backends.targets.map Pairing.plan).Sublist (Placed.ofList plan)) ∧
    (backends.isEmpty = true ↔ changes.membershipChanged = false ∧ changes.changed = []) := by
  have apart {m : Pairing Backend} (again : m ∈ (between plan state).recreated)
      (same : m.plan.entry.targetsTypeChanged m.state.entry = false) : False := by
    rw [(mem_recreated.1 again).2] at same
    cases same
  refine ⟨⟨rfl, rfl⟩, fun m => mem_lists_iff, ?_, ⟨?_, ?_⟩, ⟨List.filter_sublist, ?_, ?_, ?_⟩, ?_⟩
  · exact congrArg (List.map Pairing.plan) (changed_eq_merge plan state)
  · exact fun m again updated => apart again (mem_fields.1 updated).2.1
  · exact fun m again updated => apart again (mem_targets.1 updated).2.1
  · rw [recreated_eq_filter]
    exact map_plan_filter_sublist _
  · rw [fields_eq_filter]
    exact map_plan_filter_sublist _
  · rw [targets_eq_filter]
    exact map_plan_filter_sublist _
  · rw [isEmpty_iff, Changes.isEmpty, Bool.and_eq_true, Bool.not_eq_true', List.isEmpty_iff]

end LoadBalancer.BackendChanges

end CloudProvision
