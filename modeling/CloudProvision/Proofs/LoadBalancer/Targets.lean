import CloudProvision.Proofs.LoadBalancer.Reordering
import Mathlib.Data.Multiset.MapFold
import Mathlib.Data.List.FinRange
import Mathlib.Data.List.Perm.Subperm

/-!
# Targets are compared as multisets

The targets of a backend have not changed if there are as many of them as planned and each planned
target without an undecided field has a target of its own that is equal to it up to blanks. Which
of several equal targets a search takes, and how it arranges those left over, does not matter.

## Main definitions

* `decidedTargets`: the planned targets that are compared.
* `forms`: targets up to blanks and order.
* `Assignable`: planned targets that each have a target of their own.
* `Search`: the greedy searches for planned targets.

## Main results

* `assignable_iff_forms_le`: assignments are inclusions of multisets.
* `Search.found_eq`: a greedy search finds all targets exactly if there is an assignment.
* `targetsChanged_eq_false_iff`: when targets have not changed.
-/

namespace CloudProvision.LoadBalancer

/-- The planned targets without an undecided field. -/
def decidedTargets (plan : Attr (List Target)) : List Target :=
  plan.entries.filter (!·.hasUnknown)

/-- The multiset of targets, blank fields counting as absent. -/
def forms (targets : List Target) : Multiset Target :=
  ↑(targets.map Target.normalized)

/-- Each of the planned targets has a target of the state of its own that is the same. -/
def Assignable (plan state : List Target) : Prop :=
  ∃ assigned : Fin plan.length ↪ Fin state.length,
    ∀ i, (plan.get i).sameAs (state.get (assigned i)) = true

/-! ### Assignments -/

/-- The targets at some positions, up to blanks. -/
private def formsAt (state : List Target) (positions : List (Fin state.length)) : List Target :=
  positions.map fun i => (state.get i).normalized

/-- The targets at all positions are all targets. -/
private theorem formsAt_finRange (state : List Target) :
    formsAt state (List.finRange state.length) = state.map Target.normalized := by
  conv_rhs => rw [← List.map_get_finRange state, List.map_map]
  rfl

/-- Some of the targets are those at distinct positions. -/
private theorem subperm_iff_exists_positions {plan state : List Target} :
    (plan.map Target.normalized).Subperm (state.map Target.normalized) ↔
      ∃ positions : List (Fin state.length), positions.Nodup ∧
        plan.map Target.normalized = formsAt state positions := by
  constructor
  · intro subperm
    obtain ⟨some, perm, sublist⟩ := subperm
    rw [← formsAt_finRange, formsAt, List.sublist_map_iff] at sublist
    obtain ⟨kept, sublist, rfl⟩ := sublist
    have placed : List.Forall₂ (fun x i => x = (state.get i).normalized)
        (kept.map fun i => (state.get i).normalized) kept := by
      rw [List.forall₂_map_left_iff]
      exact List.forall₂_same.2 fun _ _ => rfl
    -- The positions are put in the order of the planned targets.
    obtain ⟨positions, at', perm⟩ := List.perm_comp_forall₂ perm.symm placed
    refine ⟨positions, perm.nodup_iff.2 (sublist.nodup (List.nodup_finRange _)), ?_⟩
    rw [← List.forall₂_eq_eq_eq, formsAt, List.forall₂_map_right_iff]
    exact at'
  · rintro ⟨positions, nodup, eq⟩
    have some : positions.Subperm (List.finRange state.length) :=
      List.subperm_of_subset nodup fun i _ => List.mem_finRange i
    rw [eq, ← formsAt_finRange]
    exact Multiset.coe_le.1 (Multiset.map_le_map (Multiset.coe_le.2 some))

/-- Planned targets have targets of their own if they are some of the targets, as multisets. -/
theorem assignable_iff_forms_le {plan state : List Target} :
    Assignable plan state ↔ forms plan ≤ forms state := by
  rw [forms, forms, Multiset.coe_le, subperm_iff_exists_positions]
  constructor
  · rintro ⟨assigned, same⟩
    refine ⟨List.ofFn assigned, List.nodup_ofFn.2 assigned.injective, ?_⟩
    conv_lhs => rw [← List.ofFn_get plan, List.map_ofFn]
    rw [formsAt, List.map_ofFn]
    refine congrArg List.ofFn (funext fun i => ?_)
    simpa [Target.sameAs_eq] using same i
  · rintro ⟨positions, nodup, eq⟩
    have length : plan.length = positions.length := by
      simpa [formsAt] using congrArg List.length eq
    refine ⟨⟨fun i => positions.get (i.cast length), fun i j same => ?_⟩, fun i => ?_⟩
    · exact Fin.cast_injective length (nodup.injective_get same)
    · have same := List.getElem_of_eq eq (i := i) (by simp)
      rw [Target.sameAs_eq, beq_iff_eq]
      simpa [formsAt] using same

/-! ### Searches -/

/-- A search for planned targets among those that are left. Whichever equal target is found is taken
away, and the others are left in any order. -/
inductive Search : (plan left : List Target) → (found : Bool) → Prop where
  | done (left : List Target) : Search [] left true
  | missing {t : Target} {rest left : List Target} (absent : left.any t.sameAs = false) :
    Search (t :: rest) left false
  | taken {t x : Target} {rest left others : List Target} {found : Bool}
    (same : t.sameAs x = true) (perm : left.Perm (x :: others))
    (search : Search rest others found) :
    Search (t :: rest) left found

/-- A target is covered by any target that is the same, if the others are covered by those left. -/
private theorem coveredBy_cons {t x : Target} (same : t.sameAs x = true)
    {rest left others : List Target} (perm : left.Perm (x :: others)) :
    coveredBy (t :: rest) left = coveredBy rest others := by
  rw [Target.sameAs_eq, beq_iff_eq] at same
  rw [Bool.eq_iff_iff, coveredBy_iff_subperm, coveredBy_iff_subperm, (perm.map _).subperm_left,
    List.map_cons, List.map_cons, same, List.subperm_cons]

/-- No choice of a greedy search loses an assignment: all searches find the same. -/
theorem Search.found_eq {plan left : List Target} {found : Bool} (search : Search plan left found) :
    found = coveredBy plan left := by
  induction search with
  | done left => rfl
  | @missing t rest left absent =>
      have nowhere : left.findIdx? t.sameAs = none := by simpa using absent
      rw [coveredBy, nowhere]
  | taken same perm _ ih => rw [ih, coveredBy_cons same perm]

/-- To find planned targets in turn is a search. -/
theorem search_coveredBy (plan left : List Target) : Search plan left (coveredBy plan left) := by
  induction plan generalizing left with
  | nil => exact .done left
  | cons t rest ih =>
      rw [coveredBy]
      cases at? : left.findIdx? t.sameAs with
      | none => exact .missing (List.any_eq_false.2 (by simpa using at?))
      | some i =>
          obtain ⟨bound, same, -⟩ := List.findIdx?_eq_some_iff_getElem.1 at?
          exact .taken same (swapRemove_perm bound) (ih _)

/-- What searches find is whether there is an assignment. -/
theorem search_iff {plan left : List Target} {found : Bool} :
    Search plan left found ↔ (found = true ↔ Assignable plan left) := by
  rw [assignable_iff_forms_le, forms, forms, Multiset.coe_le, ← coveredBy_iff_subperm,
    ← Bool.eq_iff_iff]
  constructor
  · exact Search.found_eq
  · rintro rfl
    exact search_coveredBy plan left

/-! ### Targets that have not changed -/

/-- Targets have not changed if one of the lists is undecided, or if there are as many as planned
and the decided ones among the planned targets are, as a multiset, some of those in the state. That
is, there is an assignment, and every greedy search finds one. The order of neither list matters. -/
theorem targetsChanged_eq_false_iff (plan state : Attr (List Target)) :
    (targetsChanged plan state = false ↔
      plan.isUnknown = true ∨ state.isUnknown = true ∨
        plan.entries.length = state.entries.length ∧
          forms (decidedTargets plan) ≤ forms state.entries) ∧
    (forms (decidedTargets plan) ≤ forms state.entries ↔
      Assignable (decidedTargets plan) state.entries) ∧
    (∀ found, Search (decidedTargets plan) state.entries found ↔
      (found = true ↔ Assignable (decidedTargets plan) state.entries)) ∧
    (∀ plan' state', plan'.Related List.Perm plan → state'.Related List.Perm state →
      targetsChanged plan' state' = targetsChanged plan state) := by
  refine ⟨?_, assignable_iff_forms_le.symm, fun found => search_iff, fun plan' state' =>
    targetsChanged_congr⟩
  rw [targetsChanged, ← decidedTargets, forms, forms, Multiset.coe_le, ← coveredBy_iff_subperm]
  cases plan.isUnknown <;> cases state.isUnknown <;>
    by_cases length : plan.entries.length = state.entries.length <;> simp [length]

end CloudProvision.LoadBalancer
