import CloudProvision.LoadBalancer.Step
import CloudProvision.Proofs.Changes
import Mathlib.Tactic.Tauto

/-!
# The parts of a difference and its steps

## Main results

* `coveredBy_iff_subperm`: targets are compared as multisets.
* `BackendChanges.mem_recreated`, `BackendChanges.mem_fields`, `BackendChanges.mem_targets`: the
  pairs of backends, by what differs.
* `Difference.mem_steps`, `Difference.steps_eq`: the steps of a difference, and their order.
* `Difference.steps_eq_nil_iff`: there is no step to make exactly if there is no difference.
-/

namespace CloudProvision.LoadBalancer

/-! ### What is compared -/

/-- What is compared of the state stands in the state. -/
theorem mem_of_mem_collections {α : Type} {plan state : Attr (List α)} {p : Placed α}
    (h : p ∈ Placed.ofList (collections plan state).2) : p.entry ∈ state.entries := by
  have mem := Placed.entry_mem h
  rw [collections] at mem
  split at mem
  · cases mem
  · exact mem

/-! ### Targets -/

/-- A target with blank fields left out. -/
def Target.normalized (t : Target) : Target :=
  ⟨t.nicId.normalized, t.ipAddress.normalized, t.port.normalized⟩

/-- Targets are the same if they are equal up to blanks. -/
theorem Target.sameAs_eq (plan state : Target) :
    plan.sameAs state = (plan.normalized == state.normalized) := by
  rw [Bool.eq_iff_iff]
  simp [sameAs, normalized, and_assoc]

/-- What is left after an entry was removed, with it, is what was there. -/
theorem swapRemove_perm {α : Type} {xs : List α} {i : Nat} (bound : i < xs.length) :
    xs.Perm (xs[i] :: swapRemove xs i) := by
  obtain rfl | ⟨init, last, rfl⟩ := List.eq_nil_or_concat' xs
  · simp at bound
  have last? : (init ++ [last]).getLast? = some last := by simp
  rw [swapRemove, last?]
  rcases Nat.lt_or_ge i init.length with inside | outside
  · have filled : (init.set i last).Perm (last :: init.eraseIdx i) :=
      List.set_perm_cons_eraseIdx inside last
    have taken : (init ++ [last]).Perm (init[i] :: (init.eraseIdx i ++ [last])) :=
      (List.getElem_cons_eraseIdx_perm inside).symm.append_right _
    have moved : (init.eraseIdx i ++ [last]).Perm (init.set i last) :=
      (List.perm_append_singleton _ _).trans filled.symm
    simpa [List.getElem_append, List.set_append, inside] using taken.trans (moved.cons _)
  · obtain rfl : i = init.length := by simp at bound; omega
    simp

/-- Targets cover others if up to blanks they are some of them, as multisets. -/
theorem coveredBy_iff_subperm {plan left : List Target} : coveredBy plan left = true ↔
    (plan.map Target.normalized).Subperm (left.map Target.normalized) := by
  induction plan generalizing left with
  | nil => simp [coveredBy]
  | cons t rest ih =>
      rw [coveredBy]
      cases at? : left.findIdx? t.sameAs with
      | none =>
          refine iff_of_false Bool.false_ne_true fun covered => ?_
          obtain ⟨x, hx, same⟩ := List.mem_map.1 (covered.subset List.mem_cons_self)
          have differs := List.findIdx?_eq_none_iff.1 at? x hx
          rw [Target.sameAs_eq, same, beq_self_eq_true] at differs
          cases differs
      | some i =>
          obtain ⟨bound, same, -⟩ := List.findIdx?_eq_some_iff_getElem.1 at?
          rw [Target.sameAs_eq, beq_iff_eq] at same
          have taken := (swapRemove_perm bound).map Target.normalized
          rw [List.map_cons, ← same] at taken
          rw [taken.subperm_left, List.map_cons, List.subperm_cons]
          exact ih

namespace BackendChanges

variable {plan state : List Backend} {m : Pairing Backend}

/-- Backends that are created again are pairs with another type of targets. -/
theorem mem_recreated : m ∈ (between plan state).recreated ↔
    m ∈ (Changes.between plan state).matched ∧
      m.plan.entry.targetsTypeChanged m.state.entry = true := by
  simp [between]

/-- Other pairs with a changed field. -/
theorem mem_fields : m ∈ (between plan state).fields ↔
    m ∈ (Changes.between plan state).matched ∧
      m.plan.entry.targetsTypeChanged m.state.entry = false ∧
      m.plan.entry.fieldsChanged m.state.entry = true := by
  simp [between, and_comm]

/-- Other pairs with changed targets. -/
theorem mem_targets : m ∈ (between plan state).targets ↔
    m ∈ (Changes.between plan state).matched ∧
      m.plan.entry.targetsTypeChanged m.state.entry = false ∧
      targetsChanged m.plan.entry.targets m.state.entry.targets = true := by
  simp [between, and_comm]

/-- Backends need nothing if there is nothing to do for their entries. -/
theorem isEmpty_of_isEmpty (h : (Changes.between plan state).isEmpty = true) :
    (between plan state).isEmpty = true := by
  obtain ⟨added, removed, unchanged⟩ := Changes.isEmpty_iff.1 h
  have parts {m : Pairing Backend} (hm : m ∈ (Changes.between plan state).matched) :
      (m.plan.entry.targetsTypeChanged m.state.entry = false ∧
        m.plan.entry.fieldsChanged m.state.entry = false) ∧
        targetsChanged m.plan.entry.targets m.state.entry.targets = false := by
    have same : m.plan.entry.changedFrom m.state.entry = false := unchanged m hm
    simpa only [Backend.changedFrom, Bool.or_eq_false_iff] using same
  have recreated : (between plan state).recreated = [] :=
    List.eq_nil_iff_forall_not_mem.2 fun m hm => by
      obtain ⟨matched, changed⟩ := mem_recreated.1 hm
      simp [(parts matched).1.1] at changed
  have fields : (between plan state).fields = [] :=
    List.eq_nil_iff_forall_not_mem.2 fun m hm => by
      obtain ⟨matched, -, changed⟩ := mem_fields.1 hm
      simp [(parts matched).1.2] at changed
  have targets : (between plan state).targets = [] :=
    List.eq_nil_iff_forall_not_mem.2 fun m hm => by
      obtain ⟨matched, -, changed⟩ := mem_targets.1 hm
      simp [(parts matched).2] at changed
  have same : (between plan state).added = [] ∧ (between plan state).removed = [] :=
    ⟨added, removed⟩
  rw [isEmpty, same.1, same.2, recreated, fields, targets]
  rfl

/-- Backends need nothing exactly if there is nothing to do for their entries. -/
theorem isEmpty_iff :
    (between plan state).isEmpty = true ↔ (Changes.between plan state).isEmpty = true := by
  refine ⟨fun h => ?_, isEmpty_of_isEmpty⟩
  simp only [isEmpty, Bool.and_eq_true, List.isEmpty_iff] at h
  obtain ⟨⟨⟨⟨added, removed⟩, recreated⟩, fields⟩, targets⟩ := h
  refine Changes.isEmpty_iff.2 ⟨added, removed, fun m hm => ?_⟩
  have targetsType : m.plan.entry.targetsTypeChanged m.state.entry = false := by
    by_contra changed
    exact List.eq_nil_iff_forall_not_mem.1 recreated m
      (mem_recreated.2 ⟨hm, Bool.not_eq_false _ ▸ changed⟩)
  have sameFields : m.plan.entry.fieldsChanged m.state.entry = false := by
    by_contra changed
    exact List.eq_nil_iff_forall_not_mem.1 fields m
      (mem_fields.2 ⟨hm, targetsType, Bool.not_eq_false _ ▸ changed⟩)
  have sameTargets : targetsChanged m.plan.entry.targets m.state.entry.targets = false := by
    by_contra changed
    exact List.eq_nil_iff_forall_not_mem.1 targets m
      (mem_targets.2 ⟨hm, targetsType, Bool.not_eq_false _ ▸ changed⟩)
  change m.plan.entry.changedFrom m.state.entry = false
  rw [Backend.changedFrom, targetsType, sameFields, sameTargets]
  rfl

end BackendChanges

/-! ### The steps of a difference -/

/-- The steps of changed ACLs. -/
theorem mem_aclSteps {changes : Changes Acl} {plan : State} {step : Step} :
    step ∈ aclSteps changes plan ↔
      (changes.membershipChanged = true ∧ step = .replaceAcls plan.acls.entries) ∨
      (changes.membershipChanged = false ∧
        ∃ m ∈ changes.changed, .updateAcl m.state.entry m.plan.entry = step) := by
  rw [aclSteps]
  cases changes.membershipChanged <;> simp

/-- The steps of a difference. -/
theorem Difference.mem_steps {d : Difference} {plan : State} {step : Step} :
    step ∈ d.steps plan ↔
      (d.topLevel = true ∧ step = .update plan) ∨
      (∃ p ∈ d.healthChecks.added, .createHealthCheck p.entry = step) ∨
      (∃ m ∈ d.healthChecks.changed, .updateHealthCheck m.state.entry m.plan.entry = step) ∨
      (∃ m ∈ d.backends.recreated,
        step = .deleteBackend m.state.entry ∨ step = .createBackend m.plan.entry) ∨
      (∃ p ∈ d.backends.added, .createBackend p.entry = step) ∨
      (∃ m ∈ d.backends.fields, .updateBackend m.state.entry m.plan.entry = step) ∨
      (∃ m ∈ d.backends.targets, .replaceTargets m.state.entry m.plan.entry = step) ∨
      step ∈ aclSteps d.acls plan ∨
      (d.listeners = true ∧ step = .replaceListeners plan.listeners.entries) ∨
      (∃ p ∈ d.backends.removed, .deleteBackend p.entry = step) ∨
      ∃ p ∈ d.healthChecks.removed, .deleteHealthCheck p.entry = step := by
  simp only [steps, List.mem_append, List.mem_map, List.mem_flatMap, List.mem_ite_nil_right,
    List.mem_cons, List.not_mem_nil, or_false, or_assoc]

/-- Listeners are replaced before what is left over is deleted, health checks last. What is deleted
before that is created again. -/
theorem Difference.steps_eq (d : Difference) (plan : State) : ∃ early,
    d.steps plan = early
      ++ (if d.listeners then [.replaceListeners plan.listeners.entries] else [])
      ++ d.backends.removed.map (fun b => .deleteBackend b.entry)
      ++ d.healthChecks.removed.map (fun h => .deleteHealthCheck h.entry) ∧
    (∀ listeners, .replaceListeners listeners ∉ early) ∧
    (∀ h, .deleteHealthCheck h ∉ early) ∧
    ∀ b, .deleteBackend b ∈ early → ∃ m ∈ d.backends.recreated, m.state.entry = b := by
  refine ⟨_, rfl, fun listeners mem => ?_, fun h mem => ?_, fun b mem => ?_⟩
  · simp [mem_aclSteps] at mem
  · simp [mem_aclSteps] at mem
  · simp only [List.mem_append, List.mem_map, List.mem_flatMap, List.mem_ite_nil_right,
      List.mem_cons, List.not_mem_nil, mem_aclSteps, reduceCtorEq, and_false, exists_false,
      Step.deleteBackend.injEq, or_false, false_or] at mem
    obtain ⟨m, hm, rfl⟩ := mem
    exact ⟨m, hm, rfl⟩

/-- No ACL is changed on its own or with the others exactly if the ACLs do not differ. -/
theorem aclSteps_eq_nil_iff {changes : Changes Acl} {plan : State} :
    aclSteps changes plan = [] ↔ changes.isEmpty = true := by
  rw [aclSteps, Changes.isEmpty]
  cases changes.membershipChanged <;> simp

/-- There is no step to make exactly if there is no difference. -/
theorem Difference.steps_eq_nil_iff {difference : Difference} {plan : State} :
    difference.steps plan = [] ↔ difference.isEmpty = true := by
  have flat {pairs : List (Pairing Backend)} {f g : Pairing Backend → Step} :
      pairs.flatMap (fun p => [f p, g p]) = [] ↔ pairs = [] := by
    cases pairs <;> simp
  simp only [steps, List.append_eq_nil_iff, aclSteps_eq_nil_iff, flat, List.map_eq_nil_iff,
    isEmpty, BackendChanges.isEmpty, Changes.isEmpty, Changes.membershipChanged]
  cases difference.topLevel <;> cases difference.listeners <;> simp
  tauto

end CloudProvision.LoadBalancer
