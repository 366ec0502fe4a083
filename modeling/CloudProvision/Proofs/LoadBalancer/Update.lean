import CloudProvision.Proofs.LoadBalancer.Plan
import CloudProvision.Proofs.MemoryCloud.Invariant

/-!
# The steps of an update

The steps of an update come from the plan that a configuration has on a remote load balancer. Their
entries of the state are those of its objects.

## Main results

* `mem_updateSteps` and the lemmas after it: where a step comes from.
* `updateSteps_eq`: the order of the steps.
-/

namespace CloudProvision.LoadBalancer

open Remote (Distinct)

/-! ### Updates -/

/-- The plan that a configuration has on a remote load balancer. -/
def updatePlan (remote : Remote.LoadBalancer) (config : State) : State :=
  (State.ofRemote remote).planUpdate config

/-- The steps from a remote load balancer to the plan. -/
def updateSteps (remote : Remote.LoadBalancer) (config : State) : List Step :=
  (Difference.between (updatePlan remote config) (.ofRemote remote)).steps
    (updatePlan remote config)

/-- What differs between the health checks of the plan and those of the load balancer. -/
abbrev healthCheckChanges (remote : Remote.LoadBalancer) (config : State) : Changes HealthCheck :=
  .between (updatePlan remote config).healthChecks.entries
    (State.ofRemote remote).healthChecks.entries

/-- What differs between the backends. -/
abbrev backendChanges (remote : Remote.LoadBalancer) (config : State) : Changes Backend :=
  .between (updatePlan remote config).backends.entries (State.ofRemote remote).backends.entries

/-- What differs between the ACLs. -/
abbrev aclChanges (remote : Remote.LoadBalancer) (config : State) : Changes Acl :=
  .between (updatePlan remote config).acls.entries (State.ofRemote remote).acls.entries

/-- What differs between the listeners. -/
abbrev listenerChanges (remote : Remote.LoadBalancer) (config : State) : Changes Listener :=
  .between (updatePlan remote config).listeners.entries (State.ofRemote remote).listeners.entries

/-- An update can be said in terms of objects: they have identifiers of their own, and the
configuration is decided and has none. -/
structure Updatable (remote : Remote.LoadBalancer) (config : State) : Prop where
  healthCheckIds : Distinct (remote.healthChecks.map (·.id))
  backendIds : Distinct (remote.backends.map (·.id))
  aclIds : Distinct (remote.acls.map (·.id))
  listenerIds : Distinct (remote.listeners.map (·.id))
  decided : config.isDecided = true
  bare : config.hasNoIds = true

/-- The states of objects have identifiers of their own. -/
theorem ownIds_of_distinct {α β : Type} [Identified β] {objects : List α} {getId : α → String}
    {f : α → β} (h : Distinct (objects.map getId))
    (known : ∀ x, Identified.id (f x) = .known (getId x)) :
    OwnIds (objects.map f) := by
  constructor
  · have same : (objects.map f).map Identified.id = (objects.map getId).map .known := by
      rw [List.map_map, List.map_map]
      exact List.map_congr_left fun x _ => known x
    rw [same]
    refine h.nodup.map ?_
    intro id id' eq
    exact Attr.known.inj eq
  · intro y hy
    obtain ⟨x, hx, rfl⟩ := List.mem_map.1 hy
    have filled := h.present _ (List.mem_map_of_mem hx)
    rw [known, Attr.key?_of_not_isEmpty filled]
    rfl

namespace Updatable

variable {remote : Remote.LoadBalancer} {config : State} (h : Updatable remote config)

include h

/-! ### Pairs of an update -/

/-- No configured entry has an identifier. -/
theorem bare_entries :
    (∀ l ∈ config.listeners.entries, (Identified.id l).key? = none) ∧
      (∀ a ∈ config.acls.entries, (Identified.id a).key? = none) ∧
      (∀ c ∈ config.healthChecks.entries.map HealthCheck.withDefaults,
        (Identified.id c).key? = none) ∧
      ∀ b ∈ config.backends.entries.map Backend.withDefaults, (Identified.id b).key? = none := by
  have bare := h.bare
  simp only [State.hasNoIds, Bool.and_eq_true, List.all_eq_true, Option.isNone_iff_eq_none] at bare
  obtain ⟨⟨⟨listeners, acls⟩, healthChecks⟩, backends⟩ := bare
  exact ⟨listeners, acls, List.forall_mem_map.2 healthChecks, List.forall_mem_map.2 backends⟩

theorem listeners_ownIds : OwnIds (State.ofRemote remote).listeners.entries :=
  ownIds_of_distinct h.listenerIds fun _ => rfl

theorem acls_ownIds : OwnIds (State.ofRemote remote).acls.entries :=
  ownIds_of_distinct h.aclIds fun _ => rfl

theorem healthChecks_ownIds : OwnIds (State.ofRemote remote).healthChecks.entries :=
  ownIds_of_distinct h.healthCheckIds fun _ => rfl

theorem backends_ownIds : OwnIds (State.ofRemote remote).backends.entries :=
  ownIds_of_distinct h.backendIds fun _ => rfl

theorem acls_found : Changes.FoundByLabel (updatePlan remote config).acls.entries
    (State.ofRemote remote).acls.entries :=
  planUpdate_acls.found setsId_acl h.acls_ownIds h.bare_entries.2.1

theorem healthChecks_found : Changes.FoundByLabel (updatePlan remote config).healthChecks.entries
    (State.ofRemote remote).healthChecks.entries :=
  planUpdate_healthChecks.found setsId_healthCheck h.healthChecks_ownIds h.bare_entries.2.2.1

theorem backends_found : Changes.FoundByLabel (updatePlan remote config).backends.entries
    (State.ofRemote remote).backends.entries :=
  planUpdate_backends.found setsId_backend h.backends_ownIds h.bare_entries.2.2.2

end Updatable

/-- The planned entry of a pair stands in the plan and has the name of an object, which the other
entry describes. -/
theorem of_mem_matched {α ρ : Type} [Identified α] {plan : List α} {objects : List ρ} {f : ρ → α}
    (found : Changes.FoundByLabel plan (objects.map f))
    (unkeyed : ∀ x : α, Identified.naturalKey x = none) {m : Pairing α}
    (hm : m ∈ (Changes.between plan (objects.map f)).matched) :
    m.plan.entry ∈ plan ∧ ∃ r ∈ objects, m.state.entry = f r ∧
      Identified.name m.plan.entry = Identified.name (f r) := by
  obtain ⟨r, hr, same⟩ := List.mem_map.1 (Placed.entry_mem (Changes.state_mem_of_mem_matched hm))
  exact ⟨Placed.entry_mem (Changes.mem_matched.1 hm).1, r, hr, same.symm,
    same ▸ found.name_eq unkeyed hm⟩

/-- An entry that is left over describes an object. -/
theorem of_mem_removed {α ρ : Type} [Identified α] {plan : List α} {objects : List ρ} {f : ρ → α}
    {p : Placed α} (hp : p ∈ (Changes.between plan (objects.map f)).removed) :
    ∃ r ∈ objects, p.entry = f r := by
  obtain ⟨r, hr, same⟩ := List.mem_map.1 (Placed.entry_mem (Changes.mem_removed.1 hp).1)
  exact ⟨r, hr, same.symm⟩

/-! ### Where a step comes from -/

section Steps

variable {remote : Remote.LoadBalancer} {config : State}

/-- The order of the steps of an update: listeners are replaced before what is left over is deleted,
health checks last. -/
theorem updateSteps_eq (decided : config.isDecided = true) :
    let plan := updatePlan remote config
    ∃ early, updateSteps remote config = early
        ++ (if (listenerChanges remote config).isEmpty then []
          else [.replaceListeners plan.listeners.entries])
        ++ (backendChanges remote config).removed.map (fun b => .deleteBackend b.entry)
        ++ (healthCheckChanges remote config).removed.map (fun h => .deleteHealthCheck h.entry) ∧
      (∀ listeners, .replaceListeners listeners ∉ early) ∧
      (∀ h, .deleteHealthCheck h ∉ early) ∧
      ∀ b, .deleteBackend b ∈ early → ∃ m ∈ (backendChanges remote config).matched,
        m.plan.entry.targetsTypeChanged m.state.entry = true ∧ m.state.entry = b := by
  obtain ⟨healthChecks, backends, -, listeners⟩ :=
    @between_planUpdate (.ofRemote remote) config decided
  obtain ⟨early, steps, kept, never, again⟩ := Difference.steps_eq
    (Difference.between (updatePlan remote config) (.ofRemote remote)) (updatePlan remote config)
  refine ⟨early, ?_, kept, never, fun b mem => ?_⟩
  · rw [updatePlan, healthChecks, backends, listeners] at steps
    rw [updateSteps, updatePlan, steps, listenerChanges, updatePlan]
    cases (Changes.between (State.planUpdate (.ofRemote remote) config).listeners.entries
      (State.ofRemote remote).listeners.entries).isEmpty <;> rfl
  · obtain ⟨m, hm, same⟩ := again b mem
    rw [updatePlan, backends] at hm
    obtain ⟨matched, retyped⟩ := BackendChanges.mem_recreated.1 hm
    exact ⟨m, matched, retyped, same⟩

variable (decided : config.isDecided = true)

include decided

/-- The steps of an update, in terms of the entries of its plan and its state. -/
theorem mem_updateSteps {step : Step} :
    let plan := updatePlan remote config
    let healthChecks := healthCheckChanges remote config
    let backends := BackendChanges.between plan.backends.entries
      (State.ofRemote remote).backends.entries
    step ∈ updateSteps remote config ↔
      ((plan.name.changed (.known remote.name) ||
        plan.description.changed (.ofOption remote.description)) = true ∧ step = .update plan) ∨
      (∃ p ∈ healthChecks.added, .createHealthCheck p.entry = step) ∨
      (∃ m ∈ healthChecks.changed, .updateHealthCheck m.state.entry m.plan.entry = step) ∨
      (∃ m ∈ backends.recreated,
        step = .deleteBackend m.state.entry ∨ step = .createBackend m.plan.entry) ∨
      (∃ p ∈ backends.added, .createBackend p.entry = step) ∨
      (∃ m ∈ backends.fields, .updateBackend m.state.entry m.plan.entry = step) ∨
      (∃ m ∈ backends.targets, .replaceTargets m.state.entry m.plan.entry = step) ∨
      step ∈ aclSteps (aclChanges remote config) plan ∨
      ((listenerChanges remote config).isEmpty = false ∧
        step = .replaceListeners plan.listeners.entries) ∨
      (∃ p ∈ backends.removed, .deleteBackend p.entry = step) ∨
      ∃ p ∈ healthChecks.removed, .deleteHealthCheck p.entry = step := by
  obtain ⟨healthChecks, backends, acls, listeners⟩ :=
    @between_planUpdate (.ofRemote remote) config decided
  intro plan
  rw [updateSteps, Difference.mem_steps, updatePlan, healthChecks, backends, acls, listeners]
  simp only [Bool.not_eq_true']
  rfl

theorem update_mem_iff {plan : State} : .update plan ∈ updateSteps remote config ↔
    ((updatePlan remote config).name.changed (.known remote.name) = true ∨
      (updatePlan remote config).description.changed (.ofOption remote.description) = true) ∧
      plan = updatePlan remote config := by
  simp [mem_updateSteps decided, mem_aclSteps]

theorem createHealthCheck_mem_iff {p : HealthCheck} :
    .createHealthCheck p ∈ updateSteps remote config ↔
      ∃ q ∈ (healthCheckChanges remote config).added, q.entry = p := by
  simp [mem_updateSteps decided, mem_aclSteps]

theorem updateHealthCheck_mem_iff {r p : HealthCheck} :
    .updateHealthCheck r p ∈ updateSteps remote config ↔
      ∃ m ∈ (healthCheckChanges remote config).matched,
        m.plan.entry.changedFrom m.state.entry = true ∧ m.state.entry = r ∧ m.plan.entry = p := by
  simp [mem_updateSteps decided, mem_aclSteps, Changes.changed, and_assoc]
  rfl

theorem deleteHealthCheck_mem_iff {r : HealthCheck} :
    .deleteHealthCheck r ∈ updateSteps remote config ↔
      ∃ q ∈ (healthCheckChanges remote config).removed, q.entry = r := by
  simp [mem_updateSteps decided, mem_aclSteps]

theorem createBackend_mem_iff {p : Backend} :
    .createBackend p ∈ updateSteps remote config ↔
      (∃ m ∈ (backendChanges remote config).matched,
        m.plan.entry.targetsTypeChanged m.state.entry = true ∧ m.plan.entry = p) ∨
      ∃ q ∈ (backendChanges remote config).added, q.entry = p := by
  simp [mem_updateSteps decided, mem_aclSteps, BackendChanges.mem_recreated, and_assoc,
    @eq_comm _ p]
  rfl

theorem updateBackend_mem_iff {r p : Backend} :
    .updateBackend r p ∈ updateSteps remote config ↔
      ∃ m ∈ (backendChanges remote config).matched,
        m.plan.entry.targetsTypeChanged m.state.entry = false ∧
        m.plan.entry.fieldsChanged m.state.entry = true ∧ m.state.entry = r ∧ m.plan.entry = p := by
  simp [mem_updateSteps decided, mem_aclSteps, BackendChanges.mem_fields, and_assoc]

theorem replaceTargets_mem_iff {r p : Backend} :
    .replaceTargets r p ∈ updateSteps remote config ↔
      ∃ m ∈ (backendChanges remote config).matched,
        m.plan.entry.targetsTypeChanged m.state.entry = false ∧
        targetsChanged m.plan.entry.targets m.state.entry.targets = true ∧
        m.state.entry = r ∧ m.plan.entry = p := by
  simp [mem_updateSteps decided, mem_aclSteps, BackendChanges.mem_targets, and_assoc]

theorem deleteBackend_mem_iff {r : Backend} :
    .deleteBackend r ∈ updateSteps remote config ↔
      (∃ m ∈ (backendChanges remote config).matched,
        m.plan.entry.targetsTypeChanged m.state.entry = true ∧ m.state.entry = r) ∨
      ∃ q ∈ (backendChanges remote config).removed, q.entry = r := by
  simp [mem_updateSteps decided, mem_aclSteps, BackendChanges.mem_recreated, and_assoc,
    @eq_comm _ r]
  rfl

/-- A backend that is deleted describes an object. -/
theorem of_deleteBackend_mem {b : Backend} (mem : .deleteBackend b ∈ updateSteps remote config) :
    ∃ r ∈ remote.backends, b = .ofRemote remote r := by
  rcases (deleteBackend_mem_iff decided).1 mem with ⟨m, hm, -, rfl⟩ | ⟨q, hq, rfl⟩
  · obtain ⟨r, hr, same⟩ := List.mem_map.1 (Placed.entry_mem (Changes.state_mem_of_mem_matched hm))
    exact ⟨r, hr, same.symm⟩
  · exact of_mem_removed hq

theorem updateAcl_mem_iff {r p : Acl} :
    .updateAcl r p ∈ updateSteps remote config ↔
      (aclChanges remote config).membershipChanged = false ∧
        ∃ m ∈ (aclChanges remote config).matched,
          m.plan.entry.changedFrom m.state.entry = true ∧ m.state.entry = r ∧ m.plan.entry = p := by
  simp [mem_updateSteps decided, mem_aclSteps, Changes.changed, and_assoc]
  exact fun _ => .rfl

theorem replaceAcls_mem_iff {plan : List Acl} :
    .replaceAcls plan ∈ updateSteps remote config ↔
      (aclChanges remote config).membershipChanged = true ∧
        plan = (updatePlan remote config).acls.entries := by
  simp [mem_updateSteps decided, mem_aclSteps]

theorem replaceListeners_mem_iff {plan : List Listener} :
    .replaceListeners plan ∈ updateSteps remote config ↔
      (listenerChanges remote config).isEmpty = false ∧
        plan = (updatePlan remote config).listeners.entries := by
  simp [mem_updateSteps decided, mem_aclSteps]

end Steps

end CloudProvision.LoadBalancer
