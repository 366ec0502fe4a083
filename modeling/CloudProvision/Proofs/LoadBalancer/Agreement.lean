import CloudProvision.Proofs.LoadBalancer.Plan
import CloudProvision.Proofs.LoadBalancer.Restatement
import CloudProvision.Proofs.Pairing

/-!
# No difference means agreement

Decided load balancers without a difference say the same: their names and descriptions are equal up
to blanks, and each collection of the state lists the planned entries in some order, with other
identifiers at most. No change is missed because two planned entries were compared with one entry of
the state, although an entry may be found by its identifier and another one by its label.

## Main definitions

* `Listener.Agrees` and its siblings: equal up to blanks, but for the identifier.
* `State.Agrees`: the same for a load balancer, whose collections agree up to order.

## Main results

* `Listener.agrees_of_unchanged` and its siblings: what an unchanged entry says.
* `State.agrees_of_isEmpty`: a plan without a difference to its state agrees with it.
-/

namespace CloudProvision.LoadBalancer

open IdentityIndex (label?)

/-! ### Nested objects -/

/-- ACLs that say the same. -/
structure Acl.Agrees (plan state : Acl) : Prop where
  name : plan.name.normalized = state.name.normalized
  action : plan.action.normalized = state.action.normalized
  cidr : plan.cidr.normalized = state.cidr.normalized
  priority : plan.priority.normalized = state.priority.normalized
  description : plan.description.normalized = state.description.normalized

/-- Health checks that say the same. -/
structure HealthCheck.Agrees (plan state : HealthCheck) : Prop where
  name : plan.name.normalized = state.name.normalized
  protocol : plan.protocol.normalized = state.protocol.normalized
  port : plan.port.normalized = state.port.normalized
  path : plan.path.normalized = state.path.normalized
  interval : plan.interval.normalized = state.interval.normalized
  timeout : plan.timeout.normalized = state.timeout.normalized
  healthyThreshold : plan.healthyThreshold.normalized = state.healthyThreshold.normalized
  unhealthyThreshold : plan.unhealthyThreshold.normalized = state.unhealthyThreshold.normalized

/-- Listeners that say the same. -/
structure Listener.Agrees (plan state : Listener) : Prop where
  name : plan.name.normalized = state.name.normalized
  port : plan.port.normalized = state.port.normalized
  protocol : plan.protocol.normalized = state.protocol.normalized
  backend : plan.backend.normalized = state.backend.normalized
  certificateId : plan.certificateId.normalized = state.certificateId.normalized

/-- Backends that say the same. Their panic thresholds are equal as numbers, and their targets as
multisets. -/
structure Backend.Agrees (plan state : Backend) : Prop where
  name : plan.name.normalized = state.name.normalized
  targetsType : plan.targetsType.normalized = state.targetsType.normalized
  panicThreshold : plan.panicThreshold.map Binary64.units = state.panicThreshold.map Binary64.units
  closeConnections : plan.closeConnections.normalized = state.closeConnections.normalized
  healthCheck : plan.healthCheck.normalized = state.healthCheck.normalized
  targets : (plan.targets.entries.map Target.normalized).Perm
    (state.targets.entries.map Target.normalized)

/-- Decided ACLs that have not changed say the same. -/
theorem Acl.agrees_of_unchanged {plan state : Acl} (decided : plan.isDecided = true)
    (decided' : state.isDecided = true) (h : plan.changedFrom state = false) :
    plan.Agrees state := by
  simp only [isDecided, Bool.not_eq_true', Bool.or_eq_false_iff] at decided decided'
  simp only [changedFrom, Bool.or_eq_false_iff] at h
  obtain ⟨⟨⟨⟨⟨-, name⟩, action⟩, cidr⟩, priority⟩, description⟩ := decided
  obtain ⟨⟨⟨⟨⟨-, name'⟩, action'⟩, cidr'⟩, priority'⟩, description'⟩ := decided'
  exact ⟨Attr.normalized_eq_of_changed_eq_false name name' h.1.1.1.1,
    Attr.normalized_eq_of_changed_eq_false action action' h.1.1.1.2,
    Attr.normalized_eq_of_changed_eq_false cidr cidr' h.1.1.2,
    Attr.normalized_eq_of_changed_eq_false priority priority' h.1.2,
    Attr.normalized_eq_of_changed_eq_false description description' h.2⟩

/-- Decided health checks that have not changed say the same. -/
theorem HealthCheck.agrees_of_unchanged {plan state : HealthCheck} (decided : plan.isDecided = true)
    (decided' : state.isDecided = true) (h : plan.changedFrom state = false) :
    plan.Agrees state := by
  simp only [isDecided, Bool.not_eq_true', Bool.or_eq_false_iff] at decided decided'
  simp only [changedFrom, Bool.or_eq_false_iff] at h
  obtain ⟨⟨⟨⟨⟨⟨⟨⟨-, name⟩, protocol⟩, port⟩, path⟩, interval⟩, timeout⟩, healthy⟩, unhealthy⟩ :=
    decided
  obtain ⟨⟨⟨⟨⟨⟨⟨⟨-, name'⟩, protocol'⟩, port'⟩, path'⟩, interval'⟩, timeout'⟩, healthy'⟩,
    unhealthy'⟩ := decided'
  exact ⟨Attr.normalized_eq_of_changed_eq_false name name' h.1.1.1.1.1.1.1,
    Attr.normalized_eq_of_changed_eq_false protocol protocol' h.1.1.1.1.1.1.2,
    Attr.normalized_eq_of_changed_eq_false port port' h.1.1.1.1.1.2,
    Attr.normalized_eq_of_changed_eq_false path path' h.1.1.1.1.2,
    Attr.normalized_eq_of_changed_eq_false interval interval' h.1.1.1.2,
    Attr.normalized_eq_of_changed_eq_false timeout timeout' h.1.1.2,
    Attr.normalized_eq_of_changed_eq_false healthy healthy' h.1.2,
    Attr.normalized_eq_of_changed_eq_false unhealthy unhealthy' h.2⟩

/-- Decided listeners that have not changed say the same. -/
theorem Listener.agrees_of_unchanged {plan state : Listener} (decided : plan.isDecided = true)
    (decided' : state.isDecided = true) (h : plan.changedFrom state = false) :
    plan.Agrees state := by
  simp only [isDecided, Bool.not_eq_true', Bool.or_eq_false_iff] at decided decided'
  simp only [changedFrom, Bool.or_eq_false_iff] at h
  obtain ⟨⟨⟨⟨⟨-, name⟩, port⟩, protocol⟩, backend⟩, certificate⟩ := decided
  obtain ⟨⟨⟨⟨⟨-, name'⟩, port'⟩, protocol'⟩, backend'⟩, certificate'⟩ := decided'
  exact ⟨Attr.normalized_eq_of_changed_eq_false name name' h.1.1.1.1,
    Attr.normalized_eq_of_changed_eq_false port port' h.1.1.1.2,
    Attr.normalized_eq_of_changed_eq_false protocol protocol' h.1.1.2,
    Attr.normalized_eq_of_changed_eq_false backend backend' h.1.2,
    Attr.normalized_eq_of_changed_eq_false certificate certificate' h.2⟩

/-- Decided panic thresholds that have not changed are the same number. -/
theorem units_eq_of_unchanged {plan state : Attr Binary64} (decided : plan.isUnknown = false)
    (decided' : state.isUnknown = false) (h : plan.changed state = false) :
    plan.map Binary64.units = state.map Binary64.units := by
  rcases plan with x | _ | _
  · rcases state with y | _ | _
    · have same : (!(x.units == y.units)) = false := h
      rw [Bool.not_eq_false', beq_iff_eq] at same
      exact congrArg Attr.known same
    · cases h
    · cases decided'
  · rcases state with y | _ | _
    · cases h
    · rfl
    · cases decided'
  · cases decided

/-- Decided targets that have not changed are equal up to blanks, as multisets. -/
theorem targets_perm_of_unchanged {plan state : Attr (List Target)}
    (decided : plan.isUnknown = false) (decided' : state.isUnknown = false)
    (filled : plan.entries.any Target.hasUnknown = false)
    (h : targetsChanged plan state = false) :
    (plan.entries.map Target.normalized).Perm (state.entries.map Target.normalized) := by
  have all : plan.entries.filter (!·.hasUnknown) = plan.entries := by
    refine List.filter_eq_self.2 fun t ht => ?_
    simpa using List.any_eq_false.1 filled t ht
  rw [targetsChanged, decided, decided', all] at h
  by_cases size : plan.entries.length = state.entries.length
  · have covered : coveredBy plan.entries state.entries = true := by simpa [size] using h
    exact (coveredBy_iff_subperm.1 covered).perm_of_length_le (by simp [size])
  · simp [size] at h

/-- Decided backends that have not changed say the same. -/
theorem Backend.agrees_of_unchanged {plan state : Backend} (decided : plan.isDecided = true)
    (decided' : state.isDecided = true) (h : plan.changedFrom state = false) :
    plan.Agrees state := by
  simp only [isDecided, Bool.not_eq_true', Bool.or_eq_false_iff] at decided decided'
  simp only [changedFrom, targetsTypeChanged, fieldsChanged, Bool.or_eq_false_iff] at h
  obtain ⟨⟨⟨⟨⟨⟨⟨-, name⟩, type⟩, threshold⟩, close⟩, check⟩, targets⟩, filled⟩ := decided
  obtain ⟨⟨⟨⟨⟨⟨⟨-, name'⟩, type'⟩, threshold'⟩, close'⟩, check'⟩, targets'⟩, -⟩ := decided'
  obtain ⟨⟨sameType, ⟨⟨sameName, sameThreshold⟩, sameClose⟩, sameCheck⟩, sameTargets⟩ := h
  exact ⟨Attr.normalized_eq_of_changed_eq_false name name' sameName,
    Attr.normalized_eq_of_changed_eq_false type type' sameType,
    units_eq_of_unchanged threshold threshold' sameThreshold,
    Attr.normalized_eq_of_changed_eq_false close close' sameClose,
    Attr.normalized_eq_of_changed_eq_false check check' sameCheck,
    targets_perm_of_unchanged targets targets' filled sameTargets⟩

/-- Whole numbers are compared as they are. -/
theorem normalized_int (x : Attr Int) : x.normalized = x := by
  cases x <;> rfl

/-- Listeners that say the same have the same label. -/
theorem Listener.Agrees.label?_eq {plan state : Listener} (h : plan.Agrees state) :
    label? plan = label? state := by
  refine label?_eq_of_normalized_eq h.name fun _ => ?_
  have port : plan.port = state.port := by
    rw [← normalized_int plan.port, h.port, normalized_int]
  change plan.naturalKey = state.naturalKey
  rw [Listener.naturalKey, Listener.naturalKey, port, h.protocol]

/-! ### Load balancers -/

/-- Load balancers that say the same, but for what the cloud decides and the order of their
entries. -/
structure State.Agrees (plan state : State) : Prop where
  name : plan.name.normalized = state.name.normalized
  description : plan.description.normalized = state.description.normalized
  listeners : SameUpToOrder Listener.Agrees plan.listeners.entries state.listeners.entries
  acls : SameUpToOrder Acl.Agrees plan.acls.entries state.acls.entries
  healthChecks :
    SameUpToOrder HealthCheck.Agrees plan.healthChecks.entries state.healthChecks.entries
  backends : SameUpToOrder Backend.Agrees plan.backends.entries state.backends.entries

/-- Without a difference the attributes of a decided load balancer have not changed, and there is
nothing to do for the entries of its collections. -/
theorem Difference.unchanged_of_isEmpty {plan state : State} (decided : plan.isDecided = true)
    (h : (Difference.between plan state).isEmpty = true) :
    plan.name.changed state.name = false ∧ plan.description.changed state.description = false ∧
      (Changes.between plan.listeners.entries state.listeners.entries).isEmpty = true ∧
      (Changes.between plan.acls.entries state.acls.entries).isEmpty = true ∧
      (Changes.between plan.healthChecks.entries state.healthChecks.entries).isEmpty = true ∧
      (Changes.between plan.backends.entries state.backends.entries).isEmpty = true := by
  obtain ⟨listeners, acls, healthChecks, backends⟩ := State.isDecided_collections decided
  simp only [Difference.isEmpty, Difference.between, collections_eq listeners,
    collections_eq acls, collections_eq healthChecks, collections_eq backends, Bool.and_eq_true,
    Bool.not_eq_true', Bool.or_eq_false_iff, Bool.not_eq_false'] at h
  obtain ⟨⟨⟨⟨⟨name, description⟩, listeners⟩, healthChecks⟩, backends⟩, acls⟩ := h
  exact ⟨name, description, listeners, acls, healthChecks, BackendChanges.isEmpty_iff.1 backends⟩

/-- A plan without a difference to its state agrees with it: no change is missed. -/
theorem State.agrees_of_isEmpty {plan state : State} (decided : plan.isDecided = true)
    (decided' : state.isDecided = true) (single : plan.NoDuplicates) (ids : plan.DistinctIds)
    (h : (Difference.between plan state).isEmpty = true) :
    plan.Agrees state ∧ plan.listeners.entries.length = state.listeners.entries.length ∧
      plan.acls.entries.length = state.acls.entries.length ∧
      plan.healthChecks.entries.length = state.healthChecks.entries.length ∧
      plan.backends.entries.length = state.backends.entries.length := by
  obtain ⟨name, description, listeners, acls, healthChecks, backends⟩ :=
    Difference.unchanged_of_isEmpty decided h
  obtain ⟨listenersDecided, aclsDecided, healthChecksDecided, backendsDecided⟩ :=
    entries_decided decided
  obtain ⟨listenersDecided', aclsDecided', healthChecksDecided', backendsDecided'⟩ :=
    entries_decided decided'
  have labels := single.distinctLabels decided
  have sameListeners : SameUpToOrder Listener.Agrees _ _ :=
    Changes.sameUpToOrder_of_isEmpty ids.listeners labels.listeners
      (fun p hp x hx =>
        Listener.agrees_of_unchanged (listenersDecided p hp) (listenersDecided' x hx))
      (fun _ _ agrees => agrees.label?_eq) listeners
  have sameAcls : SameUpToOrder Acl.Agrees _ _ :=
    Changes.sameUpToOrder_of_isEmpty ids.acls labels.acls
      (fun p hp x hx => Acl.agrees_of_unchanged (aclsDecided p hp) (aclsDecided' x hx))
      (fun _ _ agrees => label?_eq_of_normalized_eq agrees.name fun _ => rfl) acls
  have sameHealthChecks : SameUpToOrder HealthCheck.Agrees _ _ :=
    Changes.sameUpToOrder_of_isEmpty ids.healthChecks labels.healthChecks
      (fun p hp x hx =>
        HealthCheck.agrees_of_unchanged (healthChecksDecided p hp) (healthChecksDecided' x hx))
      (fun _ _ agrees => label?_eq_of_normalized_eq agrees.name fun _ => rfl) healthChecks
  have sameBackends : SameUpToOrder Backend.Agrees _ _ :=
    Changes.sameUpToOrder_of_isEmpty ids.backends labels.backends
      (fun p hp x hx => Backend.agrees_of_unchanged (backendsDecided p hp) (backendsDecided' x hx))
      (fun _ _ agrees => label?_eq_of_normalized_eq agrees.name fun _ => rfl) backends
  obtain ⟨nameDecided, descriptionDecided⟩ := topLevel_decided decided
  obtain ⟨nameDecided', descriptionDecided'⟩ := topLevel_decided decided'
  exact ⟨⟨Attr.normalized_eq_of_changed_eq_false nameDecided nameDecided' name,
    Attr.normalized_eq_of_changed_eq_false descriptionDecided descriptionDecided' description,
    sameListeners, sameAcls, sameHealthChecks, sameBackends⟩,
    sameListeners.length_eq, sameAcls.length_eq, sameHealthChecks.length_eq,
    sameBackends.length_eq⟩

/-- The sample state as another user would write it: the listeners and the targets in the other
order, and most identifiers left out. -/
def agreeingSample : State where
  id := .null
  name := .known "edge"
  description := .null
  address := .null
  status := .null
  listeners := .known [
    ⟨.null, .known "", .known 443, .known "https", .known "web", .known "cert-1"⟩,
    ⟨.known "ls-1", .known "http", .known 80, .known "http", .known "web", .known ""⟩]
  acls := .known [
    ⟨.null, .known "office", .known "allow", .known "10.0.0.0/8", .known 1, .known ""⟩]
  healthChecks := .known [⟨.null, .known "alive", .known "http", .known 80, .known "/",
    .known 10, .known 5, .known 2, .known 3⟩]
  backends := .known [⟨.known "be-1", .known "web", .known "instance", .null, .known true,
    .known "alive",
    .known [⟨.known "nic-2", .known "", .null⟩, ⟨.known "nic-1", .null, .known 80⟩]⟩]

/-- Both samples say the same. -/
theorem agrees_of_isEmpty_sample : agreeingSample.Agrees restatedSample ∧
    agreeingSample.listeners.entries.length = restatedSample.listeners.entries.length ∧
    agreeingSample.acls.entries.length = restatedSample.acls.entries.length ∧
    agreeingSample.healthChecks.entries.length = restatedSample.healthChecks.entries.length ∧
    agreeingSample.backends.entries.length = restatedSample.backends.entries.length :=
  State.agrees_of_isEmpty (by decide) (by decide) (by decide) (by decide) (by decide)

end CloudProvision.LoadBalancer
