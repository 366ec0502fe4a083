import CloudProvision.Proofs.LoadBalancer.Difference
import CloudProvision.Proofs.Restatement

/-!
# A restated load balancer asks for no change

A plan may list the nested objects and the targets of a load balancer in another order, leave out
identifiers where names or natural keys tell objects apart, write blank texts or none, and leave
attributes undecided. As long as it says nothing else than the state, there is no difference.

## Main definitions

* `State.Restates`: a plan that says nothing else than the state.
* `State.Distinguished`: a state whose nested objects are told apart.

## Main results

* `State.Restates.isEmpty_between`: a plan that restates the state has no difference to it.
-/

namespace CloudProvision.LoadBalancer

/-! ### Targets -/

/-- A planned target restates one of the state. -/
@[mk_iff]
structure Target.Restates (plan state : Target) : Prop where
  nicId : plan.nicId.Restates state.nicId
  ipAddress : plan.ipAddress.Restates state.ipAddress
  port : plan.port.Restates state.port

instance (plan state : Target) : Decidable (plan.Restates state) :=
  decidable_of_iff' _ (Target.restates_iff plan state)

/-- Restated targets without an undecided field are equal up to blanks. -/
theorem Target.Restates.normalized_eq {plan state : Target} (h : plan.Restates state)
    (decided : plan.hasUnknown = false) : plan.normalized = state.normalized := by
  simp only [hasUnknown, Bool.or_eq_false_iff] at decided
  obtain ⟨⟨nicId, ipAddress⟩, port⟩ := decided
  rw [normalized, normalized, h.nicId.normalized_eq nicId, h.ipAddress.normalized_eq ipAddress,
    h.port.normalized_eq port]

/-- The decided targets of a restated list are some of the state's, up to blanks. -/
theorem sublist_of_forall₂ {plan order : List Target}
    (h : List.Forall₂ Target.Restates plan order) :
    ((plan.filter (!·.hasUnknown)).map Target.normalized).Sublist
      (order.map Target.normalized) := by
  induction h with
  | nil => exact List.Sublist.slnil
  | @cons t x rest order first _ ih =>
      cases decided : t.hasUnknown with
      | true =>
          rw [List.filter_cons_of_neg (by simp [decided]), List.map_cons]
          exact ih.cons _
      | false =>
          rw [List.filter_cons_of_pos (by simp [decided]), List.map_cons, List.map_cons,
            first.normalized_eq decided]
          exact ih.cons_cons _

/-- Restated targets have not changed. -/
theorem targetsChanged_of_restates {plan state : Attr (List Target)}
    (h : plan.RestatesEntries Target.Restates state) : targetsChanged plan state = false := by
  rcases h with rfl | ⟨order, perm, paired⟩
  · rfl
  · have covered : coveredBy (plan.entries.filter (!·.hasUnknown)) state.entries = true :=
      coveredBy_iff_subperm.2
        ((sublist_of_forall₂ paired).subperm.trans (perm.map Target.normalized).subperm)
    simp [targetsChanged, paired.length_eq.trans perm.length_eq, covered]

/-! ### Nested objects -/

/-- A planned ACL restates one of the state. -/
@[mk_iff]
structure Acl.Restates (plan state : Acl) : Prop where
  identity : KeepsIdentity plan state
  name : plan.name.Restates state.name
  action : plan.action.Restates state.action
  cidr : plan.cidr.Restates state.cidr
  priority : plan.priority.Restates state.priority
  description : plan.description.Restates state.description

/-- A planned health check restates one of the state. -/
@[mk_iff]
structure HealthCheck.Restates (plan state : HealthCheck) : Prop where
  identity : KeepsIdentity plan state
  name : plan.name.Restates state.name
  protocol : plan.protocol.Restates state.protocol
  port : plan.port.Restates state.port
  path : plan.path.Restates state.path
  interval : plan.interval.Restates state.interval
  timeout : plan.timeout.Restates state.timeout
  healthyThreshold : plan.healthyThreshold.Restates state.healthyThreshold
  unhealthyThreshold : plan.unhealthyThreshold.Restates state.unhealthyThreshold

/-- A planned backend restates one of the state. -/
structure Backend.Restates (plan state : Backend) : Prop where
  identity : KeepsIdentity plan state
  name : plan.name.Restates state.name
  targetsType : plan.targetsType.Restates state.targetsType
  panicThreshold : plan.panicThreshold.Restates state.panicThreshold
  closeConnections : plan.closeConnections.Restates state.closeConnections
  healthCheck : plan.healthCheck.Restates state.healthCheck
  targets : plan.targets.RestatesEntries Target.Restates state.targets

/-- A planned listener restates one of the state. One with neither an identifier nor a name keeps
its port and its protocol. -/
@[mk_iff]
structure Listener.Restates (plan state : Listener) : Prop where
  identity : KeepsIdentity plan state
  unnamed : plan.id.key? = none → state.name.key? = none →
    plan.port = state.port ∧ plan.protocol.normalized = state.protocol.normalized
  name : plan.name.Restates state.name
  port : plan.port.Restates state.port
  protocol : plan.protocol.Restates state.protocol
  backend : plan.backend.Restates state.backend
  certificateId : plan.certificateId.Restates state.certificateId

instance (plan state : Acl) : Decidable (plan.Restates state) :=
  decidable_of_iff' _ (Acl.restates_iff plan state)

instance (plan state : HealthCheck) : Decidable (plan.Restates state) :=
  decidable_of_iff' _ (HealthCheck.restates_iff plan state)

instance (plan state : Listener) : Decidable (plan.Restates state) :=
  decidable_of_iff' _ (Listener.restates_iff plan state)

/-- Restated ACLs are found again and unchanged. -/
theorem restating_acl : Restating Acl.Restates where
  identity h := h.identity
  naturalKey _ _ _ := rfl
  unchanged h := by
    simp only [Reconcilable.changedFrom, Acl.changedFrom, Bool.or_eq_false_iff, and_assoc]
    exact ⟨h.name.changed, h.action.changed, h.cidr.changed, h.priority.changed,
      h.description.changed⟩

/-- Restated health checks are found again and unchanged. -/
theorem restating_healthCheck : Restating HealthCheck.Restates where
  identity h := h.identity
  naturalKey _ _ _ := rfl
  unchanged h := by
    simp only [Reconcilable.changedFrom, HealthCheck.changedFrom, Bool.or_eq_false_iff, and_assoc]
    exact ⟨h.name.changed, h.protocol.changed, h.port.changed, h.path.changed, h.interval.changed,
      h.timeout.changed, h.healthyThreshold.changed, h.unhealthyThreshold.changed⟩

/-- Restated backends are found again and unchanged. -/
theorem restating_backend : Restating Backend.Restates where
  identity h := h.identity
  naturalKey _ _ _ := rfl
  unchanged h := by
    simp only [Reconcilable.changedFrom, Backend.changedFrom, Backend.targetsTypeChanged,
      Backend.fieldsChanged, Bool.or_eq_false_iff, and_assoc]
    exact ⟨h.targetsType.changed, h.name.changed, h.panicThreshold.changed,
      h.closeConnections.changed, h.healthCheck.changed, targetsChanged_of_restates h.targets⟩

/-- Restated listeners are found again and unchanged. -/
theorem restating_listener : Restating Listener.Restates where
  identity h := h.identity
  naturalKey {plan state} h key unnamed := by
    obtain ⟨port, protocol⟩ := h.unnamed key unnamed
    change plan.naturalKey = state.naturalKey
    rw [Listener.naturalKey, Listener.naturalKey, port, protocol]
  unchanged h := by
    simp only [Reconcilable.changedFrom, Listener.changedFrom, Bool.or_eq_false_iff, and_assoc]
    exact ⟨h.name.changed, h.port.changed, h.protocol.changed, h.backend.changed,
      h.certificateId.changed⟩

/-! ### Load balancers -/

/-- A plan restates a state if it says nothing that the state does not say. -/
structure State.Restates (plan state : State) : Prop where
  name : plan.name.Restates state.name
  description : plan.description.Restates state.description
  listeners : plan.listeners.RestatesEntries Listener.Restates state.listeners
  acls : plan.acls.RestatesEntries Acl.Restates state.acls
  healthChecks : plan.healthChecks.RestatesEntries HealthCheck.Restates state.healthChecks
  backends : plan.backends.RestatesEntries Backend.Restates state.backends

/-- The nested objects of a state are told apart within their collections. -/
structure State.Distinguished (state : State) : Prop where
  listeners : CloudProvision.Distinguished state.listeners.entries
  acls : CloudProvision.Distinguished state.acls.entries
  healthChecks : CloudProvision.Distinguished state.healthChecks.entries
  backends : CloudProvision.Distinguished state.backends.entries

/-- A restated collection asks for no change, also if it is undecided. -/
theorem isEmpty_collections {α : Type} [Reconcilable α] {R : α → α → Prop}
    (restating : Restating R) {plan state : Attr (List α)} (h : plan.RestatesEntries R state)
    (distinguished : CloudProvision.Distinguished state.entries) :
    (Changes.between (collections plan state).1 (collections plan state).2).isEmpty = true := by
  rw [collections]
  split
  · rfl
  · next decided => exact restating.isEmpty h (Bool.eq_false_iff.2 decided) distinguished

/-- A plan that restates a state has no difference to it. -/
theorem State.Restates.isEmpty_between {plan state : State} (h : plan.Restates state)
    (distinguished : state.Distinguished) : (Difference.between plan state).isEmpty = true := by
  have listeners := isEmpty_collections restating_listener h.listeners distinguished.listeners
  have acls := isEmpty_collections restating_acl h.acls distinguished.acls
  have healthChecks :=
    isEmpty_collections restating_healthCheck h.healthChecks distinguished.healthChecks
  have backends := BackendChanges.isEmpty_of_isEmpty
    (isEmpty_collections restating_backend h.backends distinguished.backends)
  simp [Difference.isEmpty, Difference.between, h.name.changed, h.description.changed, listeners,
    acls, healthChecks, backends]

/-! ### Sample restatement -/

/-- A state with two listeners, of which one has no name. -/
def restatedSample : State where
  id := .known "lb-1"
  name := .known "edge"
  description := .known ""
  address := .known "192.0.2.10"
  status := .known "running"
  listeners := .known [
    ⟨.known "ls-1", .known "http", .known 80, .known "http", .known "web", .null⟩,
    ⟨.known "ls-2", .null, .known 443, .known "https", .known "web", .known "cert-1"⟩]
  acls := .known [⟨.known "acl-1", .known "office", .known "allow", .known "10.0.0.0/8", .known 1,
    .null⟩]
  healthChecks := .known [⟨.known "hc-1", .known "alive", .known "http", .known 80, .known "/",
    .known 10, .known 5, .known 2, .known 3⟩]
  backends := .known [⟨.known "be-1", .known "web", .known "instance", .null, .known true,
    .known "alive",
    .known [⟨.known "nic-1", .known "", .known 80⟩, ⟨.known "nic-2", .null, .null⟩]⟩]

/-- Its listeners and targets in the other order, without most identifiers, with the ACLs and some
fields undecided. -/
def restatingSample : State where
  id := .unknown
  name := .known "edge"
  description := .null
  address := .unknown
  status := .unknown
  listeners := .known [
    ⟨.null, .known "", .known 443, .known "https", .unknown, .known "cert-1"⟩,
    ⟨.known "ls-1", .unknown, .unknown, .known "http", .known "web", .known ""⟩]
  acls := .unknown
  healthChecks := .known [⟨.unknown, .known "alive", .unknown, .known 80, .known "/",
    .known 10, .known 5, .known 2, .unknown⟩]
  backends := .known [⟨.known "", .known "web", .unknown, .null, .known true, .known "alive",
    .known [⟨.known "nic-2", .known "", .null⟩, ⟨.unknown, .null, .known 80⟩]⟩]

/-- The sample plan has no difference to its state. -/
theorem isEmpty_between_sample :
    (Difference.between restatingSample restatedSample).isEmpty = true := by
  have listeners : restatingSample.listeners.RestatesEntries Listener.Restates
      restatedSample.listeners :=
    .inr ⟨_, .swap _ _ _, .cons (by decide) (.cons (by decide) .nil)⟩
  have healthChecks : restatingSample.healthChecks.RestatesEntries HealthCheck.Restates
      restatedSample.healthChecks :=
    .inr ⟨_, .refl _, .cons (by decide) .nil⟩
  have backends : restatingSample.backends.RestatesEntries Backend.Restates
      restatedSample.backends := by
    refine .inr ⟨_, .refl _, .cons ?_ .nil⟩
    exact ⟨by decide, by decide, by decide, by decide, by decide, by decide,
      .inr ⟨_, .swap _ _ _, .cons (by decide) (.cons (by decide) .nil)⟩⟩
  exact State.Restates.isEmpty_between
    ⟨by decide, by decide, listeners, .inl rfl, healthChecks, backends⟩
    ⟨by decide, by decide, by decide, by decide⟩

end CloudProvision.LoadBalancer
