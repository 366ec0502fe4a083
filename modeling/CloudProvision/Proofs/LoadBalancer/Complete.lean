import CloudProvision.Proofs.LoadBalancer.Mapping
import CloudProvision.Proofs.LoadBalancer.Update

/-!
# Complete configurations

A complete configuration gives a name to everything but listeners, and all numbers that have no
default. The entries of its plans can be told apart, and they can be sent and read back.

## Main results

* `planned_healthCheck` and its siblings: what is given of a planned entry.
* `healthChecks_byLabel` and its siblings: planned entries have labels of their own.
-/

namespace CloudProvision.LoadBalancer

open IdentityIndex (label?)

/-- A configuration that leaves no name, port or priority out. -/
structure State.Complete (s : State) : Prop where
  name : s.name.key?.isSome
  healthCheckNames : ∀ h ∈ s.healthChecks.entries, h.name.key?.isSome
  healthCheckPorts : ∀ h ∈ s.healthChecks.entries, h.port.isNull = false
  backendNames : ∀ b ∈ s.backends.entries, b.name.key?.isSome
  targetsTypes : ∀ b ∈ s.backends.entries, b.targetsType ≠ .known ""
  targetPorts : ∀ b ∈ s.backends.entries, ∀ t ∈ b.targets.entries, t.port.isNull = false
  aclNames : ∀ a ∈ s.acls.entries, a.name.key?.isSome
  aclPriorities : ∀ a ∈ s.acls.entries, a.priority.isNull = false
  listenerPorts : ∀ l ∈ s.listeners.entries, l.port.isNull = false

/-! ### Planned entries -/

section Planned

variable {prior config : State} (accepted : config.Accepted) (complete : config.Complete)

/-- A default leaves nothing out. -/
theorem isNull_orDefault {α : Type} (x : Attr α) (default : α) :
    (orDefault x default).isNull = false := by
  cases x <;> rfl

theorem isUnknown_orDefault {α : Type} {x : Attr α} (default : α) (h : x.isUnknown = false) :
    (orDefault x default).isUnknown = false := by
  cases x <;> first | rfl | cases h

include complete

/-- A planned health check has a name and all its numbers. -/
theorem planned_healthCheck {p : HealthCheck}
    (hp : p ∈ (prior.planUpdate config).healthChecks.entries) :
    p.name.key?.isSome ∧ p.isComplete = true := by
  obtain ⟨c, mem, a, rfl⟩ := planUpdate_healthChecks.exists_of_mem hp
  obtain ⟨h, configured, rfl⟩ := List.mem_map.1 mem
  refine ⟨complete.healthCheckNames h configured, ?_⟩
  simp only [HealthCheck.isComplete, HealthCheck.withDefaults, isNull_orDefault,
    complete.healthCheckPorts h configured, Bool.or_self, Bool.not_false]

/-- A planned ACL has a name and a priority. -/
theorem planned_acl {p : Acl} (hp : p ∈ (prior.planUpdate config).acls.entries) :
    p.name.key?.isSome ∧ p.priority.isNull = false := by
  obtain ⟨c, mem, a, rfl⟩ := planUpdate_acls.exists_of_mem hp
  exact ⟨complete.aclNames c mem, complete.aclPriorities c mem⟩

include accepted

/-- A planned listener has a port, and what it can be told by is decided. -/
theorem planned_listener {p : Listener} (hp : p ∈ (prior.planUpdate config).listeners.entries) :
    p.port.isNull = false ∧ p.name.isUnknown = false ∧ p.port.isUnknown = false ∧
      p.protocol.isUnknown = false := by
  obtain ⟨c, mem, a, rfl⟩ := planUpdate_listeners.exists_of_mem hp
  have decided := (State.entries_decided accepted.decided).1 c mem
  simp only [Listener.isDecided, Bool.not_eq_true', Bool.or_eq_false_iff] at decided
  exact ⟨complete.listenerPorts c mem, decided.1.1.1.1.2, decided.1.1.1.2, decided.1.1.2⟩

/-- A planned backend has a name and a type of targets, and its targets are decided and have
ports. -/
theorem planned_backend {p : Backend} (hp : p ∈ (prior.planUpdate config).backends.entries) :
    p.name.key?.isSome ∧ p.targetsType.key?.isSome ∧ p.closeConnections.isNull = false ∧
      p.targets.isUnknown = false ∧
      ∀ t ∈ p.targets.entries, t.port.isNull = false ∧ t.hasUnknown = false := by
  obtain ⟨c, mem, a, rfl⟩ := planUpdate_backends.exists_of_mem hp
  obtain ⟨b, configured, rfl⟩ := List.mem_map.1 mem
  have decided := (State.entries_decided accepted.decided).2.2.2 b configured
  simp only [Backend.isDecided, Bool.not_eq_true', Bool.or_eq_false_iff,
    List.any_eq_false] at decided
  obtain ⟨⟨⟨⟨⟨⟨⟨-, -⟩, typed⟩, -⟩, -⟩, -⟩, known⟩, targets⟩ := decided
  refine ⟨complete.backendNames b configured, ?_, isNull_orDefault _ _,
    isUnknown_orDefault [] known,
    fun t ht => ?_⟩
  · change (orDefault b.targetsType instanceTargets).key?.isSome
    have given := complete.targetsTypes b configured
    rcases kind : b.targetsType with text | _ | _
    · have filled : text.isEmpty = false := by
        rw [kind] at given
        exact Bool.eq_false_iff.2 fun blank => given (congrArg _ (String.isEmpty_iff.1 blank))
      exact Option.isSome_of_eq_some (Attr.key?_of_not_isEmpty filled)
    · rfl
    · rw [kind] at typed
      cases typed
  · have there : t ∈ b.targets.entries := entries_orDefault b.targets ▸ ht
    exact ⟨complete.targetPorts b configured t there, Bool.eq_false_iff.2 (targets t there)⟩

end Planned

/-! ### Labels of planned entries -/

/-- An entry with a name has a label. -/
theorem isSome_label? {α : Type} [Identified α] {x : α} (h : (Identified.name x).key?.isSome) :
    (label? x).isSome := by
  obtain ⟨name, key⟩ := Option.isSome_iff_exists.1 h
  rw [IdentityIndex.label?_eq_name.2 key]
  rfl

/-- A listener with a port has a label. -/
theorem isSome_label?_listener {l : Listener} (port : l.port.isNull = false)
    (decided : l.port.isUnknown = false) (protocol : l.protocol.isUnknown = false) :
    (label? l).isSome := by
  have key : l.naturalKey.isSome := by
    rw [Listener.naturalKey]
    rcases number : l.port with n | _ | _
    · rcases kind : l.protocol.normalized with text | _ | _
      · rfl
      · rfl
      · rw [← Attr.isUnknown_normalized, kind] at protocol
        cases protocol
    · rw [number] at port
      cases port
    · rw [number] at decided
      cases decided
  rw [label?]
  cases (Identified.name l).key? with
  | some name => rfl
  | none => exact (Option.isSome_map).trans key

section Labels

variable {remote : Remote.LoadBalancer} {config : State} (updatable : Updatable remote config)
  (accepted : config.Accepted) (complete : config.Complete)

include updatable accepted complete

theorem healthChecks_byLabel : Changes.ByLabel (updatePlan remote config).healthChecks.entries
    (State.ofRemote remote).healthChecks.entries := by
  have labelled : ∀ c ∈ config.healthChecks.entries, (label? c).isSome :=
    fun c hc => isSome_label? (complete.healthCheckNames c hc)
  refine planUpdate_healthChecks.byLabel setsId_healthCheck updatable.healthChecks_ownIds
    updatable.bare_entries.2.2.1 ?_ (List.forall_mem_map.2 labelled)
  rw [List.map_map]
  exact accepted.distinctLabels.healthChecks.nodup_map labelled

theorem backends_byLabel : Changes.ByLabel (updatePlan remote config).backends.entries
    (State.ofRemote remote).backends.entries := by
  have labelled : ∀ c ∈ config.backends.entries, (label? c).isSome :=
    fun c hc => isSome_label? (complete.backendNames c hc)
  refine planUpdate_backends.byLabel setsId_backend updatable.backends_ownIds
    updatable.bare_entries.2.2.2 ?_ (List.forall_mem_map.2 labelled)
  rw [List.map_map]
  exact accepted.distinctLabels.backends.nodup_map labelled

theorem acls_byLabel : Changes.ByLabel (updatePlan remote config).acls.entries
    (State.ofRemote remote).acls.entries := by
  have labelled : ∀ c ∈ config.acls.entries, (label? c).isSome :=
    fun c hc => isSome_label? (complete.aclNames c hc)
  exact planUpdate_acls.byLabel setsId_acl updatable.acls_ownIds updatable.bare_entries.2.1
    (accepted.distinctLabels.acls.nodup_map labelled) labelled

theorem listeners_byLabel : Changes.ByLabel (updatePlan remote config).listeners.entries
    (State.ofRemote remote).listeners.entries := by
  have labelled : ∀ c ∈ config.listeners.entries, (label? c).isSome := by
    intro c hc
    have decided := (State.entries_decided accepted.decided).1 c hc
    simp only [Listener.isDecided, Bool.not_eq_true', Bool.or_eq_false_iff] at decided
    exact isSome_label?_listener (complete.listenerPorts c hc) decided.1.1.1.2 decided.1.1.2
  exact planUpdate_listeners.byLabel setsId_listener updatable.listeners_ownIds
    updatable.bare_entries.1 (accepted.distinctLabels.listeners.nodup_map labelled) labelled

end Labels

end CloudProvision.LoadBalancer
