import CloudProvision.Proofs.LoadBalancer.Growth
import CloudProvision.Proofs.LoadBalancer.Replacement
import CloudProvision.Proofs.LoadBalancer.Serial

/-!
# Applying a configuration twice

When an update has been made, each planned entry stands for an object from which it does not differ,
and there are no more objects than planned. A plan for the same configuration has the same entries
but for their identifiers. So it finds each of them in its object, and nothing to do.

## Main results

* `difference_isEmpty_of_progress`: a configuration whose update has been made has nothing to
  change.
* `update_idempotent`: a second update makes no change and returns the same state.
-/

namespace CloudProvision.LoadBalancer

open IdentityIndex (label?)
open Operation
open Remote (WellFormed)

/-! ### Labels -/

/-- Entries with names that do not differ have the same label. -/
theorem label?_eq_of_name {α : Type} [Identified α] {p x : α}
    (named : (Identified.name p).key?.isSome) (decided : (Identified.name x).isUnknown = false)
    (same : (Identified.name p).changed (Identified.name x) = false) : label? x = label? p := by
  obtain ⟨name, key⟩ := Option.isSome_iff_exists.1 named
  have known : (Identified.name p).isUnknown = false := by
    rw [(Attr.key?_eq_some_iff.1 key).1]
    rfl
  have eq := Attr.key?_eq_of_changed_eq_false known decided same
  rw [IdentityIndex.label?_eq_name.2 key, IdentityIndex.label?_eq_name.2 (eq.symm.trans key)]

/-- Decided listeners that do not differ have the same label. -/
theorem label?_eq_of_listener {lb : Remote.LoadBalancer} {p : Listener} {l : Remote.Listener}
    (name : p.name.isUnknown = false) (port : p.port.isUnknown = false)
    (protocol : p.protocol.isUnknown = false) (same : p.changedFrom (.ofRemote lb l) = false) :
    label? (Listener.ofRemote lb l) = label? p := by
  simp only [Listener.changedFrom, Bool.or_eq_false_iff] at same
  obtain ⟨⟨⟨⟨sameName, samePort⟩, sameProtocol⟩, -⟩, -⟩ := same
  have names : (Identified.name (Listener.ofRemote lb l)).key? = (Identified.name p).key? :=
    (Attr.key?_eq_of_changed_eq_false name (Attr.isUnknown_ofOption l.name) sameName).symm
  have ports : p.port = .known l.port := by
    have eq := Attr.normalized_eq_of_changed_eq_false port rfl samePort
    rcases h : p.port with n | _ | _
    · rw [h] at eq
      exact eq
    · rw [h] at eq
      cases eq
    · rw [h] at eq
      cases eq
  have protocols := Attr.normalized_eq_of_changed_eq_false protocol rfl sameProtocol
  have keys : Identified.naturalKey (Listener.ofRemote lb l) = Identified.naturalKey p := by
    change (Listener.ofRemote lb l).naturalKey = p.naturalKey
    rw [Listener.naturalKey, Listener.naturalKey, ports, protocols]
    rfl
  rw [label?, label?, names, keys]

/-! ### Planning again -/

/-- A collection is planned with as many entries as were configured. -/
theorem PlannedFrom.length_eq {α : Type} [Reconcilable α] {setId : α → Attr String → α}
    {config state plan : List α} (h : PlannedFrom setId config state plan) :
    plan.length = config.length := by
  obtain ⟨a, rfl, -⟩ := h
  exact List.length_map _

/-- If each entry of a plan stands for an object and there are no more objects, then a second plan
for the same configuration has nothing to do. -/
theorem PlannedFrom.isEmpty_again {α ρ : Type} [Reconcilable α] {setId : α → Attr String → α}
    {config before plan again : List α} {objects : List ρ} {f : ρ → α}
    (first : PlannedFrom setId config before plan)
    (second : PlannedFrom setId config (objects.map f) again) (lawful : SetsId setId)
    (byLabel : Changes.ByLabel again (objects.map f))
    (labels : ∀ p ∈ again, ∀ r, Reconcilable.changedFrom p (f r) = false → label? (f r) = label? p)
    (made : ∀ p ∈ plan, ∃ r ∈ objects, Reconcilable.changedFrom p (f r) = false)
    (size : objects.length ≤ plan.length) :
    (Changes.between again (objects.map f)).isEmpty = true := by
  refine Changes.isEmpty_of_covered byLabel ?_ ?_
  · intro p hp
    obtain ⟨c, hc, a, rfl⟩ := second.exists_of_mem hp
    obtain ⟨a', planned⟩ := first.exists_mem hc
    obtain ⟨r, hr, same⟩ := made _ planned
    rw [lawful.changedFrom] at same
    have unchanged := (lawful.changedFrom c a (f r)).trans same
    exact ⟨f r, List.mem_map_of_mem hr, labels _ hp r unchanged, unchanged⟩
  · rw [List.length_map, second.length_eq, ← first.length_eq]
    exact size

section Again

variable {remote : Remote.LoadBalancer} {config : State} {start : Nat} {x : Stage}
  (progress : Progress remote config start (updateSteps remote config) x)
  (accepted : config.Accepted) (complete : config.Complete)

include progress accepted

/-- The configuration has an update of the load balancer that its update leaves. -/
theorem updatable_again : Updatable x.1 config :=
  have settled := progress.settled.wellFormed
  ⟨settled.healthCheckIds, settled.backendIds, settled.aclIds, settled.listenerIds,
    accepted.decided, accepted.bare⟩

include complete

theorem healthChecks_isEmpty_again : (healthCheckChanges x.1 config).isEmpty = true := by
  refine planUpdate_healthChecks.isEmpty_again planUpdate_healthChecks setsId_healthCheck
    (healthChecks_byLabel (updatable_again progress accepted) accepted complete)
    ?_ ?_ (length_healthChecks_le progress)
  · intro p hp h same
    have fields : p.changedFrom (.ofRemote h) = false := same
    have named := (planned_healthCheck complete hp).1
    simp only [HealthCheck.changedFrom, Bool.or_eq_false_iff] at fields
    exact label?_eq_of_name named rfl fields.1.1.1.1.1.1.1
  · intro p hp
    obtain ⟨h, hh, -, same⟩ := healthChecks_made progress accepted complete p hp
    exact ⟨h, hh, same⟩

theorem backends_isEmpty_again : (backendChanges x.1 config).isEmpty = true := by
  refine planUpdate_backends.isEmpty_again planUpdate_backends setsId_backend
    (backends_byLabel (updatable_again progress accepted) accepted complete)
    ?_ (backends_made progress accepted complete) (length_backends_le progress)
  intro p hp b same
  have fields : p.changedFrom (.ofRemote x.1 b) = false := same
  have named := (planned_backend accepted complete hp).1
  simp only [Backend.changedFrom, Backend.fieldsChanged, Bool.or_eq_false_iff] at fields
  exact label?_eq_of_name named rfl fields.1.2.1.1.1

theorem acls_isEmpty_again : (aclChanges x.1 config).isEmpty = true := by
  obtain ⟨made, size⟩ := acls_made complete progress accepted
  refine planUpdate_acls.isEmpty_again planUpdate_acls setsId_acl
    (acls_byLabel (updatable_again progress accepted) accepted complete)
    ?_ made size
  intro p hp a same
  have fields : p.changedFrom (.ofRemote a) = false := same
  have named := (planned_acl complete hp).1
  simp only [Acl.changedFrom, Bool.or_eq_false_iff] at fields
  exact label?_eq_of_name named rfl fields.1.1.1.1

theorem listeners_isEmpty_again : (listenerChanges x.1 config).isEmpty = true := by
  obtain ⟨made, size⟩ := listeners_made accepted complete progress
  refine planUpdate_listeners.isEmpty_again planUpdate_listeners setsId_listener
    (listeners_byLabel (updatable_again progress accepted) accepted complete)
    ?_ ?_ size
  · intro p hp l same
    obtain ⟨-, name, port, protocol⟩ := planned_listener accepted complete hp
    exact label?_eq_of_listener name port protocol same
  · intro p hp
    obtain ⟨l, hl, -, same⟩ := made p hp
    exact ⟨l, hl, same⟩

/-- A configuration whose update has been made has nothing to change. -/
theorem difference_isEmpty_of_progress :
    (Difference.between (updatePlan x.1 config) (.ofRemote x.1)).isEmpty = true := by
  obtain ⟨healthChecks, backends, acls, listeners⟩ :=
    @between_planUpdate (.ofRemote x.1) config accepted.decided
  obtain ⟨name, description⟩ := topLevel_made progress complete
  have topLevel : (Difference.between (updatePlan x.1 config) (.ofRemote x.1)).topLevel = false :=
    Bool.or_eq_false_iff.2 ⟨name, description⟩
  have sameHealthChecks := healthChecks_isEmpty_again progress accepted complete
  have sameBackends :=
    BackendChanges.isEmpty_of_isEmpty (backends_isEmpty_again progress accepted complete)
  have sameAcls := acls_isEmpty_again progress accepted complete
  have sameListeners := listeners_isEmpty_again progress accepted complete
  rw [Difference.isEmpty, topLevel, updatePlan, healthChecks, backends, acls, listeners,
    ← updatePlan, sameHealthChecks, sameBackends, sameAcls, sameListeners]
  rfl

end Again

/-! ### A second update -/

/-- Where nothing differs, the common part is its wait. -/
theorem startAndRollout_idle {σ : Type} {env : Environment σ} {session : Session σ}
    {diagnostics : Diagnostics} {id : String} {plan prior : State} {notReady notDone : String}
    (same : (Difference.between plan prior).isEmpty = true) :
    startAndRollout id plan (fun _ => prior) notReady notDone diagnostics env session =
      match converge id env session with
      | (.error e, there) =>
        ((none, diagnostics.error (.onRoot notReady (toString e))), there)
      | (.ok current, there) => ((some (.ofRemote current), diagnostics), there) := by
  rw [startAndRollout_run]
  rcases converge id env session with ⟨_ | current, there⟩
  · rfl
  · simp only [rollout, Difference.steps_eq_nil_iff.2 same, runSteps]
    rfl

/-- The common part succeeds if its wait and its rollout do, and reports nothing then. -/
theorem startAndRollout_eq_some {σ : Type} {env : Environment σ} {session session' : Session σ}
    {diagnostics reported : Diagnostics} {id : String} {plan s : State}
    {prior : Remote.LoadBalancer → State} {notReady notDone : String}
    (run : startAndRollout id plan prior notReady notDone diagnostics env session =
      ((some s, reported), session')) :
    diagnostics = reported ∧ ∃ current there lb, converge id env session = (.ok current, there) ∧
      rollout id plan (prior current) current env there = (.ok lb, session') ∧
      s = .ofRemote lb := by
  obtain ⟨current, between, there, first, rest⟩ := Request.bind_eq_some run
  obtain ⟨started, rfl⟩ := Request.orReport_eq_some first
  obtain ⟨lb, between, after, second, rest⟩ := Request.bind_eq_some rest
  obtain ⟨rolled, rfl⟩ := Request.orReport_eq_some second
  obtain ⟨rfl, rfl, rfl⟩ := Request.pure_eq_some rest
  exact ⟨rfl, current, there, lb, started, rolled, rfl⟩

/-- A second update has nothing to do: it only fetches the load balancer. -/
structure MakesNoChange (env : Environment (Faulty MemoryCloud))
    (session : Session (Faulty MemoryCloud)) (s planned : State) : Prop where
  reads : ∀ diagnostics, ∃ events,
    (resource.update s planned diagnostics env session).2.trace = events ++ session.trace ∧
      ∀ e ∈ events, e.call.isRead = true
  returns : ∀ diagnostics current there, converge s.id.text env session = (.ok current, there) →
    (resource.update s planned diagnostics env session).1 = (some s, diagnostics)

variable {remote : Remote.LoadBalancer} {config : State} {env : Environment (Faulty MemoryCloud)}
  {session : Session (Faulty MemoryCloud)}

/-- An update without a difference makes no change, and returns the load balancer that the cloud
holds. -/
theorem makesNoChange_of_holds {lb : Remote.LoadBalancer} {issued : Nat} {planned : State}
    (memory : env.api = Faulty.api MemoryCloud.api)
    (holds : session.cloud.cloud.Holds lb.id lb issued)
    (same : (Difference.between planned (.ofRemote lb)).isEmpty = true) :
    MakesNoChange env session (.ofRemote lb) planned := by
  have idle (diagnostics : Diagnostics) :
      resource.update (.ofRemote lb) planned diagnostics env session = _ :=
    @startAndRollout_idle _ _ _ _ lb.id _ _ _ _ same
  rcases started : converge lb.id env session with ⟨result, there⟩
  obtain ⟨events, traced, calls, -⟩ := await_trace started
  simp only [started] at idle
  constructor
  · intro diagnostics
    refine ⟨events, ?_, ?_⟩
    · rw [idle, ← traced]
      cases result <;> rfl
    · intro e he
      rw [calls e he]
      rfl
  · intro diagnostics current there' started'
    obtain ⟨rfl, rfl⟩ := Prod.mk.inj (started.symm.trans started')
    have found := (Faulty.converge_holds memory holds started).2 current rfl
    rw [idle, found]

/-- Applying a configuration is idempotent: when an update has succeeded, planning the same
configuration again finds no difference, and a second update makes no change and, if the load
balancer is found running, returns the same state. -/
theorem update_idempotent (held : Held env session remote) (accepted : config.Accepted)
    (complete : config.Complete) {diagnostics reported : Diagnostics} {s : State}
    {session' : Session (Faulty MemoryCloud)}
    (run : resource.update (.ofRemote remote) (updatePlan remote config) diagnostics env session =
      ((some s, reported), session')) :
    (Difference.between (s.planUpdate config) s).isEmpty = true ∧
      ∀ (env' : Environment (Faulty MemoryCloud)) (again : Session (Faulty MemoryCloud)),
        env'.api = Faulty.api MemoryCloud.api → again.cloud.cloud = session'.cloud.cloud →
          MakesNoChange env' again s (s.planUpdate config) := by
  rw [update_eq] at run
  obtain ⟨-, current, there, lb, started, rolled, rfl⟩ := startAndRollout_eq_some run
  obtain ⟨issued, progress, holds⟩ := held.finished accepted started rolled
  have same := difference_isEmpty_of_progress progress accepted complete
  refine ⟨same, ?_⟩
  intro env' again memory kept
  have there : again.cloud.cloud.Holds lb.id lb issued := by
    rw [kept, show lb.id = remote.id from progress.settled.id]
    exact holds
  exact makesNoChange_of_holds memory there same

/-- A configuration with one object of each kind. -/
def fullConfig : State :=
  { sparseConfig with
    description := .known "web traffic"
    acls := .known
      [⟨.null, .known "office", .known "allow", .known "10.0.0.0/8", .known 1, .null⟩] }

/-- The update of the sample makes six changes, and a second one makes none. -/
theorem update_idempotent_sample : ∃ s after,
    resource.update (.ofRemote crowdedRemote) (updatePlan crowdedRemote fullConfig) .none
        memoryEnvironment (memorySession crowdedRemote 2) = ((some s, .none), after) ∧
      (after.trace.filter fun e => !e.call.isRead).length = 6 ∧
      (Difference.between (s.planUpdate fullConfig) s).isEmpty = true ∧
      MakesNoChange memoryEnvironment after s (s.planUpdate fullConfig) := by
  let run := resource.update (.ofRemote crowdedRemote) (updatePlan crowdedRemote fullConfig) .none
    memoryEnvironment (memorySession crowdedRemote 2)
  have calls : run.1.1.isSome = true ∧ run.1.2 = .none ∧
      (run.2.trace.filter fun e => !e.call.isRead).length = 6 := by
    decide +kernel
  rcases h : run with ⟨⟨_ | s, reported⟩, after⟩
  · rw [h] at calls
    cases calls.1
  · rw [h] at calls
    obtain ⟨-, rfl, count⟩ := calls
    obtain ⟨same, again⟩ := update_idempotent
      (held_memorySession (by decide) (by decide) (by decide) (by decide) (by decide)
        (by decide +kernel) (by decide +kernel) (by decide +kernel))
      (by decide +kernel) (by constructor <;> decide) h
    exact ⟨s, after, h, count, same, again _ _ rfl rfl⟩

end CloudProvision.LoadBalancer
