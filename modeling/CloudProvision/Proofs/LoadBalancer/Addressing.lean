import CloudProvision.MemoryCloud
import CloudProvision.Proofs.LoadBalancer.Difference
import CloudProvision.Proofs.LoadBalancer.Rollout
import CloudProvision.Proofs.LoadBalancer.Step

/-!
# Changes reach the objects they are meant for

A step is about an entry of the state, and a change names a remote object by its identifier.
`Addresses` says that a change names what its step is about, and refers to what the plan refers to,
among the objects of the load balancer as it was last fetched.

## Main results

* `Resolved.addresses`: a step that resolves addresses what it is about.
* `resolve_of_absent`: a step whose object is gone cannot be made.
* `lastFetched_of_reaches`: a step is resolved against the load balancer that was fetched last.
* `rollout_addressed`: every change of a rollout reaches the object it is meant for.
-/

namespace CloudProvision

/-- The load balancer that a call fetched. -/
def Event.fetched? : Event → Option Remote.LoadBalancer
  | ⟨.getLoadBalancer _, _, _, some (.ok lb)⟩ => some lb
  | _ => none

namespace LoadBalancer

open Operation

/-! ### Collections -/

/-- The nested objects that are changed one by one. -/
inductive Collection where
  | healthChecks
  | backends
  | acls
  deriving DecidableEq

/-- What an object of a collection is called in messages. -/
def Collection.kind : Collection → String
  | healthChecks => "health check"
  | backends => "backend"
  | acls => "ACL"

/-- The identifiers of the objects of a collection. -/
def remoteIds (lb : Remote.LoadBalancer) : Collection → List String
  | .healthChecks => lb.healthChecks.map (·.id)
  | .backends => lb.backends.map (·.id)
  | .acls => lb.acls.map (·.id)

/-- The identifiers of the entries of a collection. -/
def stateIds (s : State) : Collection → List (Attr String)
  | .healthChecks => s.healthChecks.entries.map (·.id)
  | .backends => s.backends.entries.map (·.id)
  | .acls => s.acls.entries.map (·.id)

/-- The objects of all collections have identifiers. -/
def HasIds (lb : Remote.LoadBalancer) : Prop :=
  ∀ c, ∀ id ∈ remoteIds lb c, id.isEmpty = false

instance (lb : Remote.LoadBalancer) : Decidable (HasIds lb) :=
  decidable_of_iff (∀ c ∈ [Collection.healthChecks, .backends, .acls],
    ∀ id ∈ remoteIds lb c, id.isEmpty = false)
    ⟨fun h c => h c (by cases c <;> simp), fun h c _ => h c⟩

/-! ### What steps are about and changes name -/

/-- The entry of the state that a step is about: its collection, its identifier and its name. -/
def Step.subject? : Step → Option (Collection × Attr String × Attr String)
  | updateHealthCheck state _ | deleteHealthCheck state =>
    some (.healthChecks, state.id, state.name)
  | updateBackend state _ | deleteBackend state | replaceTargets state _ =>
    some (.backends, state.id, state.name)
  | updateAcl state _ => some (.acls, state.id, state.name)
  | _ => none

/-- The health check that a planned backend refers to. -/
def Step.healthCheckReference : Step → Attr String
  | createBackend plan | updateBackend _ plan => plan.healthCheck
  | _ => .null

/-- The backends that planned listeners refer to. -/
def Step.backendReferences : Step → List (Attr String)
  | replaceListeners plan => plan.map (·.backend)
  | _ => []

/-- The object that a change names. -/
def changeTarget? : Remote.Change → Option (Collection × String)
  | .updateHealthCheck id _ | .deleteHealthCheck id => some (.healthChecks, id)
  | .updateBackend id _ | .deleteBackend id | .replaceTargets id _ => some (.backends, id)
  | .updateAcl id _ => some (.acls, id)
  | _ => none

/-- The health check that a change makes a backend use. -/
def sentHealthCheck? : Remote.Change → Option String
  | .createBackend request => request.healthCheckId
  | .updateBackend _ request => request.healthCheckId
  | _ => none

/-- The backends that a change makes listeners use. -/
def sentBackends : Remote.Change → List String
  | .replaceListeners requests => requests.map (·.backendId)
  | _ => []

/-- A change of a load balancer names what its step is about, and refers to what is planned. -/
structure Addresses (lb : Remote.LoadBalancer) (step : Step) (change : Remote.Change) : Prop where
  /-- The object exists, and its identifier is that of the entry of the state, if that has one. -/
  target : ∀ c id, changeTarget? change = some (c, id) → id ∈ remoteIds lb c ∧
    ∃ stateId name, step.subject? = some (c, stateId, name) ∧ ∀ k, stateId.key? = some k → k = id
  /-- A health check that is referred to has the planned name. -/
  healthCheck : ∀ id, sentHealthCheck? change = some id →
    ∃ h ∈ lb.healthChecks, h.id = id ∧ step.healthCheckReference = .known h.name
  /-- Backends that are referred to have the planned names. -/
  backends : List.Forall₂ (fun id name => ∃ b ∈ lb.backends, b.id = id ∧ name = .known b.name)
    (sentBackends change) step.backendReferences

/-! ### Resolving -/

variable {lb : Remote.LoadBalancer} {step : Step} {change : Remote.Change}

/-- An index sees the identifiers of the objects of a collection. -/
theorem HasIds.present (h : HasIds lb) {α : Type} [Identified α] {c : Collection} {objects : List α}
    {getId : α → String} (known : ∀ x, Identified.id x = .known (getId x))
    (ids : objects.map getId = remoteIds lb c) : ∀ x ∈ objects, (Identified.id x).key?.isSome := by
  intro x hx
  have filled := h c (getId x) (ids ▸ List.mem_map_of_mem hx)
  rw [known]
  exact Option.isSome_of_eq_some (Attr.key?_of_not_isEmpty filled)

/-- The identifier of an entry of the state, as an object of a collection has it. -/
theorem target_of_remoteId {α β : Type} [Identified α] [Identified β] {c : Collection}
    {remote : List α} {getId : α → String} {entry : β} {id : String}
    (known : ∀ x, Identified.id x = .known (getId x)) (ids : remote.map getId = remoteIds lb c)
    (identified : HasIds lb) (h : remoteId c.kind remote entry = .ok id) :
    id ∈ remoteIds lb c ∧ ∀ k, (Identified.id entry).key? = some k → k = id := by
  obtain ⟨⟨x, mem, same⟩, keys⟩ := remoteId_ok (identified.present known ids) h
  rw [known] at same
  have there : id ∈ remote.map getId := Attr.known.inj same ▸ List.mem_map_of_mem mem
  exact ⟨ids ▸ there, keys⟩

/-- A health check that is sent for a backend has the planned name. -/
theorem healthCheck_of_reference {b : Backend} {reference : Option String} {id : String}
    (h : healthCheckId lb b = .ok reference) (sent : reference = some id) :
    ∃ h ∈ lb.healthChecks, h.id = id ∧ b.healthCheck = .known h.name := by
  rcases healthCheckId_ok h with ⟨-, rfl⟩ | ⟨healthCheck, mem, rfl, name⟩
  · cases sent
  · exact ⟨healthCheck, mem, Option.some.inj sent, (Attr.key?_eq_some_iff.1 name).1⟩

/-- A change that names an object and refers to none addresses its step if the object is the one
that the step is about. -/
theorem Addresses.of_target {c : Collection} {id : String} {stateId name : Attr String}
    (named : changeTarget? change = some (c, id))
    (about : step.subject? = some (c, stateId, name))
    (found : id ∈ remoteIds lb c ∧ ∀ k, stateId.key? = some k → k = id)
    (healthCheck : ∀ id, sentHealthCheck? change = some id →
      ∃ h ∈ lb.healthChecks, h.id = id ∧ step.healthCheckReference = .known h.name)
    (backends : sentBackends change = [] ∧ step.backendReferences = []) :
    Addresses lb step change := by
  constructor
  · intro c' id' h
    obtain ⟨rfl, rfl⟩ := Prod.mk.inj (Option.some.inj (named.symm.trans h))
    exact ⟨found.1, stateId, name, about, found.2⟩
  · exact healthCheck
  · rw [backends.1, backends.2]
    exact .nil

/-- A step that resolves addresses what it is about. -/
theorem Resolved.addresses (ids : HasIds lb) (h : Resolved lb step change) :
    Addresses lb step change := by
  cases h with
  | update | createHealthCheck | replaceAcls =>
      exact ⟨nofun, nofun, .nil⟩
  | updateHealthCheck found | deleteHealthCheck found =>
      exact .of_target rfl rfl
        (target_of_remoteId (c := .healthChecks) (fun _ => rfl) rfl ids found)
        nofun ⟨rfl, rfl⟩
  | createBackend reference =>
      exact ⟨nofun, fun _ sent => healthCheck_of_reference reference sent, .nil⟩
  | updateBackend found reference =>
      exact .of_target rfl rfl
        (target_of_remoteId (c := .backends) (fun _ => rfl) rfl ids found)
        (fun _ sent => healthCheck_of_reference reference sent) ⟨rfl, rfl⟩
  | deleteBackend found | replaceTargets found =>
      exact .of_target rfl rfl
        (target_of_remoteId (c := .backends) (fun _ => rfl) rfl ids found)
        nofun ⟨rfl, rfl⟩
  | updateAcl found =>
      exact .of_target rfl rfl
        (target_of_remoteId (c := .acls) (fun _ => rfl) rfl ids found)
        nofun ⟨rfl, rfl⟩
  | replaceListeners found =>
      refine ⟨nofun, nofun, ?_⟩
      refine List.forall₂_map_left_iff.2 (List.forall₂_map_right_iff.2 ?_)
      refine found.flip.imp fun spec l h => ?_
      obtain ⟨backend, mem, rfl, name⟩ := listenerSpec_ok h
      exact ⟨backend, mem, rfl, name⟩

/-- An entry with an identifier that no object of the collection has stands for none. -/
theorem remoteId_of_absent {α β : Type} [Identified α] [Identified β] {c : Collection}
    {remote : List α} {getId : α → String} {entry : β} {k : String}
    (known : ∀ x, Identified.id x = .known (getId x)) (ids : remote.map getId = remoteIds lb c)
    (identified : HasIds lb) (key : (Identified.id entry).key? = some k)
    (absent : k ∉ remoteIds lb c) :
    remoteId c.kind remote entry = .error (.missing c.kind (Identified.name entry).text) := by
  refine remoteId_missing (identified.present known ids) key ?_
  intro x hx same
  rw [known] at same
  have there : k ∈ remote.map getId := Attr.known.inj same ▸ List.mem_map_of_mem hx
  exact absent (ids ▸ there)

/-- A step whose entry has an identifier that no object has cannot be made, even if an object has
its name. -/
theorem resolve_of_absent (ids : HasIds lb) {c : Collection} {stateId name : Attr String}
    {k : String} (about : step.subject? = some (c, stateId, name)) (key : stateId.key? = some k)
    (absent : k ∉ remoteIds lb c) :
    step.resolve lb = .error (.missing c.kind name.text) := by
  have failed {ε α β : Type} {x : Except ε α} {f : α → Except ε β} {e : ε} (h : x = .error e) :
      x >>= f = .error e := by
    rw [h]
    rfl
  cases step with
  | updateHealthCheck state _ | deleteHealthCheck state =>
      obtain ⟨rfl, rfl, rfl⟩ := by simpa [Step.subject?] using about
      exact failed (remoteId_of_absent (fun _ => rfl) rfl ids key absent)
  | updateBackend state _ | deleteBackend state | replaceTargets state _ =>
      obtain ⟨rfl, rfl, rfl⟩ := by simpa [Step.subject?] using about
      exact failed (remoteId_of_absent (fun _ => rfl) rfl ids key absent)
  | updateAcl state =>
      obtain ⟨rfl, rfl, rfl⟩ := by simpa [Step.subject?] using about
      exact failed (remoteId_of_absent (fun _ => rfl) rfl ids key absent)
  | _ => cases about

/-! ### The steps of a difference -/

/-- What a step of a difference is about stands in the state. -/
theorem subject_mem {plan state : State} {c : Collection} {stateId name : Attr String}
    (h : step ∈ (Difference.between plan state).steps plan)
    (about : step.subject? = some (c, stateId, name)) : stateId ∈ stateIds state c := by
  have paired {α : Type} [Identified α] {xs ys : Attr (List α)} {m : Pairing α}
      (hm : m ∈ (Changes.between (collections xs ys).1 (collections xs ys).2).matched) :
      m.state.entry ∈ ys.entries :=
    mem_of_mem_collections (Changes.state_mem_of_mem_matched hm)
  have left {α : Type} [Identified α] {xs ys : Attr (List α)} {p : Placed α}
      (hp : p ∈ (Changes.between (collections xs ys).1 (collections xs ys).2).removed) :
      p.entry ∈ ys.entries :=
    mem_of_mem_collections (Changes.mem_removed.1 hp).1
  rcases Difference.mem_steps.1 h with ⟨-, rfl⟩ | ⟨p, -, rfl⟩ | ⟨m, hm, rfl⟩ |
    ⟨m, hm, rfl | rfl⟩ | ⟨p, -, rfl⟩ | ⟨m, hm, rfl⟩ | ⟨m, hm, rfl⟩ | hstep | ⟨-, rfl⟩ |
    ⟨p, hp, rfl⟩ | ⟨p, hp, rfl⟩
  · cases about
  · cases about
  · obtain ⟨rfl, rfl, rfl⟩ := by simpa [Step.subject?] using about
    exact List.mem_map_of_mem (paired (List.mem_of_mem_filter hm))
  · obtain ⟨rfl, rfl, rfl⟩ := by simpa [Step.subject?] using about
    exact List.mem_map_of_mem (paired (BackendChanges.mem_recreated.1 hm).1)
  · cases about
  · cases about
  · obtain ⟨rfl, rfl, rfl⟩ := by simpa [Step.subject?] using about
    exact List.mem_map_of_mem (paired (BackendChanges.mem_fields.1 hm).1)
  · obtain ⟨rfl, rfl, rfl⟩ := by simpa [Step.subject?] using about
    exact List.mem_map_of_mem (paired (BackendChanges.mem_targets.1 hm).1)
  · rcases mem_aclSteps.1 hstep with ⟨-, rfl⟩ | ⟨-, m, hm, rfl⟩
    · cases about
    · obtain ⟨rfl, rfl, rfl⟩ := by simpa [Step.subject?] using about
      exact List.mem_map_of_mem (paired (List.mem_of_mem_filter hm))
  · cases about
  · obtain ⟨rfl, rfl, rfl⟩ := by simpa [Step.subject?] using about
    exact List.mem_map_of_mem (left hp)
  · obtain ⟨rfl, rfl, rfl⟩ := by simpa [Step.subject?] using about
    exact List.mem_map_of_mem (left hp)

/-! ### The load balancer that was fetched last -/

/-- The load balancer of the last fetch among calls, the last one first, or `current` without one.
-/
def lastFetched (current : Remote.LoadBalancer) (events : List Event) : Remote.LoadBalancer :=
  (events.findSome? Event.fetched?).getD current

/-- The last fetch counts. -/
theorem lastFetched_append {current : Remote.LoadBalancer} {newer older : List Event} :
    lastFetched current (newer ++ older) = lastFetched (lastFetched current older) newer := by
  rw [lastFetched, List.findSome?_append, lastFetched, lastFetched]
  cases newer.findSome? Event.fetched? <;> rfl

/-- What was fetched last was fetched by one of the calls, if by any. -/
theorem lastFetched_mem {current : Remote.LoadBalancer} {events : List Event} :
    lastFetched current events ∈ current :: events.filterMap Event.fetched? := by
  rw [lastFetched]
  rcases h : events.findSome? Event.fetched? with - | lb
  · exact List.mem_cons_self
  · obtain ⟨e, mem, fetched⟩ := List.exists_of_findSome?_eq_some h
    exact List.mem_cons_of_mem _ (List.mem_filterMap.2 ⟨e, mem, fetched⟩)

/-- What holds of every load balancer that is fetched holds of the last one before a call. -/
theorem lastFetched_of_forall {current : Remote.LoadBalancer} {newer older : List Event}
    {P : Remote.LoadBalancer → Prop}
    (h : ∀ lb ∈ current :: (newer ++ older).filterMap Event.fetched?, P lb) :
    P (lastFetched current older) := by
  rcases List.mem_cons.1 (@lastFetched_mem current older) with eq | mem
  · rw [eq]
    exact h current List.mem_cons_self
  · refine h _ (List.mem_cons_of_mem _ ?_)
    rw [List.filterMap_append]
    exact List.mem_append_right _ mem

variable {σ : Type} {env : Environment σ} {id : String} {steps : List Step}
  {current : Remote.LoadBalancer} {session : Session σ}

/-- A rollout that succeeds returns what it fetched last. -/
theorem lastFetched_of_runSteps {next : Remote.LoadBalancer × Session σ}
    (run : runSteps id steps current env session = (.ok next.1, next.2)) :
    ∃ events, next.2.trace = events ++ session.trace ∧ next.1 = lastFetched current events := by
  induction steps generalizing current session with
  | nil =>
      obtain ⟨found, same⟩ := Prod.mk.inj run
      exact ⟨[], same ▸ rfl, (Except.ok.inj found).symm⟩
  | cons step rest ih =>
      rcases advances_or_fails env id step (current, session) with ⟨there, made⟩ | ⟨e, after, ends⟩
      · rw [made.runSteps_cons] at run
        obtain ⟨later, traced, fetched⟩ := ih run
        obtain ⟨change, done, between, -, called, converged⟩ := made
        obtain ⟨e, -, -, -, changed⟩ := call_trace called
        obtain ⟨polls, polled, -, -, ok⟩ := await_trace converged
        obtain ⟨-, -, -, start, earlier, rfl⟩ := ok _ rfl
        refine ⟨later ++ (.found id there.1 start there.2.now :: earlier ++ [e]), ?_, ?_⟩
        · rw [traced, polled, changed, List.append_assoc, ← List.append_cons]
          rfl
        · rw [fetched, lastFetched_append]
          rfl
      · rw [ends.runSteps_cons] at run
        cases (Prod.mk.inj run).1

/-- A step is resolved against the load balancer that was fetched last. -/
theorem lastFetched_of_reaches {here : Remote.LoadBalancer × Session σ} {events : List Event}
    (reached : Reaches env id steps (current, session) step here)
    (traced : here.2.trace = events ++ session.trace) : here.1 = lastFetched current events := by
  obtain ⟨done, rest, -, run⟩ := reached
  obtain ⟨events', traced', fetched⟩ := lastFetched_of_runSteps run
  rw [fetched, List.append_cancel_right (traced'.symm.trans traced)]

/-- How the changes of a rollout reach the objects they are meant for. `events` are the calls of the
rollout, the last one first. -/
structure AddressedRun (env : Environment σ) (id : String) (plan state : State)
    (current : Remote.LoadBalancer) (session : Session σ)
    (result : Except RolloutError Remote.LoadBalancer) (session' : Session σ)
    (events : List Event) : Prop where
  /-- Every change is that of a step, as the step resolves against the last fetch. -/
  changes : ∀ newer e older, events = newer ++ e :: older → e.call.isRead = false →
    ∃ step ∈ (Difference.between plan state).steps plan, ∃ change,
      e.call = .changeLoadBalancer id change ∧
      step.resolve (lastFetched current older) = .ok change ∧
      Addresses (lastFetched current older) step change
  /-- Objects that the state does not know are left alone if all its entries have identifiers. -/
  foreign : ∀ e ∈ events, ∀ change c k, e.call = .changeLoadBalancer id change →
    changeTarget? change = some (c, k) → (∀ a ∈ stateIds state c, a.key?.isSome) →
      .known k ∈ stateIds state c
  /-- A step whose object is gone ends the rollout, whatever has its name. -/
  gone : ∀ step here c stateId name k,
    Reaches env id ((Difference.between plan state).steps plan) (current, session) step here →
    step.subject? = some (c, stateId, name) → stateId.key? = some k → k ∉ remoteIds here.1 c →
      result = .error (.reference (.missing c.kind name.text)) ∧ session' = here.2

/-- A change whose step is one of the difference names no object that the state does not know. -/
theorem Addresses.known_mem {plan state : State} {c : Collection} {k : String}
    (h : Addresses lb step change) (mem : step ∈ (Difference.between plan state).steps plan)
    (target : changeTarget? change = some (c, k))
    (present : ∀ a ∈ stateIds state c, a.key?.isSome) :
    .known k ∈ stateIds state c := by
  obtain ⟨-, stateId, name, about, keys⟩ := h.target c k target
  have known := subject_mem mem about
  obtain ⟨k', key⟩ := Option.isSome_iff_exists.1 (present _ known)
  obtain rfl := keys k' key
  exact (Attr.key?_eq_some_iff.1 key).1 ▸ known

/-- Every change of a rollout reaches the object it is meant for, as long as the objects of the load
balancers that are fetched have identifiers. -/
theorem rollout_addressed {plan state : State} {result : Except RolloutError Remote.LoadBalancer}
    {session' : Session σ} {events : List Event}
    (run : rollout id plan state current env session = (result, session'))
    (traced : session'.trace = events ++ session.trace)
    (identified : ∀ lb ∈ current :: events.filterMap Event.fetched?, HasIds lb) :
    AddressedRun env id plan state current session result session' events := by
  obtain ⟨later, traced', issued⟩ := exists_issues run
  obtain rfl := List.append_cancel_right (traced'.symm.trans traced)
  have changes : ∀ newer e older, later = newer ++ e :: older → e.call.isRead = false →
      ∃ step ∈ (Difference.between plan state).steps plan, ∃ change,
        e.call = .changeLoadBalancer id change ∧
        step.resolve (lastFetched current older) = .ok change ∧
        Addresses (lastFetched current older) step change := by
    intro newer e older split isChange
    obtain ⟨step, here, change, reached, resolved, call, before⟩ := issued _ _ _ split isChange
    rw [lastFetched_of_reaches reached before] at resolved
    have ids : HasIds (lastFetched current older) := by
      rw [split, List.append_cons] at identified
      exact lastFetched_of_forall identified
    refine ⟨step, ?_, change, call, resolved, (resolved_of_resolve resolved).addresses ids⟩
    obtain ⟨done, rest, eq, -⟩ := reached
    exact eq ▸ List.mem_append_right _ List.mem_cons_self
  refine ⟨changes, ?_, ?_⟩
  · intro e he change c k call target present
    obtain ⟨newer, older, split⟩ := List.append_of_mem he
    have isChange : e.call.isRead = false := by rw [call]; rfl
    obtain ⟨step, mem, change', call', -, addressed⟩ := changes newer e older split isChange
    obtain ⟨-, rfl⟩ := Remote.Call.changeLoadBalancer.inj (call'.symm.trans call)
    exact addressed.known_mem mem target present
  · intro step here c stateId name k reached about key absent
    have ⟨done, rest, eq, ran⟩ := reached
    obtain ⟨older, before, fetched⟩ := lastFetched_of_runSteps ran
    have ids : HasIds here.1 := by
      rw [rollout, eq, runSteps_append ran] at run
      obtain ⟨newer, after, -⟩ := exists_issues run
      rw [before, ← List.append_assoc] at after
      rw [List.append_cancel_right (traced.symm.trans after)] at identified
      exact fetched ▸ lastFetched_of_forall identified
    have fails : Fails env id step here (.reference (.missing c.kind name.text)) here.2 :=
      .reference (resolve_of_absent ids about key absent)
    have ends := runSteps_of_fails reached fails
    obtain ⟨rfl, rfl⟩ := Prod.mk.inj (run.symm.trans ends)
    exact ⟨rfl, rfl⟩

/-! ### A rollout in a cloud in memory -/

/-- A load balancer with one listener, one backend and one health check. -/
def sampleRemote : Remote.LoadBalancer where
  id := "lb-1"
  name := "edge"
  description := none
  address := none
  status := "running"
  errorMessage := none
  listeners := [⟨"ls-1", some "http", 80, "http", "be-1", none⟩]
  acls := []
  healthChecks := [⟨"hc-1", "ping", "http", 80, none, 10, 5, 3, 3⟩]
  backends := [⟨"be-1", "web", "instance", none, false, some "hc-1", []⟩]

/-- The plan to rename the backend and to do without the health check. -/
def samplePlan : State :=
  { State.ofRemote sampleRemote with
    healthChecks := .known []
    backends := .known [⟨.known "be-1", .known "site", .known "instance", .null, .known false,
      .null, .known []⟩] }

/-- An environment with a cloud in memory. -/
def sampleEnvironment : Environment MemoryCloud :=
  ⟨MemoryCloud.api, ⟨1, 100, ⟨10, 10, 10, 10⟩⟩, none, 100⟩

/-- A session in which the cloud holds the sample and nothing was called yet. -/
def sampleSession : Session MemoryCloud :=
  ⟨0, MemoryCloud.withEntry "lb-1" (⟨sampleRemote, []⟩ : Entry Remote.LoadBalancer) .empty, []⟩

/-- The rollout of the sample makes two changes, and both reach the objects they are meant for. -/
theorem rollout_addressed_sample :
    let run := rollout "lb-1" samplePlan (.ofRemote sampleRemote) sampleRemote sampleEnvironment
      sampleSession
    AddressedRun sampleEnvironment "lb-1" samplePlan (.ofRemote sampleRemote) sampleRemote
        sampleSession run.1 run.2 run.2.trace ∧
      (run.2.trace.filter fun e => !e.call.isRead).length = 2 :=
  ⟨rollout_addressed rfl (List.append_nil _).symm (by decide +kernel), by decide +kernel⟩

end LoadBalancer

end CloudProvision
