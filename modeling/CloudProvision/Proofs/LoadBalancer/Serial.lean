import CloudProvision.LoadBalancer.Resource
import CloudProvision.Proofs.LoadBalancer.Difference
import CloudProvision.Proofs.LoadBalancer.Rollout
import CloudProvision.Proofs.Request

/-!
# Changes are made one at a time

Creating a load balancer and updating it end alike: wait until the load balancer runs, then roll it
out. `startAndRollout` is this common part, and `SerialRun` says how it goes whatever the API
answers and whenever it is cancelled.

## Main results

* `startAndRollout_issues`: every change of the common part is that of a step.
* `startAndRollout_serial`: every run of the common part is serial.
* `update_and_create_serial`: every update is serial, and every creation after its first call.
-/

namespace CloudProvision.LoadBalancer

open Operation Request

variable {σ : Type} {env : Environment σ} {id : String} {session : Session σ}
  {diagnostics : Diagnostics}

/-! ### The common part -/

/-- What a creation and an update have in common: wait for the load balancer and roll it out. The
state that the plan is compared with may come from the load balancer that the wait found. -/
def startAndRollout (id : String) (plan : State) (prior : Remote.LoadBalancer → State)
    (notReady notDone : String) : Request σ State := do
  let current ← orReport (converge id) notReady
  let changed ← orReport (rollout id plan (prior current) current) notDone
  return .ofRemote changed

/-- An update is the common part from the prior state. -/
theorem update_eq (prior planned : State) :
    (resource (σ := σ)).update prior planned =
      startAndRollout prior.id.text planned (fun _ => prior) "Load balancer is not running"
        "Could not update load balancer" := rfl

/-- A creation is the common part after its first call. -/
theorem create_eq (planned : State) :
    (resource (σ := σ)).create planned = (do
      let id ← orReport (call (.createLoadBalancer planned.createRequest))
        "Could not create load balancer"
      startAndRollout id planned .ofRemote "Load balancer did not start"
        "Could not configure load balancer") := rfl

/-- The common part as its wait ends and its rollout. -/
theorem startAndRollout_run {plan : State} {prior : Remote.LoadBalancer → State}
    {notReady notDone : String} :
    startAndRollout id plan prior notReady notDone diagnostics env session =
      match converge id env session with
      | (.error e, there) => ((none, diagnostics.error (.onRoot notReady (toString e))), there)
      | (.ok current, there) =>
        match rollout id plan (prior current) current env there with
        | (.error e, after) => ((none, diagnostics.error (.onRoot notDone (toString e))), after)
        | (.ok changed, after) => ((some (.ofRemote changed), diagnostics), after) := by
  rw [startAndRollout, Request.bind_run, orReport_run]
  rcases converge id env session with ⟨_ | current, there⟩
  · rfl
  · dsimp only
    rw [Request.bind_run, orReport_run]
    rcases rollout id plan (prior current) current env there with ⟨_ | _, after⟩ <;> rfl

/-- Every change in the trace of the common part is that of a step its rollout reached, when the
calls before the change had been made. -/
theorem startAndRollout_issues {plan : State} {prior : Remote.LoadBalancer → State}
    {notReady notDone : String} {answer : Option State × Diagnostics} {session' : Session σ}
    (run : startAndRollout id plan prior notReady notDone diagnostics env session =
      (answer, session')) :
    ∃ events, session'.trace = events ++ session.trace ∧
      ∀ newer e older, events = newer ++ e :: older → e.call.isRead = false →
        ∃ current there step here change, converge id env session = (.ok current, there) ∧
          Reaches env id ((Difference.between plan (prior current)).steps plan) (current, there)
            step here ∧
          step.resolve here.1 = .ok change ∧ e.call = .changeLoadBalancer id change ∧
          here.2.trace = older ++ session.trace := by
  rw [startAndRollout_run] at run
  rcases started : converge id env session with ⟨e | current, there⟩
  · obtain ⟨polls, traced, calls, -⟩ := await_trace started
    simp only [started] at run
    obtain ⟨-, rfl⟩ := Prod.mk.inj run
    refine ⟨polls, traced, fun newer e older split isChange => ?_⟩
    rw [calls e (by simp [split])] at isChange
    cases isChange
  · obtain ⟨polls, traced, calls, -⟩ := await_trace started
    rcases rolled : rollout id plan (prior current) current env there with ⟨outcome, after⟩
    obtain ⟨later, traced', issued⟩ := exists_issues rolled
    have ended : session' = after := by
      rw [started] at run
      dsimp only at run
      rw [rolled] at run
      cases outcome <;> exact (Prod.mk.inj run).2.symm
    refine ⟨later ++ polls, by rw [ended, traced', traced, List.append_assoc],
      fun newer e older split isChange => ?_⟩
    rcases append_eq_append_cons split with ⟨older', rfl, rfl⟩ | ⟨before, -, rfl⟩
    · obtain ⟨step, here, change, reached, resolved, call, before⟩ :=
        issued newer e older' rfl isChange
      exact ⟨current, there, step, here, change, rfl, reached, resolved, call, by
        rw [before, traced, List.append_assoc]⟩
    · rw [calls e (by simp)] at isChange
      cases isChange

/-! ### Serial runs -/

/-- How a run makes its changes one at a time and ends with the first failure. `events` are the
calls of the run, the last one first. A run that fails records one error, and one that succeeds
none. -/
structure SerialRun (env : Environment σ) (id : String) (plan : State)
    (prior : Remote.LoadBalancer → State) (diagnostics : Diagnostics) (session : Session σ)
    (answer : Option State × Diagnostics) (session' : Session σ) (events : List Event) :
    Prop where
  trace : session'.trace = events ++ session.trace
  orderly : Orderly id env.cancelAt events
  /-- A load balancer that does not run at first ends the run. -/
  unstarted : ∀ e there, converge id env session = (.error e, there) →
    session' = there ∧ ∃ d, answer = (none, diagnostics.error d)
  /-- A step that fails ends the run. -/
  failed : ∀ current there step here e after, converge id env session = (.ok current, there) →
    Reaches env id ((Difference.between plan (prior current)).steps plan) (current, there) step
      here → Fails env id step here e after →
        session' = after ∧ ∃ d, answer = (none, diagnostics.error d)
  /-- Where nothing differs no call is made after the first wait. -/
  idle : ∀ current there, converge id env session = (.ok current, there) →
    (Difference.between plan (prior current)).isEmpty = true →
      session' = there ∧ answer = (some (.ofRemote current), diagnostics)
  /-- Where something differs a change is attempted, or the run fails. -/
  attempted : ∀ current there, converge id env session = (.ok current, there) →
    (Difference.between plan (prior current)).isEmpty = false →
      (∃ e ∈ events, e.call.isRead = false) ∨ ∃ d, answer = (none, diagnostics.error d)
  /-- The state that is returned is that of the load balancer in the last fetch. -/
  returned : ∀ state, answer.1 = some state → ∃ lb start rest,
    events = .found id lb start session'.now :: rest ∧ state = .ofRemote lb

/-- A run whose load balancer does not run at first is serial. -/
theorem SerialRun.of_unstarted {plan : State} {prior : Remote.LoadBalancer → State}
    {e : WaitError} {d : Diagnostic} {there : Session σ}
    (started : converge id env session = (.error e, there)) :
    ∃ events, SerialRun env id plan prior diagnostics session (none, diagnostics.error d) there
      events := by
  obtain ⟨polls, traced, -, orderly, -⟩ :=
    converge_orderly .nil (by simp) (List.nil_append session.trace).symm started
  refine ⟨polls ++ [], traced, orderly, ?_, ?_, ?_, ?_, ?_⟩
  · intro e' there' h
    obtain ⟨-, rfl⟩ := Prod.mk.inj (started.symm.trans h)
    exact ⟨rfl, d, rfl⟩
  · intro _ _ _ _ _ _ h
    cases started.symm.trans h
  · intro _ _ h
    cases started.symm.trans h
  · intro _ _ _ _
    exact .inr ⟨d, rfl⟩
  · intro _ h
    cases h

/-- A run whose load balancer runs at first is serial. -/
theorem SerialRun.of_started {plan : State} {prior : Remote.LoadBalancer → State}
    {current : Remote.LoadBalancer} {there after : Session σ}
    {answer : Option State × Diagnostics} {outcome : Except RolloutError Remote.LoadBalancer}
    (started : converge id env session = (.ok current, there))
    (rolled : rollout id plan (prior current) current env there = (outcome, after))
    (failed : ∀ e, outcome = .error e → ∃ d, answer = (none, diagnostics.error d))
    (succeeded : ∀ lb, outcome = .ok lb → answer = (some (.ofRemote lb), diagnostics)) :
    ∃ events, SerialRun env id plan prior diagnostics session answer after events := by
  obtain ⟨polls, traced, -, orderly, ok⟩ :=
    converge_orderly .nil (by simp) (List.nil_append session.trace).symm started
  obtain ⟨later, traced', orderly', ok'⟩ := runSteps_orderly orderly (ok _ rfl) traced rolled
  have same {current' : Remote.LoadBalancer} {there' : Session σ}
      (h : converge id env session = (.ok current', there')) :
      current' = current ∧ there' = there := by
    obtain ⟨found, rfl⟩ := Prod.mk.inj (h.symm.trans started)
    exact ⟨Except.ok.inj found, rfl⟩
  refine ⟨later ++ (polls ++ []), traced', orderly', ?_, ?_, ?_, ?_, ?_⟩
  · intro _ _ h
    cases started.symm.trans h
  · intro current' there' step here e after' h reached ends
    obtain ⟨rfl, rfl⟩ := same h
    obtain ⟨rfl, rfl⟩ := Prod.mk.inj (rolled.symm.trans (runSteps_of_fails reached ends))
    exact ⟨rfl, failed e rfl⟩
  · intro current' there' h empty
    obtain ⟨rfl, rfl⟩ := same h
    rw [rollout, Difference.steps_eq_nil_iff.2 empty] at rolled
    obtain ⟨rfl, rfl⟩ := Prod.mk.inj rolled
    exact ⟨rfl, succeeded _ rfl⟩
  · intro current' there' h differs
    obtain ⟨rfl, rfl⟩ := same h
    have todo : (Difference.between plan (prior current')).steps plan ≠ [] := fun none => by
      simp [Difference.steps_eq_nil_iff.1 none] at differs
    rcases exists_change_or_error todo rolled with ⟨e, he⟩ | ⟨made, traced'', e, he, change⟩
    · exact .inr (failed e he)
    · have eq : made = later := by
        simpa [traced, traced''] using traced'
      exact .inl ⟨e, List.mem_append_left _ (eq ▸ he), change⟩
  · intro state h
    rcases outcome with e | lb
    · obtain ⟨d, hd⟩ := failed e rfl
      rw [hd] at h
      cases h
    · obtain ⟨start, rest, last⟩ := (ok' lb rfl).last
      rw [succeeded lb rfl] at h
      exact ⟨lb, start, rest, last, (Option.some.inj h).symm⟩

/-- Every run of the common part is serial. -/
theorem startAndRollout_serial {plan : State} {prior : Remote.LoadBalancer → State}
    {notReady notDone : String} {answer : Option State × Diagnostics} {session' : Session σ}
    (run : startAndRollout id plan prior notReady notDone diagnostics env session =
      (answer, session')) :
    ∃ events, SerialRun env id plan prior diagnostics session answer session' events := by
  rw [startAndRollout_run] at run
  rcases started : converge id env session with ⟨e | current, there⟩
  · simp only [started] at run
    obtain ⟨rfl, rfl⟩ := Prod.mk.inj run
    exact SerialRun.of_unstarted started
  · simp only [started] at run
    rcases rolled : rollout id plan (prior current) current env there with ⟨e | lb, after⟩
    · simp only [rolled] at run
      obtain ⟨rfl, rfl⟩ := Prod.mk.inj run
      exact SerialRun.of_started started rolled (fun _ _ => ⟨_, rfl⟩) (by simp)
    · simp only [rolled] at run
      obtain ⟨rfl, rfl⟩ := Prod.mk.inj run
      exact SerialRun.of_started started rolled (by simp) (by simp)

/-- Changes are made one at a time, whatever the API answers and whenever the operation is
cancelled: every update is serial, and so is every creation from its first answer on, unless that
is an error, which ends it. -/
theorem update_and_create_serial (env : Environment σ) (session : Session σ)
    (diagnostics : Diagnostics) (prior planned : State) :
    (∃ events, SerialRun env prior.id.text planned (fun _ => prior) diagnostics session
      (resource.update prior planned diagnostics env session).1
      (resource.update prior planned diagnostics env session).2 events) ∧
    match call (.createLoadBalancer planned.createRequest) env session with
    | (.error _, there) => (resource.create planned diagnostics env session).2 = there ∧
        ∃ d, (resource.create planned diagnostics env session).1 = (none, diagnostics.error d)
    | (.ok id, there) => ∃ events, SerialRun env id planned .ofRemote diagnostics there
        (resource.create planned diagnostics env session).1
        (resource.create planned diagnostics env session).2 events := by
  constructor
  · rw [update_eq]
    exact startAndRollout_serial rfl
  · rw [create_eq, Request.bind_run, orReport_run]
    rcases call (.createLoadBalancer planned.createRequest) env session with ⟨_ | id, there⟩
    · exact ⟨rfl, _, rfl⟩
    · exact startAndRollout_serial rfl

end CloudProvision.LoadBalancer
