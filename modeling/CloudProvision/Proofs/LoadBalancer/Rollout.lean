import CloudProvision.LoadBalancer.Rollout
import CloudProvision.Proofs.Trace

/-!
# Runs of a rollout

A rollout makes its steps in order, and a step is reached when those before it are done. `Reaches`
is this relation and `Fails` says how a step that is reached can end the rollout. With them a run is
split at any of its steps.

## Main results

* `runSteps_append`: steps run as their two halves do, one after the other.
* `runSteps_of_fails`: a rollout ends where one of its steps fails, in the session that this leaves.
* `runSteps_orderly`: the trace of a rollout is orderly.
* `exists_issues`: every change in the trace of a rollout is that of a step it reached.
-/

namespace CloudProvision.LoadBalancer

open Operation

variable {σ : Type}

/-- The steps before `step` are done: the load balancer as it was fetched after the last of them,
and the session they leave. -/
def Reaches (env : Environment σ) (id : String) (steps : List Step)
    (start : Remote.LoadBalancer × Session σ) (step : Step)
    (here : Remote.LoadBalancer × Session σ) : Prop :=
  ∃ done rest, steps = done ++ step :: rest ∧
    runSteps id done start.1 env start.2 = (.ok here.1, here.2)

/-- How a step ends a rollout: it is about an object that is not there, its call is answered with an
error, or the load balancer does not run after it. -/
inductive Fails (env : Environment σ) (id : String) (step : Step)
    (here : Remote.LoadBalancer × Session σ) : RolloutError → Session σ → Prop
  | reference {e : ReferenceError} :
      step.resolve here.1 = .error e → Fails env id step here (.reference e) here.2
  | api {change : Remote.Change} {e : Remote.ApiError} {there : Session σ} :
      step.resolve here.1 = .ok change →
      call (.changeLoadBalancer id change) env here.2 = (.error e, there) →
      Fails env id step here (.api e) there
  | wait {change : Remote.Change} {done : Unit} {e : WaitError} {there after : Session σ} :
      step.resolve here.1 = .ok change →
      call (.changeLoadBalancer id change) env here.2 = (.ok done, there) →
      converge id env there = (.error e, after) → Fails env id step here (.wait e) after

/-- A step is made: its call is accepted, and then the load balancer runs again. -/
def Advances (env : Environment σ) (id : String) (step : Step)
    (here next : Remote.LoadBalancer × Session σ) : Prop :=
  ∃ change done there, step.resolve here.1 = .ok change ∧
    call (.changeLoadBalancer id change) env here.2 = (.ok done, there) ∧
    converge id env there = (.ok next.1, next.2)

/-- `e` is the change of a step that is reached when the calls `older` have been made. -/
def Issues (env : Environment σ) (id : String) (steps : List Step)
    (start : Remote.LoadBalancer × Session σ) (older : List Event) (e : Event) : Prop :=
  ∃ step here change, Reaches env id steps start step here ∧
    step.resolve here.1 = .ok change ∧ e.call = .changeLoadBalancer id change ∧
    here.2.trace = older ++ start.2.trace

variable {env : Environment σ} {id : String} {step : Step} {steps rest : List Step}
  {current : Remote.LoadBalancer} {session : Session σ}

/-! ### Steps -/

/-- A rollout makes its first step, unless the step fails. -/
theorem runSteps_cons :
    runSteps id (step :: rest) current env session =
      match step.resolve current with
      | .error e => (.error (.reference e), session)
      | .ok change =>
        match call (.changeLoadBalancer id change) env session with
        | (.error e, there) => (.error (.api e), there)
        | (.ok _, there) =>
          match converge id env there with
          | (.error e, after) => (.error (.wait e), after)
          | (.ok lb, after) => runSteps id rest lb env after := by
  rw [runSteps]
  rcases step.resolve current with e | change
  · rfl
  · simp only [bind_run]
    rcases call (.changeLoadBalancer id change) env session with ⟨_ | _, there⟩
    · rfl
    · simp only [bind_run]
      rcases converge id env there with ⟨_ | _, after⟩ <;> rfl

/-- After a step that is made, the rollout goes on with the others. -/
theorem Advances.runSteps_cons {next : Remote.LoadBalancer × Session σ}
    (h : Advances env id step (current, session) next) :
    runSteps id (step :: rest) current env session = runSteps id rest next.1 env next.2 := by
  obtain ⟨change, done, there, resolved, called, converged⟩ := h
  rw [LoadBalancer.runSteps_cons, resolved]
  simp only [called, converged]

/-- A step that fails ends the rollout. -/
theorem Fails.runSteps_cons {e : RolloutError} {after : Session σ}
    (h : Fails env id step (current, session) e after) :
    runSteps id (step :: rest) current env session = (.error e, after) := by
  rw [LoadBalancer.runSteps_cons]
  cases h with
  | reference resolved => rw [resolved]
  | api resolved called => rw [resolved]; simp only [called]
  | wait resolved called converged => rw [resolved]; simp only [called, converged]

/-- A step is made or fails. -/
theorem advances_or_fails (env : Environment σ) (id : String) (step : Step)
    (here : Remote.LoadBalancer × Session σ) :
    (∃ next, Advances env id step here next) ∨ ∃ e after, Fails env id step here e after := by
  rcases resolved : step.resolve here.1 with e | change
  · exact .inr ⟨_, _, .reference resolved⟩
  · rcases called : call (.changeLoadBalancer id change) env here.2 with ⟨e | done, there⟩
    · exact .inr ⟨_, _, .api resolved called⟩
    · rcases converged : converge id env there with ⟨e | lb, after⟩
      · exact .inr ⟨_, _, .wait resolved called converged⟩
      · exact .inl ⟨(lb, after), change, done, there, resolved, called, converged⟩

/-! ### Whole rollouts -/

/-- Steps run as their two halves do, one after the other. -/
theorem runSteps_append {done : List Step} {next : Remote.LoadBalancer × Session σ}
    (h : runSteps id done current env session = (.ok next.1, next.2)) :
    runSteps id (done ++ rest) current env session = runSteps id rest next.1 env next.2 := by
  induction done generalizing current session with
  | nil =>
      obtain ⟨found, rfl⟩ := Prod.mk.inj h
      obtain rfl := Except.ok.inj found
      rfl
  | cons step done ih =>
      rcases advances_or_fails env id step (current, session) with ⟨there, made⟩ | ⟨e, after, ends⟩
      · rw [List.cons_append, made.runSteps_cons]
        exact ih (made.runSteps_cons ▸ h)
      · rw [ends.runSteps_cons] at h
        cases (Prod.mk.inj h).1

/-- The first step is reached at once. -/
theorem reaches_head : Reaches env id (step :: rest) (current, session) step (current, session) :=
  ⟨[], rest, rfl, rfl⟩

/-- What is reached after the first step is reached from the start. -/
theorem Reaches.cons {first : Step} {next here : Remote.LoadBalancer × Session σ}
    (made : Advances env id first (current, session) next)
    (h : Reaches env id rest next step here) :
    Reaches env id (first :: rest) (current, session) step here := by
  obtain ⟨done, later, rfl, run⟩ := h
  exact ⟨first :: done, later, rfl, by rw [made.runSteps_cons, run]⟩

/-- A rollout ends where one of its steps fails: no call is made after that. -/
theorem runSteps_of_fails {here : Remote.LoadBalancer × Session σ} {e : RolloutError}
    {after : Session σ} (reached : Reaches env id steps (current, session) step here)
    (ends : Fails env id step here e after) :
    runSteps id steps current env session = (.error e, after) := by
  obtain ⟨done, rest, rfl, run⟩ := reached
  rw [runSteps_append run, ends.runSteps_cons]

/-! ### Traces -/

/-- A wait after an orderly trace of calls that succeeded keeps it orderly, and a wait that succeeds
is a converged moment. -/
theorem converge_orderly {result : Except WaitError Remote.LoadBalancer} {session' : Session σ}
    {events base : List Event} (orderly : Orderly id env.cancelAt events)
    (succeeded : ∀ e ∈ events, e.Succeeded) (trace : session.trace = events ++ base)
    (run : converge id env session = (result, session')) :
    ∃ polls, session'.trace = polls ++ events ++ base ∧
      (∀ e ∈ polls, e.call.isRead = true) ∧ Orderly id env.cancelAt (polls ++ events) ∧
      ∀ lb, result = .ok lb → Converged id env.cancelAt session'.now lb (polls ++ events) := by
  obtain ⟨polls, after, calls, pending, ok⟩ := await_trace run
  have reads : ∀ e ∈ polls, e.call.isRead = true := fun e he => by rw [calls e he]; rfl
  refine ⟨polls, by rw [after, trace, List.append_assoc], reads,
    orderly.wait succeeded reads pending, fun lb hlb => ?_⟩
  obtain ⟨running, uncancelled, -, start, earlier, rfl⟩ := ok lb hlb
  refine ⟨⟨start, earlier ++ events, rfl⟩, running, fun instant hc => ?_, fun e he => ?_⟩
  · simpa [Polling.isCancelled, hc] using uncancelled
  · rcases List.mem_append.1 he with he | he
    · rcases List.mem_cons.1 he with rfl | he
      · exact ⟨lb, rfl⟩
      · exact pending e he
    · exact succeeded e he

/-- A change at a converged moment keeps the trace orderly. -/
theorem change_orderly {change : Remote.Change} {answer : Except Remote.ApiError Unit}
    {there : Session σ} {events base : List Event} (orderly : Orderly id env.cancelAt events)
    (ready : Converged id env.cancelAt session.now current events)
    (trace : session.trace = events ++ base)
    (called : call (.changeLoadBalancer id change) env session = (answer, there)) :
    ∃ e, e.call = .changeLoadBalancer id change ∧ there.trace = e :: events ++ base ∧
      Orderly id env.cancelAt (e :: events) ∧
      ∀ done, answer = .ok done → ∀ f ∈ e :: events, f.Succeeded := by
  obtain ⟨e, call, start, succeeded, traced⟩ := call_trace called
  refine ⟨e, call, by rw [traced, trace, List.cons_append], orderly.change ready start,
    fun done ok f hf => ?_⟩
  rcases List.mem_cons.1 hf with rfl | hf
  · exact succeeded done ok
  · exact ready.succeeded f hf

/-- The trace of a rollout that starts at a converged moment stays orderly, and a rollout that
succeeds ends at a converged moment. -/
theorem runSteps_orderly {result : Except RolloutError Remote.LoadBalancer} {session' : Session σ}
    {events base : List Event} (orderly : Orderly id env.cancelAt events)
    (ready : Converged id env.cancelAt session.now current events)
    (trace : session.trace = events ++ base)
    (run : runSteps id steps current env session = (result, session')) :
    ∃ later, session'.trace = later ++ events ++ base ∧
      Orderly id env.cancelAt (later ++ events) ∧
      ∀ lb, result = .ok lb → Converged id env.cancelAt session'.now lb (later ++ events) := by
  induction steps generalizing current session events with
  | nil =>
      obtain ⟨found, rfl⟩ := Prod.mk.inj run
      refine ⟨[], trace, orderly, fun lb hlb => ?_⟩
      obtain rfl := Except.ok.inj (found.trans hlb)
      exact ready
  | cons step rest ih =>
      rcases advances_or_fails env id step (current, session) with ⟨next, made⟩ | ⟨e, after, ends⟩
      · rw [made.runSteps_cons] at run
        obtain ⟨change, done, there, -, called, converged⟩ := made
        obtain ⟨e, -, traced, orderly, succeeded⟩ := change_orderly orderly ready trace called
        obtain ⟨polls, traced, -, orderly, ok⟩ :=
          converge_orderly orderly (succeeded done rfl) traced converged
        obtain ⟨later, traced, orderly, ok⟩ := ih orderly (ok _ rfl) traced run
        exact ⟨later ++ (polls ++ [e]), by simpa using traced, by simpa using orderly,
          by simpa using ok⟩
      · rw [ends.runSteps_cons] at run
        obtain ⟨rfl, rfl⟩ := Prod.mk.inj run
        cases ends with
        | reference => exact ⟨[], trace, orderly, by simp⟩
        | api resolved called =>
            obtain ⟨e, -, traced, orderly, -⟩ := change_orderly orderly ready trace called
            exact ⟨[e], traced, orderly, by simp⟩
        | wait resolved called converged =>
            obtain ⟨e, -, traced, orderly, succeeded⟩ :=
              change_orderly orderly ready trace called
            obtain ⟨polls, traced, -, orderly, -⟩ :=
              converge_orderly orderly (succeeded _ rfl) traced converged
            exact ⟨polls ++ [e], by simpa using traced, by simpa using orderly, by simp⟩

/-- What is issued after the first step is issued, with the calls of that step before it. -/
theorem Issues.cons {next : Remote.LoadBalancer × Session σ} {first older : List Event} {e : Event}
    (made : Advances env id step (current, session) next)
    (trace : next.2.trace = first ++ session.trace) (h : Issues env id rest next older e) :
    Issues env id (step :: rest) (current, session) (older ++ first) e := by
  obtain ⟨step', here, change, reached, resolved, eq, traced⟩ := h
  exact ⟨step', here, change, reached.cons made, resolved, eq, by
    rw [traced, trace, List.append_assoc]⟩

/-- The only change among the calls of the first step is its own. -/
theorem issues_head {change : Remote.Change} {polls newer older : List Event} {made e : Event}
    (resolved : step.resolve current = .ok change)
    (call : made.call = .changeLoadBalancer id change)
    (reads : ∀ f ∈ polls, f.call.isRead = true) (split : polls ++ [made] = newer ++ e :: older)
    (isChange : e.call.isRead = false) :
    Issues env id (step :: rest) (current, session) older e := by
  rcases append_eq_append_cons split with ⟨_, rfl, -⟩ | ⟨before, -, single⟩
  · simp [reads e (by simp)] at isChange
  · rcases before with - | ⟨f, before⟩
    · obtain ⟨rfl, rfl⟩ := List.cons.inj single
      exact ⟨step, _, change, reaches_head, resolved, call, rfl⟩
    · simp at single

/-- Every change in the trace of a rollout is that of a step it reached, when the calls before the
change had been made. -/
theorem exists_issues {result : Except RolloutError Remote.LoadBalancer} {session' : Session σ}
    (run : runSteps id steps current env session = (result, session')) :
    ∃ later, session'.trace = later ++ session.trace ∧
      ∀ newer e older, later = newer ++ e :: older → e.call.isRead = false →
        Issues env id steps (current, session) older e := by
  induction steps generalizing current session with
  | nil =>
      obtain ⟨-, rfl⟩ := Prod.mk.inj run
      exact ⟨[], rfl, by simp⟩
  | cons step rest ih =>
      rcases advances_or_fails env id step (current, session) with ⟨next, made⟩ | ⟨e, after, ends⟩
      · rw [made.runSteps_cons] at run
        obtain ⟨later, traced, issued⟩ := ih run
        have ⟨change, done, there, resolved, called, converged⟩ := made
        obtain ⟨e₀, call, -, -, changed⟩ := call_trace called
        obtain ⟨polls, polled, calls, -, -⟩ := await_trace converged
        have first : next.2.trace = (polls ++ [e₀]) ++ session.trace := by
          rw [polled, changed, ← List.append_cons]
        refine ⟨later ++ (polls ++ [e₀]), by rw [traced, first, ← List.append_assoc],
          fun newer e older split isChange => ?_⟩
        rcases append_eq_append_cons split with ⟨older', rfl, rfl⟩ | ⟨before, -, split⟩
        · exact (issued _ _ _ rfl isChange).cons made first
        · exact issues_head resolved call (fun f hf => by rw [calls f hf]; rfl) split isChange
      · rw [ends.runSteps_cons] at run
        obtain ⟨-, rfl⟩ := Prod.mk.inj run
        cases ends with
        | reference => exact ⟨[], rfl, by simp⟩
        | api resolved called =>
            obtain ⟨e₀, call, -, -, changed⟩ := call_trace called
            exact ⟨[e₀], changed, fun newer e older (split : [] ++ [e₀] = _) =>
              issues_head resolved call (by simp) split⟩
        | wait resolved called converged =>
            obtain ⟨e₀, call, -, -, changed⟩ := call_trace called
            obtain ⟨polls, polled, calls, -, -⟩ := await_trace converged
            exact ⟨polls ++ [e₀], by rw [polled, changed, ← List.append_cons],
              fun newer e older => issues_head resolved call fun f hf => by rw [calls f hf]; rfl⟩

/-- A rollout with steps to make issues a change, or fails. -/
theorem exists_change_or_error {result : Except RolloutError Remote.LoadBalancer}
    {session' : Session σ} (todo : steps ≠ [])
    (run : runSteps id steps current env session = (result, session')) :
    (∃ e, result = .error e) ∨
      ∃ later, session'.trace = later ++ session.trace ∧ ∃ e ∈ later, e.call.isRead = false := by
  cases steps with
  | nil => exact absurd rfl todo
  | cons step rest =>
      rcases advances_or_fails env id step (current, session) with ⟨next, made⟩ | ⟨e, after, ends⟩
      · rw [made.runSteps_cons] at run
        obtain ⟨later, traced, -⟩ := exists_issues run
        obtain ⟨change, done, there, -, called, converged⟩ := made
        obtain ⟨e, call, -, -, changed⟩ := call_trace called
        obtain ⟨polls, polled, -⟩ := await_trace converged
        refine .inr ⟨later ++ (polls ++ [e]), ?_, e, by simp, by rw [call]; rfl⟩
        rw [traced, polled, changed, List.append_assoc, ← List.append_cons]
      · rw [ends.runSteps_cons] at run
        exact .inl ⟨e, (Prod.mk.inj run).1.symm⟩

end CloudProvision.LoadBalancer
