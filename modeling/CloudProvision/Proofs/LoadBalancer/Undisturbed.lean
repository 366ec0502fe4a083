import CloudProvision.Proofs.LoadBalancer.Simulation
import CloudProvision.Proofs.Polling.Convergence

/-!
# Rollouts that nothing disturbs

A cloud in memory whose calls do not fail makes every change that can be made of a running load
balancer, which runs again when it is read for the second time. So a rollout that is not cancelled,
and whose waits have any time at all, makes all its steps if they can be performed one after the
other.

## Main definitions

* `Obliging`: an environment in which operations come to their end.
* `AtRest`: a session in which the load balancer runs and no call is going to fail.

## Main results

* `Obliging.converge_ok`: a load balancer that is on its way is found running.
* `Obliging.advances`: a step that can be performed is made.
* `Obliging.runSteps_ok`: steps that can be performed are made.
-/

namespace CloudProvision

open Remote

/-- Without faults a call is served at once. -/
theorem Faulty.api_of_served {c : Call} {now : Nat} {s : Faulty MemoryCloud} {x : c.Answer}
    {next : MemoryCloud} (calm : s.faults = .empty)
    (served : MemoryCloud.serve c s.cloud = .ok (x, next)) :
    Faulty.api MemoryCloud.api c now s = ⟨0, .ok x, .of next, .of s.cloud⟩ := by
  have faultless : Faulty.take c.name s.faults = (.none, .empty) := by
    rw [calm]
    rfl
  have reply : MemoryCloud.api c (now + 0) s.cloud = ⟨0, .ok x, next, s.cloud⟩ := by
    rw [MemoryCloud.api, StateT.run, served]
  rw [Faulty.api, faultless]
  dsimp only [Fault.none]
  rw [reply]
  rfl

namespace LoadBalancer

open Operation

variable {env : Environment (Faulty MemoryCloud)} {session : Session (Faulty MemoryCloud)}
  {id : String} {step : Step} {steps : List Step} {x y : Stage}

/-- An environment in which operations on load balancers come to their end: the cloud is in memory,
nothing is cancelled, and waits have some time. -/
structure Obliging (env : Environment (Faulty MemoryCloud)) : Prop where
  memory : env.api = Faulty.api MemoryCloud.api
  uncancelled : env.cancelAt = none
  patient : 0 < env.settings.timeouts.loadBalancers

/-- No call is going to fail, and the load balancer with the identifier runs. -/
structure AtRest (session : Session (Faulty MemoryCloud)) (id : String) (x : Stage) : Prop where
  calm : session.cloud.faults = .empty
  entry : session.cloud.cloud.loadBalancers.get? id = some ⟨x.1, []⟩
  runs : x.1.status = "running"
  issued : session.cloud.cloud.issued = x.2

namespace Obliging

variable (obliging : Obliging env)

include obliging

/-- A load balancer that is on its way is found running. -/
theorem converge_ok {object : Remote.LoadBalancer} (calm : session.cloud.faults = .empty)
    (entry : session.cloud.cloud.loadBalancers.get? id = some ⟨object, [.status "running"]⟩)
    (pending : object.status ≠ "running")
    (unfailed : Lifecycle.ofLoadBalancers.isError object.status = false) :
    ∃ after, converge id env session = (.ok (MemoryCloud.running object), after) ∧
      AtRest after id (MemoryCloud.running object, session.cloud.cloud.issued) := by
  let goal := env.settings.goal env.settings.timeouts.loadBalancers id "running"
  let running : Entry Remote.LoadBalancer := ⟨MemoryCloud.running object, []⟩
  let between := MemoryCloud.withEntry id running session.cloud.cloud
  let final := MemoryCloud.withEntry id running between
  have there : between.loadBalancers.get? id = some running := StringMap.get?_insert_self _ _ _
  -- The first fetch finds it on its way, and from then on it is found running.
  have first (t : Nat) : fetch env.api (.getLoadBalancer id) t session.cloud =
      ⟨some 0, .ok object, .of between, .of session.cloud.cloud⟩ := by
    have served : MemoryCloud.serve (.getLoadBalancer id) session.cloud.cloud =
        .ok (object, between) := by
      rw [MemoryCloud.serve_getLoadBalancer, entry]
      rfl
    rw [fetch, obliging.memory, Faulty.api_of_served calm served]
  have second (t : Nat) : fetch env.api (.getLoadBalancer id) t (.of between) =
      ⟨some 0, .ok running.object, .of final, .of between⟩ := by
    have served :
        MemoryCloud.serve (.getLoadBalancer id) between = .ok (running.object, final) := by
      rw [MemoryCloud.serve_getLoadBalancer, there]
      rfl
    rw [fetch, obliging.memory, Faulty.api_of_served rfl served]
    rfl
  obtain ⟨result, state⟩ := @Polling.run_of_second _ _ _ goal
    (fetch env.api (.getLoadBalancer id)) session.cloud session.now (.of final)
    (.ok (MemoryCloud.running object)) (Nat.mul_pos obliging.patient (by decide))
    (by rw [first])
    (by
      rw [first]
      exact Polling.verdict_eq_none_iff.2 ⟨object, rfl, pending, unfailed⟩)
    (fun t => by
      rw [first, second]
      exact ⟨rfl, rfl, rfl⟩)
  refine ⟨_, Prod.ext ?_ rfl, ?_⟩
  · simp only [converge, await, obliging.uncancelled]
    exact result
  · have cloud : (converge id env session).2.cloud = .of final := by
      simp only [converge, await, obliging.uncancelled]
      exact state
    constructor
    · rw [cloud]
      rfl
    · rw [cloud]
      exact StringMap.get?_insert_self _ _ _
    · rfl
    · rw [cloud]
      rfl

/-- A step that can be performed is made. -/
theorem advances (rest : AtRest session id x) (h : Performs step x y) :
    ∃ after, Advances env id step (x.1, session) (y.1, after) ∧ AtRest after id y := by
  obtain ⟨change, resolved, applied⟩ := h
  let updating : Entry Remote.LoadBalancer := .changing y.1 "updating" (.status "running")
  let changed := MemoryCloud.withEntry id updating { session.cloud.cloud with issued := y.2 }
  have served : MemoryCloud.serve (.changeLoadBalancer id change) session.cloud.cloud =
      .ok ((), changed) := by
    rw [MemoryCloud.serve_changeLoadBalancer, rest.entry]
    dsimp only
    rw [if_pos rest.runs, rest.issued, applied]
  let there : Session (Faulty MemoryCloud) := (call (.changeLoadBalancer id change) env session).2
  have called : call (.changeLoadBalancer id change) env session = (.ok (), there) := by
    refine Prod.ext ?_ rfl
    simp only [call, obliging.memory, Faulty.api_of_served rest.calm served]
  have cloud : there.cloud = .of changed := by
    simp only [there, call, obliging.memory, Faulty.api_of_served rest.calm served]
  have runs : y.1.status = "running" :=
    (Remote.applied_of_apply applied).status_eq.2.trans rest.runs
  have same : MemoryCloud.running updating.object = y.1 := by
    rw [← show MemoryCloud.running y.1 = y.1 by rw [MemoryCloud.running, ← runs]]
    rfl
  have status : updating.object.status = "updating" := rfl
  obtain ⟨after, converged, atRest⟩ := @converge_ok env there id obliging updating.object
    (by rw [cloud]; rfl) (by rw [cloud]; exact StringMap.get?_insert_self _ _ _)
    (by rw [status]; decide) (by rw [status]; decide)
  rw [same] at converged atRest
  refine ⟨after, ⟨change, (), there, resolved, called, converged⟩, ?_⟩
  rw [cloud] at atRest
  exact atRest

/-- Steps that can be performed one after the other are made. -/
theorem runSteps_ok (h : Performed steps x y) (rest : AtRest session id x) :
    ∃ after, runSteps id steps x.1 env session = (.ok y.1, after) ∧ AtRest after id y := by
  induction h generalizing session with
  | nil => exact ⟨session, rfl, rest⟩
  | cons first _ ih =>
      obtain ⟨between, made, rest⟩ := obliging.advances rest first
      obtain ⟨after, run, rest⟩ := ih rest
      exact ⟨after, made.runSteps_cons.trans run, rest⟩

end Obliging

end LoadBalancer

end CloudProvision
