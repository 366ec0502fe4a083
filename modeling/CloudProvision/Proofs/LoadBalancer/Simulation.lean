import CloudProvision.Proofs.LoadBalancer.Rollout
import CloudProvision.Proofs.LoadBalancer.Step
import CloudProvision.Proofs.MemoryCloud

/-!
# Rollouts in a cloud in memory

In a cloud in memory that nobody else changes, a rollout does to the load balancer what its steps do
one after the other. `Performed` leaves out the calls, the waits and the clock, so that statements
on rollouts become statements on lists of steps.

## Main results

* `performed_of_runSteps`: a rollout that succeeds performs its steps.
* `performed_of_reaches`: a step that is reached finds what the steps before it have performed.
* `Performed.invariant` and `Performed.eventually`: what all steps keep, and what one of them
  brings about and the others keep.
-/

namespace CloudProvision.LoadBalancer

open Operation

/-- A load balancer with the number of identifiers that its cloud has issued. -/
abbrev Stage := Remote.LoadBalancer × Nat

/-- A step turns a load balancer into another one. -/
def Performs (step : Step) (before after : Stage) : Prop :=
  ∃ change, step.resolve before.1 = .ok change ∧
    change.apply before.1 before.2 = .ok (after.1, after.2)

/-- Steps turn a load balancer into another one, one after the other. -/
inductive Performed : List Step → Stage → Stage → Prop
  | nil {x : Stage} : Performed [] x x
  | cons {step : Step} {rest : List Step} {x y z : Stage} :
      Performs step x y → Performed rest y z → Performed (step :: rest) x z

/-- The change of a step that is performed, and its effect. -/
theorem Performs.applied {step : Step} {x y : Stage} (h : Performs step x y) :
    ∃ change, Resolved x.1 step change ∧ Remote.Applied x.1 x.2 change y.1 y.2 := by
  obtain ⟨change, resolved, applied⟩ := h
  exact ⟨change, resolved_of_resolve resolved, Remote.applied_of_apply applied⟩

/-- A step whose change is accepted is performed. -/
theorem performs_of_applied {step : Step} {x : Stage} {change : Remote.Change}
    {lb : Remote.LoadBalancer} {issued : Nat} (resolved : step.resolve x.1 = .ok change)
    (applied : Remote.Applied x.1 x.2 change lb issued) : Performs step x (lb, issued) :=
  ⟨change, resolved, Remote.apply_of_applied applied⟩

/-- Steps are performed as their two halves are, one after the other. -/
theorem Performed.append {before after : List Step} {x y z : Stage} (h : Performed before x y)
    (later : Performed after y z) : Performed (before ++ after) x z := by
  induction h with
  | nil => exact later
  | cons first _ ih => exact .cons first (ih later)

/-! ### What steps keep and bring about -/

namespace Performed

variable {steps : List Step} {step : Step} {x z : Stage} {I Q : Stage → Prop}

/-- What every step keeps, all of them keep. -/
theorem invariant (h : Performed steps x z)
    (kept : ∀ s ∈ steps, ∀ u v, I u → Performs s u v → I v) (start : I x) : I z := by
  induction h with
  | nil => exact start
  | cons first _ ih =>
      exact ih (fun s hs => kept s (List.mem_cons_of_mem _ hs))
        (kept _ List.mem_cons_self _ _ start first)

/-- What one of the steps brings about holds in the end, if all of them keep it. -/
theorem eventually (h : Performed steps x z) (mem : step ∈ steps)
    (invariant : ∀ s ∈ steps, ∀ u v, I u → Performs s u v → I v) (start : I x)
    (made : ∀ u v, I u → Performs step u v → Q v)
    (kept : ∀ s ∈ steps, ∀ u v, I u → Q u → Performs s u v → Q v) : Q z := by
  induction h with
  | nil => cases mem
  | cons first rest ih =>
      have after := invariant _ List.mem_cons_self _ _ start first
      have invariant' := fun s hs => invariant s (List.mem_cons_of_mem _ hs)
      have kept' := fun s hs => kept s (List.mem_cons_of_mem _ hs)
      rcases List.mem_cons.1 mem with rfl | mem
      · refine (rest.invariant (I := fun u => I u ∧ Q u) (fun s hs u v hu hv => ?_)
          ⟨after, made _ _ start first⟩).2
        exact ⟨invariant' s hs u v hu.1 hv, kept' s hs u v hu.1 hu.2 hv⟩
      · exact ih mem invariant' after kept'

end Performed

/-! ### Rollouts -/

variable {env : Environment (Faulty MemoryCloud)} {id : String} {steps : List Step} {step : Step}
  {current : Remote.LoadBalancer} {issued : Nat} {session : Session (Faulty MemoryCloud)}
  {next : Remote.LoadBalancer × Session (Faulty MemoryCloud)}

/-- A step that is made is performed. -/
theorem Advances.performs (memory : env.api = Faulty.api MemoryCloud.api)
    (holds : session.cloud.cloud.Holds id current issued)
    (made : Advances env id step (current, session) next) :
    ∃ issued', Performs step (current, issued) (next.1, issued') ∧
      next.2.cloud.cloud.Holds id next.1 issued' := by
  obtain ⟨change, done, there, resolved, called, converged⟩ := made
  rcases Faulty.change_holds memory holds called with
    ⟨e, failed, -⟩ | ⟨changed, issued', -, applied, holds⟩
  · cases failed
  · obtain ⟨holds, same⟩ := Faulty.converge_holds memory holds converged
    obtain rfl := same _ rfl
    exact ⟨issued', ⟨change, resolved, applied⟩, holds⟩

/-- A rollout that succeeds performs its steps. -/
theorem performed_of_runSteps (memory : env.api = Faulty.api MemoryCloud.api)
    (holds : session.cloud.cloud.Holds id current issued)
    (run : runSteps id steps current env session = (.ok next.1, next.2)) :
    ∃ issued', Performed steps (current, issued) (next.1, issued') ∧
      next.2.cloud.cloud.Holds id next.1 issued' := by
  induction steps generalizing current session issued with
  | nil =>
      obtain ⟨found, same⟩ := Prod.mk.inj run
      obtain rfl := Except.ok.inj found
      exact ⟨issued, .nil, same ▸ holds⟩
  | cons step rest ih =>
      rcases advances_or_fails env id step (current, session) with ⟨there, made⟩ | ⟨e, after, ends⟩
      · rw [made.runSteps_cons] at run
        obtain ⟨between, first, holds⟩ := made.performs memory holds
        obtain ⟨issued', later, holds⟩ := ih holds run
        exact ⟨issued', .cons first later, holds⟩
      · rw [ends.runSteps_cons] at run
        cases (Prod.mk.inj run).1

/-- A step that is reached finds what the steps before it have performed. -/
theorem performed_of_reaches (memory : env.api = Faulty.api MemoryCloud.api)
    (holds : session.cloud.cloud.Holds id current issued)
    (reached : Reaches env id steps (current, session) step next) :
    ∃ done rest issued', steps = done ++ step :: rest ∧
      Performed done (current, issued) (next.1, issued') ∧
      next.2.cloud.cloud.Holds id next.1 issued' := by
  obtain ⟨done, rest, eq, run⟩ := reached
  obtain ⟨issued', performed, holds⟩ := performed_of_runSteps memory holds run
  exact ⟨done, rest, issued', eq, performed, holds⟩

end CloudProvision.LoadBalancer
