import CloudProvision.LoadBalancer.Step
import CloudProvision.Operation

/-!
# Rolling out a change

A load balancer accepts a change only while it runs, so `rollout` waits for it before the first step
and after every step. Each step is resolved against the load balancer as it was last fetched. The
first failure ends the rollout; what was done before stays.
-/

namespace CloudProvision.LoadBalancer

open Operation

/-- Why a rollout failed. -/
inductive RolloutError where
  | api (error : Remote.ApiError)
  | wait (error : WaitError)
  | reference (error : ReferenceError)
  deriving DecidableEq

/-- The text of an error. -/
def RolloutError.message : RolloutError → String
  | api error => error.message
  | wait error => error.message
  | reference error => error.message

instance : ToString RolloutError := ⟨RolloutError.message⟩

variable {σ : Type}

/-- Wait for the load balancer to run. -/
def converge (id : String) : Operation σ (Except WaitError Remote.LoadBalancer) :=
  await (.getLoadBalancer id) Timeouts.loadBalancers id "running"

/-- Make the changes of the steps, and return the load balancer after the last of them. -/
def runSteps (id : String) :
    List Step → Remote.LoadBalancer → Operation σ (Except RolloutError Remote.LoadBalancer)
  | [], current => return .ok current
  | step :: rest, current => do
    match step.resolve current with
    | .error e => return .error (.reference e)
    | .ok change =>
      match ← call (.changeLoadBalancer id change) with
      | .error e => return .error (.api e)
      | .ok _ =>
        match ← converge id with
        | .error e => return .error (.wait e)
        | .ok current => runSteps id rest current

/-- Change a running load balancer from `state` to `plan`, and return it as it is then. -/
def rollout (id : String) (plan state : State) (current : Remote.LoadBalancer) :
    Operation σ (Except RolloutError Remote.LoadBalancer) :=
  runSteps id ((Difference.between plan state).steps plan) current

end CloudProvision.LoadBalancer
