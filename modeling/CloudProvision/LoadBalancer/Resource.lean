import CloudProvision.LoadBalancer.Plan
import CloudProvision.LoadBalancer.Rollout
import CloudProvision.LoadBalancer.Validation
import CloudProvision.Resource

/-!
# The resource of load balancers

A load balancer is created bare and then rolled out to its plan. An update rolls it out from its
prior state. The new state is that of the load balancer after the last change.
-/

namespace CloudProvision.LoadBalancer

open Operation Request

/-- The request for a bare load balancer. -/
def State.createRequest (s : State) : Remote.LoadBalancerCreate where
  name := s.name.text
  description := s.description.nonempty?

variable {σ : Type}

/-- The resource of load balancers. -/
def resource : Resource σ State where
  codec := State.codec
  validate config := do
    errors config.validate
    unlessErrors
  read state := do
    match state.id.nonempty? with
    | none => return none
    | some id =>
      return (← attempt (.getLoadBalancer id) "Could not read load balancer").map .ofRemote
  planCreate proposed := return proposed.planCreate
  planUpdate prior proposed := return (prior.planUpdate proposed, [])
  create planned := do
    let id ← orReport (call (.createLoadBalancer planned.createRequest))
      "Could not create load balancer"
    let created ← orReport (converge id) "Load balancer did not start"
    let configured ← orReport (rollout id planned (.ofRemote created) created)
      "Could not configure load balancer"
    return .ofRemote configured
  update prior planned := do
    let id := prior.id.text
    let current ← orReport (converge id) "Load balancer is not running"
    let updated ← orReport (rollout id planned prior current) "Could not update load balancer"
    return .ofRemote updated
  destroy prior := do
    let id := prior.id.text
    match ← attempt (.deleteLoadBalancer id) "Could not delete load balancer" with
    | none => return ()
    | some _ =>
      awaitDeletion (.getLoadBalancer id) Timeouts.loadBalancers id
        "Load balancer was not deleted"
  adopt id := do
    return .ofRemote (← orReport (call (.getLoadBalancer id)) "Could not import load balancer")

end CloudProvision.LoadBalancer
