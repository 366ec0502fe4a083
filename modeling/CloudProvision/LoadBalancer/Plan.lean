import CloudProvision.LoadBalancer.Difference
import CloudProvision.LoadBalancer.Mapping

/-!
# Plans of load balancers

The state that a load balancer will have: defaults are filled in, and what the cloud decides is
undecided, unless it is carried over from the entry of the prior state that an entry corresponds to.
-/

namespace CloudProvision.LoadBalancer

/-- The identifier of the entry that `entry` corresponds to, undecided if there is none. -/
def carriedId {α : Type} [Identified α] (index : IdentityIndex α) (entry : α) : Attr String :=
  match (index.find? entry).map Identified.id with
  | some id => if id.isPresent then id else .unknown
  | none => .unknown

/-- The planned entries with the identifiers of the entries that they correspond to. -/
def carryIds {α : Type} [Identified α] (setId : α → Attr String → α) (plan prior : Attr (List α)) :
    Attr (List α) :=
  let index := IdentityIndex.ofList prior.entries
  plan.map (·.map fun entry => setId entry (carriedId index entry))

/-- The load balancer with the identifiers of the entries that its own correspond to. -/
def State.carryIds (plan prior : State) : State :=
  { plan with
    listeners := LoadBalancer.carryIds (fun l id => { l with id }) plan.listeners prior.listeners
    acls := LoadBalancer.carryIds (fun a id => { a with id }) plan.acls prior.acls
    healthChecks :=
      LoadBalancer.carryIds (fun h id => { h with id }) plan.healthChecks prior.healthChecks
    backends := LoadBalancer.carryIds (fun b id => { b with id }) plan.backends prior.backends }

/-- A backend that will be created again gets a new identifier. -/
def Backend.renew (prior : IdentityIndex Backend) (b : Backend) : Backend :=
  if (prior.find? b).any b.targetsTypeChanged then { b with id := .unknown } else b

/-- A state without anything in it. -/
def State.blank : State :=
  ⟨.null, .null, .null, .null, .null, .null, .null, .null, .null⟩

/-- The plan of a new load balancer. -/
def State.planCreate (proposed : State) : State :=
  let plan := proposed.withDefaults.carryIds .blank
  { plan with id := .unknown, address := .unknown, status := .unknown }

/-- The plan of a change. -/
def State.planUpdate (prior proposed : State) : State :=
  let plan := proposed.withDefaults.carryIds prior
  let index := IdentityIndex.ofList prior.backends.entries
  { plan with
    id := prior.id
    address := prior.address
    status := prior.status
    backends := plan.backends.map (·.map (Backend.renew index)) }

end CloudProvision.LoadBalancer
