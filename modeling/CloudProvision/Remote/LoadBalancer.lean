import CloudProvision.Number.Binary64
import CloudProvision.Remote.Lifecycle

/-!
# Remote load balancers

A load balancer and the objects nested in it, and the changes that the API accepts on a running
one. Nested objects refer to each other by identifier.
-/

namespace CloudProvision.Remote

/-- Where a load balancer accepts traffic. -/
structure Listener where
  id : String
  name : Option String
  port : Int
  protocol : String
  backendId : String
  certificateId : Option String
  deriving DecidableEq, Inhabited

/-- A rule of access. -/
structure Acl where
  id : String
  name : String
  action : String
  cidr : String
  priority : Int
  description : Option String
  deriving DecidableEq, Inhabited

/-- How a backend's targets are probed. -/
structure HealthCheck where
  id : String
  name : String
  protocol : String
  port : Int
  path : Option String
  interval : Int
  timeout : Int
  healthyThreshold : Int
  unhealthyThreshold : Int
  deriving DecidableEq, Inhabited

/-- Where a backend sends traffic. -/
structure Target where
  nicId : Option String
  ipAddress : Option String
  port : Int
  deriving DecidableEq, Inhabited

/-- A group of targets. Its type says whether they are network cards or addresses. -/
structure Backend where
  id : String
  name : String
  targetsType : String
  panicThreshold : Option Binary64
  closeConnections : Bool
  healthCheckId : Option String
  targets : List Target
  deriving DecidableEq, Inhabited

/-- A load balancer. -/
structure LoadBalancer where
  id : String
  name : String
  description : Option String
  address : Option String
  status : String
  errorMessage : Option String
  listeners : List Listener
  acls : List Acl
  healthChecks : List HealthCheck
  backends : List Backend
  deriving DecidableEq, Inhabited

instance : Polled LoadBalancer := ⟨.ofLoadBalancers, LoadBalancer.status, LoadBalancer.errorMessage⟩

/-! ### Requests -/

/-- Request for a load balancer. -/
structure LoadBalancerCreate where
  name : String
  description : Option String
  deriving DecidableEq

/-- Update of a load balancer's own fields. -/
structure LoadBalancerUpdate where
  name : Option String
  description : Option String
  deriving DecidableEq

/-- The fields of a health check. -/
structure HealthCheckSpec where
  name : String
  protocol : String
  port : Int
  path : Option String
  interval : Int
  timeout : Int
  healthyThreshold : Int
  unhealthyThreshold : Int
  deriving DecidableEq

/-- The fields of a new backend. -/
structure BackendSpec where
  name : String
  targetsType : String
  panicThreshold : Option Binary64
  closeConnections : Bool
  healthCheckId : Option String
  targets : List Target
  deriving DecidableEq

/-- The fields of a backend that can be updated. Targets are replaced on their own. -/
structure BackendUpdate where
  name : String
  panicThreshold : Option Binary64
  closeConnections : Bool
  healthCheckId : Option String
  deriving DecidableEq

/-- The fields of an ACL. -/
structure AclSpec where
  name : String
  action : String
  cidr : String
  priority : Int
  description : Option String
  deriving DecidableEq

/-- The fields of a listener. -/
structure ListenerSpec where
  name : Option String
  port : Int
  protocol : String
  backendId : String
  certificateId : Option String
  deriving DecidableEq

/-! ### Objects of requests -/

/-- The health check of a request. -/
def HealthCheckSpec.withId (request : HealthCheckSpec) (id : String) : HealthCheck where
  id := id
  name := request.name
  protocol := request.protocol
  port := request.port
  path := request.path
  interval := request.interval
  timeout := request.timeout
  healthyThreshold := request.healthyThreshold
  unhealthyThreshold := request.unhealthyThreshold

/-- The backend of a request. -/
def BackendSpec.withId (request : BackendSpec) (id : String) : Backend where
  id := id
  name := request.name
  targetsType := request.targetsType
  panicThreshold := request.panicThreshold
  closeConnections := request.closeConnections
  healthCheckId := request.healthCheckId
  targets := request.targets

/-- A backend with the fields of a request. -/
def BackendUpdate.applyTo (request : BackendUpdate) (b : Backend) : Backend :=
  { b with
    name := request.name
    panicThreshold := request.panicThreshold
    closeConnections := request.closeConnections
    healthCheckId := request.healthCheckId }

/-- The ACL of a request. -/
def AclSpec.withId (request : AclSpec) (id : String) : Acl where
  id := id
  name := request.name
  action := request.action
  cidr := request.cidr
  priority := request.priority
  description := request.description

/-- The listener of a request. -/
def ListenerSpec.withId (request : ListenerSpec) (id : String) : Listener where
  id := id
  name := request.name
  port := request.port
  protocol := request.protocol
  backendId := request.backendId
  certificateId := request.certificateId

/-! ### Changes -/

/-- A change of a running load balancer. Once it is accepted, the load balancer is updating until it
runs again. -/
inductive Change where
  | update (request : LoadBalancerUpdate)
  | createHealthCheck (request : HealthCheckSpec)
  | updateHealthCheck (id : String) (request : HealthCheckSpec)
  | deleteHealthCheck (id : String)
  | createBackend (request : BackendSpec)
  | updateBackend (id : String) (request : BackendUpdate)
  | deleteBackend (id : String)
  | replaceTargets (backendId : String) (targets : List Target)
  | updateAcl (id : String) (request : AclSpec)
  | replaceAcls (acls : List AclSpec)
  | replaceListeners (listeners : List ListenerSpec)
  deriving DecidableEq

end CloudProvision.Remote
