import CloudProvision.Codec.Record
import CloudProvision.Remote.LoadBalancer

/-!
# States of load balancers

A load balancer as a user describes it. Nested objects refer to each other by name, and every
attribute may be absent or undecided.
-/

namespace CloudProvision.LoadBalancer

/-- Where a backend sends traffic. -/
structure Target where
  nicId : Attr String
  ipAddress : Attr String
  port : Attr Int
  deriving DecidableEq

/-- Where a load balancer accepts traffic. -/
structure Listener where
  id : Attr String
  name : Attr String
  port : Attr Int
  protocol : Attr String
  /-- The name of the backend that receives the traffic. -/
  backend : Attr String
  certificateId : Attr String
  deriving DecidableEq

/-- A rule of access. -/
structure Acl where
  id : Attr String
  name : Attr String
  action : Attr String
  cidr : Attr String
  priority : Attr Int
  description : Attr String
  deriving DecidableEq

/-- How targets are probed. -/
structure HealthCheck where
  id : Attr String
  name : Attr String
  protocol : Attr String
  port : Attr Int
  path : Attr String
  interval : Attr Int
  timeout : Attr Int
  healthyThreshold : Attr Int
  unhealthyThreshold : Attr Int
  deriving DecidableEq

/-- A group of targets. -/
structure Backend where
  id : Attr String
  name : Attr String
  /-- Whether targets are network cards or addresses. -/
  targetsType : Attr String
  panicThreshold : Attr Binary64
  closeConnections : Attr Bool
  /-- The name of the health check of the targets. -/
  healthCheck : Attr String
  targets : Attr (List Target)
  deriving DecidableEq

/-- A load balancer. -/
structure State where
  id : Attr String
  name : Attr String
  description : Attr String
  address : Attr String
  status : Attr String
  listeners : Attr (List Listener)
  acls : Attr (List Acl)
  healthChecks : Attr (List HealthCheck)
  backends : Attr (List Backend)
  deriving DecidableEq

/-! ### Encoding -/

/-- The codec of targets. -/
def Target.codec : Codec Target :=
  .record "Target" [
    .of "nic_id" (.attr .text) nicId fun v x => { x with nicId := v },
    .of "ip_address" (.attr .text) ipAddress fun v x => { x with ipAddress := v },
    .of "port" (.attr .integer) port fun v x => { x with port := v }]
    ⟨.null, .null, .null⟩

/-- The codec of listeners. -/
def Listener.codec : Codec Listener :=
  .record "Listener" [
    .of "id" (.attr .text) id fun v x => { x with id := v },
    .of "name" (.attr .text) name fun v x => { x with name := v },
    .of "port" (.attr .integer) port fun v x => { x with port := v },
    .of "protocol" (.attr .text) protocol fun v x => { x with protocol := v },
    .of "backend" (.attr .text) backend fun v x => { x with backend := v },
    .of "certificate_id" (.attr .text) certificateId fun v x => { x with certificateId := v }]
    ⟨.null, .null, .null, .null, .null, .null⟩

/-- The codec of ACLs. -/
def Acl.codec : Codec Acl :=
  .record "Acl" [
    .of "id" (.attr .text) id fun v x => { x with id := v },
    .of "name" (.attr .text) name fun v x => { x with name := v },
    .of "action" (.attr .text) action fun v x => { x with action := v },
    .of "cidr" (.attr .text) cidr fun v x => { x with cidr := v },
    .of "priority" (.attr .integer) priority fun v x => { x with priority := v },
    .of "description" (.attr .text) description fun v x => { x with description := v }]
    ⟨.null, .null, .null, .null, .null, .null⟩

/-- The codec of health checks. -/
def HealthCheck.codec : Codec HealthCheck :=
  .record "HealthCheck" [
    .of "id" (.attr .text) id fun v x => { x with id := v },
    .of "name" (.attr .text) name fun v x => { x with name := v },
    .of "protocol" (.attr .text) protocol fun v x => { x with protocol := v },
    .of "port" (.attr .integer) port fun v x => { x with port := v },
    .of "path" (.attr .text) path fun v x => { x with path := v },
    .of "interval" (.attr .integer) interval fun v x => { x with interval := v },
    .of "timeout" (.attr .integer) timeout fun v x => { x with timeout := v },
    .of "healthy_threshold" (.attr .integer) healthyThreshold
      fun v x => { x with healthyThreshold := v },
    .of "unhealthy_threshold" (.attr .integer) unhealthyThreshold
      fun v x => { x with unhealthyThreshold := v }]
    ⟨.null, .null, .null, .null, .null, .null, .null, .null, .null⟩

/-- The codec of backends. -/
def Backend.codec : Codec Backend :=
  .record "Backend" [
    .of "id" (.attr .text) id fun v x => { x with id := v },
    .of "name" (.attr .text) name fun v x => { x with name := v },
    .of "targets_type" (.attr .text) targetsType fun v x => { x with targetsType := v },
    .of "panic_threshold" (.attr .float) panicThreshold fun v x => { x with panicThreshold := v },
    .of "close_connections" (.attr .boolean) closeConnections
      fun v x => { x with closeConnections := v },
    .of "health_check" (.attr .text) healthCheck fun v x => { x with healthCheck := v },
    .of "targets" (.attr (.list Target.codec)) targets fun v x => { x with targets := v }]
    ⟨.null, .null, .null, .null, .null, .null, .null⟩

/-- The codec of load balancers. -/
def State.codec : Codec State :=
  .record "State" [
    .of "id" (.attr .text) id fun v x => { x with id := v },
    .of "name" (.attr .text) name fun v x => { x with name := v },
    .of "description" (.attr .text) description fun v x => { x with description := v },
    .of "address" (.attr .text) address fun v x => { x with address := v },
    .of "status" (.attr .text) status fun v x => { x with status := v },
    .of "listeners" (.attr (.list Listener.codec)) listeners fun v x => { x with listeners := v },
    .of "acls" (.attr (.list Acl.codec)) acls fun v x => { x with acls := v },
    .of "health_checks" (.attr (.list HealthCheck.codec)) healthChecks
      fun v x => { x with healthChecks := v },
    .of "backends" (.attr (.list Backend.codec)) backends fun v x => { x with backends := v }]
    ⟨.null, .null, .null, .null, .null, .null, .null, .null, .null⟩

end CloudProvision.LoadBalancer
