import CloudProvision.Codec.Record
import CloudProvision.Remote.Call

/-!
# The JSON of the cloud API

Remote objects and requests as the API writes them: every field is present, and one without a value
is null. In reading nothing is an error: a field that is missing, or does not hold what it should,
is blank.
-/

namespace CloudProvision.Remote

namespace Encoding

variable {α : Type}

/-- A codec that reads what does not fit as `blank`. -/
def lenient (codec : Codec α) (blank : α) : Codec α where
  decode json := match codec.decode json with
    | .ok x => .ok x
    | .error _ => .ok blank
  encode := codec.encode

/-- Texts. -/
def text : Codec String := lenient .text ""

/-- Integers. -/
def integer : Codec Int := lenient .integer 0

/-- Truth values. -/
def boolean : Codec Bool := lenient .boolean false

/-- Lists. -/
def list (codec : Codec α) : Codec (List α) := lenient (.list codec) []

/-- Values that may be absent. -/
def optional (codec : Codec α) : Codec (Option α) where
  decode json := match codec.decode json with
    | .ok x => .ok (some x)
    | .error _ => .ok none
  encode x := (x.map codec.encode).getD .null

/-- Maps of texts. -/
def textMap : Codec (StringMap String) := lenient (.map text) .empty

/-- Objects with these fields. -/
def object [Inhabited α] (fields : List (Field α)) : Codec α :=
  let record : Codec α := .record "" fields default
  { decode := fun
      | .object members => record.decode (.object members)
      | _ => .ok default
    encode := record.encode }

/-- An object without its identifier. -/
def withoutId : Json → Json
  | .object members => .object (members.filter (·.1 != "id"))
  | json => json

/-- A text or null. -/
def textOrNull : Option String → Json :=
  (optional .text).encode

end Encoding

open Encoding

/-! ### Objects -/

/-- The codec of volumes. -/
def Volume.codec : Codec Volume := object [
  .of "id" text id fun v x => { x with id := v },
  .of "name" (optional .text) name fun v x => { x with name := v },
  .of "size_gib" integer sizeGib fun v x => { x with sizeGib := v },
  .of "volume_type" (optional .text) volumeType fun v x => { x with volumeType := v },
  .of "availability_zone" (optional .text) availabilityZone
    fun v x => { x with availabilityZone := v },
  .of "snapshot_id" (optional .text) snapshotId fun v x => { x with snapshotId := v },
  .of "status" text status fun v x => { x with status := v },
  .of "error_message" (optional .text) errorMessage fun v x => { x with errorMessage := v }]

/-- The codec of snapshots. -/
def Snapshot.codec : Codec Snapshot := object [
  .of "id" text id fun v x => { x with id := v },
  .of "volume_id" text volumeId fun v x => { x with volumeId := v },
  .of "description" (optional .text) description fun v x => { x with description := v },
  .of "size_gib" (optional .integer) sizeGib fun v x => { x with sizeGib := v },
  .of "status" text status fun v x => { x with status := v },
  .of "error_message" (optional .text) errorMessage fun v x => { x with errorMessage := v }]

/-- The codec of instances. -/
def Instance.codec : Codec Instance := object [
  .of "id" text id fun v x => { x with id := v },
  .of "name" text name fun v x => { x with name := v },
  .of "image_id" text imageId fun v x => { x with imageId := v },
  .of "instance_type" text instanceType fun v x => { x with instanceType := v },
  .of "subnet_id" (optional .text) subnetId fun v x => { x with subnetId := v },
  .of "private_ip" (optional .text) privateIp fun v x => { x with privateIp := v },
  .of "tags" textMap tags fun v x => { x with tags := v },
  .of "status" text status fun v x => { x with status := v },
  .of "error_message" (optional .text) errorMessage fun v x => { x with errorMessage := v }]

/-- The codec of registries. -/
def Registry.codec : Codec Registry := object [
  .of "id" text id fun v x => { x with id := v },
  .of "name" text name fun v x => { x with name := v },
  .of "public" boolean isPublic fun v x => { x with isPublic := v },
  .of "endpoint" (optional .text) endpoint fun v x => { x with endpoint := v }]

/-- The codec of listeners. -/
def Listener.codec : Codec Listener := object [
  .of "id" text id fun v x => { x with id := v },
  .of "name" (optional .text) name fun v x => { x with name := v },
  .of "port" integer port fun v x => { x with port := v },
  .of "protocol" text protocol fun v x => { x with protocol := v },
  .of "backend_id" text backendId fun v x => { x with backendId := v },
  .of "certificate_id" (optional .text) certificateId fun v x => { x with certificateId := v }]

/-- The codec of ACLs. -/
def Acl.codec : Codec Acl := object [
  .of "id" text id fun v x => { x with id := v },
  .of "name" text name fun v x => { x with name := v },
  .of "action" text action fun v x => { x with action := v },
  .of "cidr" text cidr fun v x => { x with cidr := v },
  .of "priority" integer priority fun v x => { x with priority := v },
  .of "description" (optional .text) description fun v x => { x with description := v }]

/-- The codec of health checks. -/
def HealthCheck.codec : Codec HealthCheck := object [
  .of "id" text id fun v x => { x with id := v },
  .of "name" text name fun v x => { x with name := v },
  .of "protocol" text protocol fun v x => { x with protocol := v },
  .of "port" integer port fun v x => { x with port := v },
  .of "path" (optional .text) path fun v x => { x with path := v },
  .of "interval" integer interval fun v x => { x with interval := v },
  .of "timeout" integer timeout fun v x => { x with timeout := v },
  .of "healthy_threshold" integer healthyThreshold fun v x => { x with healthyThreshold := v },
  .of "unhealthy_threshold" integer unhealthyThreshold
    fun v x => { x with unhealthyThreshold := v }]

/-- The codec of targets. -/
def Target.codec : Codec Target := object [
  .of "nic_id" (optional .text) nicId fun v x => { x with nicId := v },
  .of "ip_address" (optional .text) ipAddress fun v x => { x with ipAddress := v },
  .of "port" integer port fun v x => { x with port := v }]

/-- The codec of backends. -/
def Backend.codec : Codec Backend := object [
  .of "id" text id fun v x => { x with id := v },
  .of "name" text name fun v x => { x with name := v },
  .of "targets_type" text targetsType fun v x => { x with targetsType := v },
  .of "panic_threshold" (optional .float) panicThreshold
    fun v x => { x with panicThreshold := v },
  .of "close_connections" boolean closeConnections fun v x => { x with closeConnections := v },
  .of "health_check_id" (optional .text) healthCheckId fun v x => { x with healthCheckId := v },
  .of "targets" (list Target.codec) targets fun v x => { x with targets := v }]

/-- The codec of load balancers. -/
def LoadBalancer.codec : Codec LoadBalancer := object [
  .of "id" text id fun v x => { x with id := v },
  .of "name" text name fun v x => { x with name := v },
  .of "description" (optional .text) description fun v x => { x with description := v },
  .of "address" (optional .text) address fun v x => { x with address := v },
  .of "status" text status fun v x => { x with status := v },
  .of "error_message" (optional .text) errorMessage fun v x => { x with errorMessage := v },
  .of "listeners" (list Listener.codec) listeners fun v x => { x with listeners := v },
  .of "acls" (list Acl.codec) acls fun v x => { x with acls := v },
  .of "health_checks" (list HealthCheck.codec) healthChecks fun v x => { x with healthChecks := v },
  .of "backends" (list Backend.codec) backends fun v x => { x with backends := v }]

/-! ### Requests -/

/-- The fields of a listener. -/
def ListenerSpec.encode (r : ListenerSpec) : Json :=
  withoutId (Listener.codec.encode (r.withId ""))

/-- The fields of an ACL. -/
def AclSpec.encode (r : AclSpec) : Json :=
  withoutId (Acl.codec.encode (r.withId ""))

/-- The fields of a health check. -/
def HealthCheckSpec.encode (r : HealthCheckSpec) : Json :=
  withoutId (HealthCheck.codec.encode (r.withId ""))

/-- The fields of a backend. -/
def BackendSpec.encode (r : BackendSpec) : Json :=
  withoutId (Backend.codec.encode (r.withId ""))

/-- The fields of a backend that can be updated. -/
def BackendUpdate.encode (r : BackendUpdate) : Json := .object [
  ("name", .text r.name),
  ("panic_threshold", (optional .float).encode r.panicThreshold),
  ("close_connections", .bool r.closeConnections),
  ("health_check_id", textOrNull r.healthCheckId)]

/-- The arguments of a change. -/
def Change.arguments : Change → List Json
  | update r =>
    [.object [("name", textOrNull r.name), ("description", textOrNull r.description)]]
  | createHealthCheck r => [r.encode]
  | updateHealthCheck id r => [.text id, r.encode]
  | deleteHealthCheck id => [.text id]
  | createBackend r => [r.encode]
  | updateBackend id r => [.text id, r.encode]
  | deleteBackend id => [.text id]
  | replaceTargets id targets => [.text id, (list Target.codec).encode targets]
  | updateAcl id r => [.text id, r.encode]
  | replaceAcls acls => [.array (acls.map AclSpec.encode)]
  | replaceListeners listeners => [.array (listeners.map ListenerSpec.encode)]

/-- The arguments of a call. -/
def Call.arguments : Call → List Json
  | getVolume id | deleteVolume id | getSnapshot id | deleteSnapshot id | getInstance id
  | deleteInstance id | getRegistry id | deleteRegistry id | getLoadBalancer id
  | deleteLoadBalancer id => [.text id]
  | listVolumes r => [.integer r.pageSize, textOrNull r.token]
  | createVolume r => [.object [
      ("name", textOrNull r.name), ("size_gib", .integer r.sizeGib),
      ("volume_type", textOrNull r.volumeType),
      ("availability_zone", .text r.availabilityZone),
      ("snapshot_id", textOrNull r.snapshotId)]]
  | updateVolume id r => [.text id, .object [
      ("name", textOrNull r.name), ("size_gib", (optional .integer).encode r.sizeGib)]]
  | createSnapshot r => [.object [
      ("volume_id", .text r.volumeId), ("description", textOrNull r.description)]]
  | createInstance r => [.object [
      ("name", .text r.name), ("image_id", .text r.imageId),
      ("instance_type", .text r.instanceType), ("subnet_id", textOrNull r.subnetId),
      ("tags", textMap.encode r.tags)]]
  | updateInstance id r => [.text id, .object [
      ("name", textOrNull r.name), ("instance_type", textOrNull r.instanceType),
      ("tags", (optional textMap).encode r.tags)]]
  | createRegistry r => [.object [("name", .text r.name), ("public", .bool r.isPublic)]]
  | updateRegistry id isPublic => [.text id, .bool isPublic]
  | createLoadBalancer r => [.object [
      ("name", .text r.name), ("description", textOrNull r.description)]]
  | changeLoadBalancer id change => .text id :: change.arguments

end CloudProvision.Remote
