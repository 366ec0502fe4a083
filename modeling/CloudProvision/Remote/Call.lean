import CloudProvision.Remote.Error
import CloudProvision.Remote.LoadBalancer
import CloudProvision.Remote.Objects
import CloudProvision.Remote.Pages

/-!
# Calls of the cloud API

`Call` lists the calls and `Call.Answer` what each of them returns. An `Api` is any behaviour that
answers them: every answer takes some time, and a caller may leave before it comes.
-/

namespace CloudProvision.Remote

/-- A call. -/
inductive Call where
  | getVolume (id : String)
  | listVolumes (request : PageRequest)
  | createVolume (request : VolumeCreate)
  | updateVolume (id : String) (request : VolumeUpdate)
  | deleteVolume (id : String)
  | getSnapshot (id : String)
  | createSnapshot (request : SnapshotCreate)
  | deleteSnapshot (id : String)
  | getInstance (id : String)
  | createInstance (request : InstanceCreate)
  | updateInstance (id : String) (request : InstanceUpdate)
  | deleteInstance (id : String)
  | getRegistry (id : String)
  | createRegistry (request : RegistryCreate)
  | updateRegistry (id : String) (isPublic : Bool)
  | deleteRegistry (id : String)
  | getLoadBalancer (id : String)
  | createLoadBalancer (request : LoadBalancerCreate)
  | deleteLoadBalancer (id : String)
  | changeLoadBalancer (id : String) (change : Change)
  deriving DecidableEq

namespace Call

/-- What a call returns. Creations of objects that take time return an identifier. -/
@[reducible] def Answer : Call → Type
  | getVolume _ => Volume
  | listVolumes _ => Page Volume
  | createVolume _ => String
  | getSnapshot _ => Snapshot
  | createSnapshot _ => String
  | getInstance _ => Instance
  | createInstance _ => String
  | getRegistry _ => Registry
  | createRegistry _ => Registry
  | updateRegistry _ _ => Registry
  | getLoadBalancer _ => LoadBalancer
  | createLoadBalancer _ => String
  | _ => Unit

/-- The name of the call of a change. -/
def changeName : Change → String
  | .update _ => "update_load_balancer"
  | .createHealthCheck _ => "create_health_check"
  | .updateHealthCheck _ _ => "update_health_check"
  | .deleteHealthCheck _ => "delete_health_check"
  | .createBackend _ => "create_backend"
  | .updateBackend _ _ => "update_backend"
  | .deleteBackend _ => "delete_backend"
  | .replaceTargets _ _ => "replace_targets"
  | .updateAcl _ _ => "update_acl"
  | .replaceAcls _ => "replace_acls"
  | .replaceListeners _ => "replace_listeners"

/-- The name of a call. -/
def name : Call → String
  | getVolume _ => "get_volume"
  | listVolumes _ => "list_volumes"
  | createVolume _ => "create_volume"
  | updateVolume _ _ => "update_volume"
  | deleteVolume _ => "delete_volume"
  | getSnapshot _ => "get_snapshot"
  | createSnapshot _ => "create_snapshot"
  | deleteSnapshot _ => "delete_snapshot"
  | getInstance _ => "get_instance"
  | createInstance _ => "create_instance"
  | updateInstance _ _ => "update_instance"
  | deleteInstance _ => "delete_instance"
  | getRegistry _ => "get_registry"
  | createRegistry _ => "create_registry"
  | updateRegistry _ _ => "update_registry"
  | deleteRegistry _ => "delete_registry"
  | getLoadBalancer _ => "get_load_balancer"
  | createLoadBalancer _ => "create_load_balancer"
  | deleteLoadBalancer _ => "delete_load_balancer"
  | changeLoadBalancer _ change => changeName change

/-- Whether a call only reads. -/
def isRead : Call → Bool
  | getVolume _ | listVolumes _ | getSnapshot _ | getInstance _ | getRegistry _
  | getLoadBalancer _ => true
  | _ => false

end Call

/-- What becomes of a call: it is answered after a delay in milliseconds. `completed` is the state
of the API then, and `abandoned` the one it is left in if the caller leaves before. -/
structure Reply (σ α : Type) where
  delay : Nat
  answer : Except ApiError α
  completed : σ
  abandoned : σ

/-- A behaviour of the API with states `σ`: how it replies to a call at an instant, in
milliseconds. -/
abbrev Api (σ : Type) :=
  (call : Call) → (now : Nat) → σ → Reply σ call.Answer

end CloudProvision.Remote
