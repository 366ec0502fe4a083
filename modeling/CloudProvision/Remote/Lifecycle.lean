/-!
# Lifecycles

A remote object goes through statuses. Those of a kind with a meaning of their own are listed; any
other status is an intermediate one or, by its name, a failure.
-/

namespace CloudProvision.Remote

/-- The statuses of a kind of object. -/
structure Lifecycle where
  /-- The kind, as messages call it. -/
  kind : String
  /-- The statuses with a meaning of their own. -/
  statuses : List String
  /-- Whether a status is a failure that the object does not leave. -/
  isError : String → Bool

/-- Whether `marker` stands somewhere in the characters. -/
def containsMarker (marker : List Char) : List Char → Bool
  | [] => marker.isEmpty
  | c :: rest => marker.isPrefixOf (c :: rest) || containsMarker marker rest

/-- Whether a status is named as a failure: `error`, a name that ends in `_error`, or a name with
`_error_` in it. -/
def hasErrorMarker (status : String) : Bool :=
  let cs := status.toList
  status == "error" || "_error".toList.isSuffixOf cs || containsMarker "_error_".toList cs

namespace Lifecycle

/-- The lifecycle of volumes. -/
def ofVolumes : Lifecycle where
  kind := "volume"
  statuses := ["creating", "completed", "updating", "deleting", "deleted"]
  isError := hasErrorMarker

/-- The lifecycle of snapshots. -/
def ofSnapshots : Lifecycle where
  kind := "snapshot"
  statuses := ["creating", "completed", "deleting", "deleted"]
  isError := hasErrorMarker

/-- The lifecycle of instances. -/
def ofInstances : Lifecycle where
  kind := "instance"
  statuses := ["creating", "completed", "starting", "stopping", "stopped", "updating", "deleting",
    "deleted"]
  isError := hasErrorMarker

/-- The failures of load balancers. -/
def loadBalancerErrors : List String :=
  ["error", "creating_error", "updating_error", "deleting_error"]

/-- The lifecycle of load balancers. -/
def ofLoadBalancers : Lifecycle where
  kind := "load balancer"
  statuses := ["creating", "running", "updating", "deleting", "deleted"] ++ loadBalancerErrors
  isError := (· ∈ loadBalancerErrors)

end Lifecycle

/-- Objects whose status can be polled. -/
class Polled (α : Type) where
  lifecycle : Lifecycle
  status : α → String
  /-- What the API says about a failure. -/
  errorMessage : α → Option String

end CloudProvision.Remote
