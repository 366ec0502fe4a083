import CloudProvision.Changes
import CloudProvision.LoadBalancer.State

/-!
# Differences between a plan and a state

When nested objects correspond, when their fields differ, and the changes that a planned load
balancer asks for. The targets of a backend are a multiset. A backend whose type of targets differs
has to be created again.
-/

namespace CloudProvision.LoadBalancer

/-! ### Identity -/

instance : Identified Acl := ⟨Acl.id, Acl.name, fun _ => none⟩
instance : Identified HealthCheck := ⟨HealthCheck.id, HealthCheck.name, fun _ => none⟩
instance : Identified Backend := ⟨Backend.id, Backend.name, fun _ => none⟩

/-- The port and the protocol of a listener: a port accepts one listener. -/
def Listener.naturalKey (l : Listener) : Option String := do
  let port ← l.port.toOption
  match l.protocol.normalized with
  | .known protocol => return toString port ++ "/" ++ protocol
  | .null => return toString port ++ "/"
  | .unknown => none

instance : Identified Listener := ⟨Listener.id, Listener.name, Listener.naturalKey⟩

instance : Identified Remote.Acl := ⟨(.known ·.id), (.known ·.name), fun _ => none⟩
instance : Identified Remote.HealthCheck := ⟨(.known ·.id), (.known ·.name), fun _ => none⟩
instance : Identified Remote.Backend := ⟨(.known ·.id), (.known ·.name), fun _ => none⟩

/-! ### Fields -/

/-- Whether a field of an ACL differs. -/
def Acl.changedFrom (plan state : Acl) : Bool :=
  plan.name.changed state.name || plan.action.changed state.action
    || plan.cidr.changed state.cidr || plan.priority.changed state.priority
    || plan.description.changed state.description

/-- Whether a field of a health check differs. -/
def HealthCheck.changedFrom (plan state : HealthCheck) : Bool :=
  plan.name.changed state.name || plan.protocol.changed state.protocol
    || plan.port.changed state.port || plan.path.changed state.path
    || plan.interval.changed state.interval || plan.timeout.changed state.timeout
    || plan.healthyThreshold.changed state.healthyThreshold
    || plan.unhealthyThreshold.changed state.unhealthyThreshold

/-- Whether a field of a listener differs. -/
def Listener.changedFrom (plan state : Listener) : Bool :=
  plan.name.changed state.name || plan.port.changed state.port
    || plan.protocol.changed state.protocol || plan.backend.changed state.backend
    || plan.certificateId.changed state.certificateId

/-! ### Targets -/

/-- Whether a field of a target is undecided. -/
def Target.hasUnknown (t : Target) : Bool :=
  t.nicId.isUnknown || t.ipAddress.isUnknown || t.port.isUnknown

/-- Whether two targets are the same, blank fields counting as absent. -/
def Target.sameAs (plan state : Target) : Bool :=
  plan.nicId.normalized == state.nicId.normalized
    && plan.ipAddress.normalized == state.ipAddress.normalized
    && plan.port.normalized == state.port.normalized

/-- The list without the entry at a position, which the last entry takes. -/
def swapRemove {α : Type} (xs : List α) (i : Nat) : List α :=
  match xs.getLast? with
  | some last => (xs.set i last).dropLast
  | none => []

/-- Whether each of the planned targets is found in turn among the targets that are left. One that
is found is taken away, and the last one takes its place. -/
def coveredBy : (plan left : List Target) → Bool
  | [], _ => true
  | t :: rest, left =>
    match left.findIdx? t.sameAs with
    | some i => coveredBy rest (swapRemove left i)
    | none => false

/-- Whether the targets of a backend differ: in number, or because a planned target without an
undecided field is not in the state. Planned targets with such a field stand for those left over. -/
def targetsChanged (plan state : Attr (List Target)) : Bool :=
  if plan.isUnknown || state.isUnknown then false
  else if plan.entries.length ≠ state.entries.length then true
  else !coveredBy (plan.entries.filter (!·.hasUnknown)) state.entries

/-! ### Backends -/

/-- Whether a scalar field of a backend differs. -/
def Backend.fieldsChanged (plan state : Backend) : Bool :=
  plan.name.changed state.name || plan.panicThreshold.changed state.panicThreshold
    || plan.closeConnections.changed state.closeConnections
    || plan.healthCheck.changed state.healthCheck

/-- Whether the type of targets differs. -/
def Backend.targetsTypeChanged (plan state : Backend) : Bool :=
  plan.targetsType.changed state.targetsType

/-- Whether anything of a backend differs. -/
def Backend.changedFrom (plan state : Backend) : Bool :=
  plan.targetsTypeChanged state || plan.fieldsChanged state
    || targetsChanged plan.targets state.targets

instance : Reconcilable Acl := { changedFrom := Acl.changedFrom }
instance : Reconcilable HealthCheck := { changedFrom := HealthCheck.changedFrom }
instance : Reconcilable Listener := { changedFrom := Listener.changedFrom }
instance : Reconcilable Backend := { changedFrom := Backend.changedFrom }

/-- The changes of the backends of a load balancer. -/
structure BackendChanges where
  added : List (Placed Backend)
  removed : List (Placed Backend)
  /-- Backends with another type of targets: they are deleted and created again. -/
  recreated : List (Pairing Backend)
  /-- Other backends with a changed scalar field. -/
  fields : List (Pairing Backend)
  /-- Other backends with changed targets. -/
  targets : List (Pairing Backend)

namespace BackendChanges

/-- The changes of planned backends. -/
def between (plan state : List Backend) : BackendChanges :=
  let changes := Changes.between plan state
  let (recreated, kept) := changes.matched.partition fun pairing =>
    pairing.plan.entry.targetsTypeChanged pairing.state.entry
  { added := changes.added
    removed := changes.removed
    recreated
    fields := kept.filter fun pairing => pairing.plan.entry.fieldsChanged pairing.state.entry
    targets := kept.filter fun pairing =>
      targetsChanged pairing.plan.entry.targets pairing.state.entry.targets }

/-- Whether there is nothing to do. -/
def isEmpty (changes : BackendChanges) : Bool :=
  changes.added.isEmpty && changes.removed.isEmpty && changes.recreated.isEmpty
    && changes.fields.isEmpty && changes.targets.isEmpty

end BackendChanges

/-! ### Load balancers -/

/-- What a planned load balancer changes. -/
structure Difference where
  /-- Whether the name or the description differs. -/
  topLevel : Bool
  healthChecks : Changes HealthCheck
  backends : BackendChanges
  acls : Changes Acl
  /-- Whether the listeners differ. They are replaced as a whole. -/
  listeners : Bool

/-- The entries of a planned list and of the list in the state. There is nothing to compare while
the plan is undecided. -/
def collections {α : Type} (plan state : Attr (List α)) : List α × List α :=
  if plan.isUnknown then ([], []) else (plan.entries, state.entries)

namespace Difference

/-- The changes between a planned load balancer and its state. -/
def between (plan state : State) : Difference :=
  let healthChecks := collections plan.healthChecks state.healthChecks
  let backends := collections plan.backends state.backends
  let acls := collections plan.acls state.acls
  let listeners := collections plan.listeners state.listeners
  { topLevel := plan.name.changed state.name || plan.description.changed state.description
    healthChecks := .between healthChecks.1 healthChecks.2
    backends := .between backends.1 backends.2
    acls := .between acls.1 acls.2
    listeners := !(Changes.between listeners.1 listeners.2).isEmpty }

/-- Whether there is nothing to do. -/
def isEmpty (changes : Difference) : Bool :=
  !changes.topLevel && !changes.listeners && changes.healthChecks.isEmpty
    && changes.backends.isEmpty && changes.acls.isEmpty

end Difference

end CloudProvision.LoadBalancer
