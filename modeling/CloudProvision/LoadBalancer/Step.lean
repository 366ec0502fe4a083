import CloudProvision.LoadBalancer.Difference
import CloudProvision.LoadBalancer.Mapping

/-!
# The steps of a change

The changes of a load balancer are made one at a time. `Difference.steps` puts them in an order in
which an object exists before another one uses it, and is deleted once nothing uses it:

1. the name and the description,
2. new health checks, then changed ones,
3. backends with another type of targets, each deleted and created again,
4. new backends, then backends with changed fields,
5. the targets of backends,
6. ACLs,
7. listeners,
8. backends that are left over, then health checks that are.

A step says which objects it is about as the plan and the state describe them. `Step.resolve` turns
it into a change of the load balancer as it currently is.
-/

namespace CloudProvision.LoadBalancer

/-- A step, with entries of the plan and of the state. -/
inductive Step where
  | update (plan : State)
  | createHealthCheck (plan : HealthCheck)
  | updateHealthCheck (state plan : HealthCheck)
  | deleteHealthCheck (state : HealthCheck)
  | createBackend (plan : Backend)
  | updateBackend (state plan : Backend)
  | deleteBackend (state : Backend)
  | replaceTargets (state plan : Backend)
  | updateAcl (state plan : Acl)
  | replaceAcls (plan : List Acl)
  | replaceListeners (plan : List Listener)

/-- A step is about an object that the load balancer does not have. -/
inductive ReferenceError where
  | healthCheck (backend healthCheck : String)
  | backend (listener backend : String)
  | missing (kind name : String)
  deriving DecidableEq

/-- The text of an error. -/
def ReferenceError.message : ReferenceError → String
  | healthCheck user name => s!"health check `{name}` used by backend `{user}` does not exist"
  | backend user name => s!"backend `{name}` used by listener `{user}` does not exist"
  | missing kind name => s!"{kind} `{name}` does not exist on the load balancer"

/-! ### Looking objects up -/

/-- The identifier of the remote object that an entry corresponds to. -/
def remoteId {α β : Type} [Identified α] [Identified β] (kind : String) (remote : List α)
    (entry : β) : Except ReferenceError String :=
  match ((IdentityIndex.ofList remote).find? entry).bind fun x => (Identified.id x).toOption with
  | some id => .ok id
  | none => .error (.missing kind (Identified.name entry).text)

/-- The identifier of the health check that a backend refers to, if it refers to one. -/
def healthCheckId (current : Remote.LoadBalancer) (b : Backend) :
    Except ReferenceError (Option String) :=
  match b.healthCheck.nonempty? with
  | none => .ok none
  | some name =>
    match (IdentityIndex.ofList current.healthChecks).findByName? name with
    | some healthCheck => .ok (some healthCheck.entry.id)
    | none => .error (.healthCheck b.name.text name)

/-- The request of a listener, with the backend that it refers to. -/
def listenerSpec (current : Remote.LoadBalancer) (l : Listener) :
    Except ReferenceError Remote.ListenerSpec :=
  match (IdentityIndex.ofList current.backends).findByName? l.backend.text with
  | some backend => .ok (l.spec backend.entry.id)
  | none => .error (.backend l.name.text l.backend.text)

/-- The change that a step makes to the current load balancer. -/
def Step.resolve (current : Remote.LoadBalancer) : Step → Except ReferenceError Remote.Change
  | update plan => .ok (.update ⟨plan.name.nonempty?, plan.description.nonempty?⟩)
  | createHealthCheck plan => .ok (.createHealthCheck plan.spec)
  | updateHealthCheck state plan => do
    let id ← remoteId "health check" current.healthChecks state
    return .updateHealthCheck id plan.spec
  | deleteHealthCheck state => do
    return .deleteHealthCheck (← remoteId "health check" current.healthChecks state)
  | createBackend plan => do
    return .createBackend (plan.spec (← healthCheckId current plan))
  | updateBackend state plan => do
    let id ← remoteId "backend" current.backends state
    return .updateBackend id (plan.update (← healthCheckId current plan))
  | deleteBackend state => do
    return .deleteBackend (← remoteId "backend" current.backends state)
  | replaceTargets state plan => do
    let id ← remoteId "backend" current.backends state
    return .replaceTargets id plan.remoteTargets
  | updateAcl state plan => do
    let id ← remoteId "ACL" current.acls state
    return .updateAcl id plan.spec
  | replaceAcls plan => .ok (.replaceAcls (plan.map Acl.spec))
  | replaceListeners plan => do
    return .replaceListeners (← plan.mapM (listenerSpec current))

/-! ### The order of the steps -/

/-- The steps of changed ACLs. They are replaced as a whole when entries are new or left over. -/
def aclSteps (changes : Changes Acl) (plan : State) : List Step :=
  if changes.membershipChanged then [.replaceAcls plan.acls.entries]
  else changes.changed.map fun pairing => .updateAcl pairing.state.entry pairing.plan.entry

/-- The steps of a change to `plan`, in order. -/
def Difference.steps (difference : Difference) (plan : State) : List Step :=
  let healthChecks := difference.healthChecks
  let backends := difference.backends
  (if difference.topLevel then [.update plan] else [])
    ++ healthChecks.added.map (fun h => .createHealthCheck h.entry)
    ++ healthChecks.changed.map (fun pairing =>
      .updateHealthCheck pairing.state.entry pairing.plan.entry)
    ++ backends.recreated.flatMap (fun pairing =>
      [.deleteBackend pairing.state.entry, .createBackend pairing.plan.entry])
    ++ backends.added.map (fun b => .createBackend b.entry)
    ++ backends.fields.map (fun pairing => .updateBackend pairing.state.entry pairing.plan.entry)
    ++ backends.targets.map (fun pairing =>
      .replaceTargets pairing.state.entry pairing.plan.entry)
    ++ aclSteps difference.acls plan
    ++ (if difference.listeners then [.replaceListeners plan.listeners.entries] else [])
    ++ backends.removed.map (fun b => .deleteBackend b.entry)
    ++ healthChecks.removed.map fun h => .deleteHealthCheck h.entry

end CloudProvision.LoadBalancer
