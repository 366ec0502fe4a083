import CloudProvision.Remote.Error
import CloudProvision.Remote.LoadBalancer

/-!
# Changes of a load balancer in memory

`Change.apply` makes a change of a load balancer, or says why it is refused: nested objects that the
change is about or refers to have to exist, and an object in use is not deleted. A change that is
refused issues no identifier.
-/

namespace CloudProvision.Remote

/-- A change in the making: it may issue identifiers, given the number of those issued before, or be
refused. -/
abbrev Changing : Type → Type := StateT Nat (Except ApiError)

namespace Changing

/-- Issue an identifier. -/
def newId (stem : String) : Changing String := do
  let number := (← get) + 1
  set number
  return stem ++ "-" ++ toString number

/-- Refuse the change because an object does not exist. -/
def missing {α : Type} (kind id : String) : Changing α :=
  throw (.notFound (kind ++ " " ++ id))

/-- Refuse the change because an object is in use. -/
def inUse {α : Type} (kind id : String) : Changing α :=
  throw (.rejected 409 (kind ++ " " ++ id ++ " is in use"))

/-- The list with the first element that satisfies `p` changed, none if there is none. -/
def updateFirst? {α : Type} (p : α → Bool) (f : α → α) : List α → Option (List α)
  | [] => none
  | x :: rest => if p x then some (f x :: rest) else (updateFirst? p f rest).map (x :: ·)

/-- Change the object with an identifier in a list of nested objects. -/
def replace {α : Type} (kind : String) (getId : α → String) (id : String) (f : α → α)
    (objects : List α) : Changing (List α) :=
  match updateFirst? (getId · == id) f objects with
  | some changed => return changed
  | none => missing kind id

end Changing

namespace LoadBalancer

/-- Whether a health check with this identifier exists. -/
def hasHealthCheck (lb : LoadBalancer) (id : String) : Bool :=
  lb.healthChecks.any (·.id == id)

/-- Whether a backend with this identifier exists. -/
def hasBackend (lb : LoadBalancer) (id : String) : Bool :=
  lb.backends.any (·.id == id)

/-- Whether a backend refers to the health check with this identifier. -/
def usesHealthCheck (lb : LoadBalancer) (id : String) : Bool :=
  lb.backends.any (·.healthCheckId == some id)

/-- Whether a listener refers to the backend with this identifier. -/
def usesBackend (lb : LoadBalancer) (id : String) : Bool :=
  lb.listeners.any (·.backendId == id)

/-- Refuse a change that refers to a health check that does not exist. -/
def requireHealthCheck (lb : LoadBalancer) (reference : Option String) : Changing Unit :=
  match reference with
  | none => return ()
  | some id => if lb.hasHealthCheck id then return () else Changing.missing "health check" id

end LoadBalancer

namespace Change

open Changing

/-- The load balancer after a change. -/
def apply (change : Change) (lb : LoadBalancer) : Changing LoadBalancer := do
  match change with
  | .update request =>
    return { lb with name := request.name.getD lb.name, description := request.description }
  | .createHealthCheck request =>
    return { lb with healthChecks := lb.healthChecks ++ [request.withId (← newId "hc")] }
  | .updateHealthCheck id request =>
    return { lb with
      healthChecks := ← replace "health check" HealthCheck.id id (fun _ => request.withId id)
        lb.healthChecks }
  | .deleteHealthCheck id =>
    if lb.usesHealthCheck id then inUse "health check" id
    else return { lb with healthChecks := lb.healthChecks.filter (·.id != id) }
  | .createBackend request =>
    lb.requireHealthCheck request.healthCheckId
    return { lb with backends := lb.backends ++ [request.withId (← newId "be")] }
  | .updateBackend id request =>
    lb.requireHealthCheck request.healthCheckId
    return { lb with
      backends := ← replace "backend" Backend.id id request.applyTo lb.backends }
  | .deleteBackend id =>
    if lb.usesBackend id then inUse "backend" id
    else return { lb with backends := lb.backends.filter (·.id != id) }
  | .replaceTargets id targets =>
    return { lb with
      backends := ← replace "backend" Backend.id id (fun b => { b with targets }) lb.backends }
  | .updateAcl id request =>
    return { lb with acls := ← replace "ACL" Acl.id id (fun _ => request.withId id) lb.acls }
  | .replaceAcls requests =>
    return { lb with acls := ← requests.mapM fun request => request.withId <$> newId "acl" }
  | .replaceListeners requests =>
    match requests.find? (!lb.hasBackend ·.backendId) with
    | some request => missing "backend" request.backendId
    | none =>
      return { lb with
        listeners := ← requests.mapM fun request => request.withId <$> newId "ls" }

end Change

end CloudProvision.Remote
