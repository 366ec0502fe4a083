import CloudProvision.Codec.Record
import CloudProvision.Resource

/-!
# Registries

The resource of container registries. A registry keeps its name, and a change of it is done as soon
as it is accepted: there is nothing to wait for.
-/

namespace CloudProvision.Registry

open Operation Request

/-- A registry. -/
structure State where
  id : Attr String
  name : Attr String
  isPublic : Attr Bool
  endpoint : Attr String
  deriving DecidableEq

/-- The codec of registries. -/
def State.codec : Codec State :=
  .record "State" [
    .of "id" (.attr .text) id fun v x => { x with id := v },
    .of "name" (.attr .text) name fun v x => { x with name := v },
    .of "public" (.attr .boolean) isPublic fun v x => { x with isPublic := v },
    .of "endpoint" (.attr .text) endpoint fun v x => { x with endpoint := v }]
    ⟨.null, .null, .null, .null⟩

/-- The state of a remote registry. -/
def State.ofRemote (r : Remote.Registry) : State where
  id := .known r.id
  name := .known r.name
  isPublic := .known r.isPublic
  endpoint := .ofOption r.endpoint

/-- The request for a registry. -/
def State.createRequest (s : State) : Remote.RegistryCreate where
  name := s.name.text
  isPublic := s.isPublic.getD false

/-- Whether a character may stand in a name. -/
def isNameChar (c : Char) : Bool :=
  c.isLower || c.isDigit || c == '-'

/-- Whether a registry may have this name: 1 to 63 lowercase letters, digits and dashes, without a
dash at either end. -/
def isValidName (name : String) : Bool :=
  let cs := name.toList
  !cs.isEmpty && cs.length ≤ 63 && cs.all isNameChar
    && cs.head? != some '-' && cs.getLast? != some '-'

/-- The registry with the defaults filled in: it is private. -/
def State.withDefaults (s : State) : State :=
  { s with isPublic := s.isPublic.orElse (.known false) }

/-- The plan of a new registry. -/
def State.planCreate (proposed : State) : State :=
  { proposed.withDefaults with
    id := .unknown
    endpoint := .unknown }

/-- The plan of a change: another registry if the name changes. -/
def State.planUpdate (prior proposed : State) : State × List AttributePath :=
  if proposed.name.changed prior.name then (proposed.planCreate, [.of "name"])
  else
    ({ proposed.withDefaults with
        id := prior.id
        endpoint := prior.endpoint }, [])

variable {σ : Type}

/-- The resource of registries. -/
def resource : Resource σ State where
  codec := State.codec
  validate config :=
    match config.name with
    | .known name => do
      if !isValidName name then
        error ⟨"Invalid registry name",
          "`" ++ name ++ "` must only contain lowercase letters, digits and dashes", .of "name"⟩
        failure
    | .null => do
      error (.short "Missing registry name" (.of "name"))
      failure
    | .unknown => return ()
  read state := do
    match state.id.nonempty? with
    | none => return none
    | some id => return (← attempt (.getRegistry id) "Could not read registry").map .ofRemote
  planCreate proposed := return proposed.planCreate
  planUpdate prior proposed := return prior.planUpdate proposed
  create planned := do
    return .ofRemote
      (← orReport (call (.createRegistry planned.createRequest)) "Could not create registry")
  update prior planned := do
    if planned.isPublic.changed prior.isPublic then
      return .ofRemote
        (← orReport (call (.updateRegistry prior.id.text (planned.isPublic.getD false)))
          "Could not update registry")
    else return planned
  destroy prior := do
    let _ ← attempt (.deleteRegistry prior.id.text) "Could not delete registry"
  adopt id := do
    return .ofRemote (← orReport (call (.getRegistry id)) "Could not import registry")

end CloudProvision.Registry
