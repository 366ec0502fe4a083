import CloudProvision.Codec.Record
import CloudProvision.Resource

/-!
# Instances

The resource of virtual machines. An instance keeps its image and its subnet. Its tags are a map:
a null tag is the same as no tag, and nothing can be said about a map with an undecided tag.
-/

namespace CloudProvision.Instance

open Operation Request

/-- The tags of an instance. -/
abbrev Tags := Attr (StringMap (Attr String))

/-- An instance. -/
structure State where
  id : Attr String
  name : Attr String
  imageId : Attr String
  instanceType : Attr String
  subnetId : Attr String
  privateIp : Attr String
  tags : Tags
  status : Attr String
  deriving DecidableEq

/-- The codec of instances. -/
def State.codec : Codec State :=
  .record "State" [
    .of "id" (.attr .text) id fun v x => { x with id := v },
    .of "name" (.attr .text) name fun v x => { x with name := v },
    .of "image_id" (.attr .text) imageId fun v x => { x with imageId := v },
    .of "instance_type" (.attr .text) instanceType fun v x => { x with instanceType := v },
    .of "subnet_id" (.attr .text) subnetId fun v x => { x with subnetId := v },
    .of "private_ip" (.attr .text) privateIp fun v x => { x with privateIp := v },
    .of "tags" (.attr (.map (.attr .text))) tags fun v x => { x with tags := v },
    .of "status" (.attr .text) status fun v x => { x with status := v }]
    ⟨.null, .null, .null, .null, .null, .null, .null, .null⟩

namespace Tags

/-- The tags of a remote instance. No tags are null tags. -/
def ofRemote (tags : StringMap String) : Tags :=
  if tags.isEmpty then .null else .known (tags.map .known)

/-- The tags as they are sent: those with a known value. -/
def toRemote (tags : Tags) : StringMap String :=
  match tags with
  | .known tags => tags.filterMap Attr.toOption
  | _ => .empty

/-- Whether a tag of the map is undecided. -/
def hasUnknown : Tags → Bool
  | .known tags => tags.values.any Attr.isUnknown
  | _ => false

/-- Whether the planned tags differ from those in the state. -/
def changed (plan state : Tags) : Bool :=
  if plan.isUnknown || state.isUnknown || plan.hasUnknown then false
  else plan.toRemote != state.toRemote

/-- One error for each tag without a key. -/
def validate : Tags → List Diagnostic
  | .known tags =>
    (tags.keys.filter String.isEmpty).map fun _ =>
      .short "Tag keys cannot be empty" (.of "tags")
  | _ => []

end Tags

/-- The state of a remote instance. -/
def State.ofRemote (i : Remote.Instance) : State where
  id := .known i.id
  name := .known i.name
  imageId := .known i.imageId
  instanceType := .known i.instanceType
  subnetId := .ofOption i.subnetId
  privateIp := .ofOption i.privateIp
  tags := .ofRemote i.tags
  status := .known i.status

/-- The request for an instance. -/
def State.createRequest (s : State) : Remote.InstanceCreate where
  name := s.name.text
  imageId := s.imageId.text
  instanceType := s.instanceType.text
  subnetId := s.subnetId.nonempty?
  tags := s.tags.toRemote

/-- The request for the changes from `prior` to `planned`. -/
def updateRequest (prior planned : State) : Remote.InstanceUpdate where
  name := if planned.name.changed prior.name then some planned.name.text else none
  instanceType :=
    if planned.instanceType.changed prior.instanceType then some planned.instanceType.text
    else none
  tags := if planned.tags.changed prior.tags then some planned.tags.toRemote else none

/-- The errors of an instance. -/
def State.validate (s : State) : List Diagnostic :=
  let required := [("name", s.name), ("image_id", s.imageId), ("instance_type", s.instanceType)]
  required.filterMap (fun (name, value) =>
    if value.isNull then some (.short ("Missing " ++ name) (.of name)) else none)
  ++ s.tags.validate

/-- The plan of a new instance. -/
def State.planCreate (proposed : State) : State :=
  { proposed with
    id := .unknown
    privateIp := .unknown
    status := .unknown }

/-- The attributes whose change asks for another instance. -/
def State.replacements (prior proposed : State) : List AttributePath :=
  (if proposed.imageId.changed prior.imageId then [.of "image_id"] else [])
  ++ (if proposed.subnetId.changed prior.subnetId then [.of "subnet_id"] else [])

/-- The plan of a change: another instance, or the one there is with the proposed attributes. -/
def State.planUpdate (prior proposed : State) : State × List AttributePath :=
  let replace := prior.replacements proposed
  let kept := { proposed with
    id := prior.id
    privateIp := prior.privateIp
    status := prior.status }
  (if replace.isEmpty then kept else proposed.planCreate, replace)

variable {σ : Type}

/-- Wait for an instance to be ready, and return its state. -/
def awaitReady (id : String) : Request σ State := do
  let machine ← orReport (await (.getInstance id) Timeouts.instances id "completed")
    "Instance did not complete"
  return .ofRemote machine

/-- The resource of instances. -/
def resource : Resource σ State where
  codec := State.codec
  validate config := do
    errors config.validate
    unlessErrors
  read state := do
    match state.id.nonempty? with
    | none => return none
    | some id => return (← attempt (.getInstance id) "Could not read instance").map .ofRemote
  planCreate proposed := return proposed.planCreate
  planUpdate prior proposed := return prior.planUpdate proposed
  create planned := do
    let id ← orReport (call (.createInstance planned.createRequest)) "Could not create instance"
    awaitReady id
  update prior planned := do
    let request := updateRequest prior planned
    if request = ⟨none, none, none⟩ then return planned
    else
      orReport (call (.updateInstance prior.id.text request)) "Could not update instance"
      awaitReady prior.id.text
  destroy prior := do
    let id := prior.id.text
    match ← attempt (.deleteInstance id) "Could not delete instance" with
    | none => return ()
    | some _ =>
      awaitDeletion (.getInstance id) Timeouts.instances id "Instance was not deleted"
  adopt id := do
    return .ofRemote (← orReport (call (.getInstance id)) "Could not import instance")

end CloudProvision.Instance
