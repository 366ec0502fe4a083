import CloudProvision.Codec.Record
import CloudProvision.Resource

/-!
# Volumes

The resource of block storage volumes, and the listing of volumes. A volume never shrinks, and it
stays in its zone and keeps the snapshot that it was created from.
-/

namespace CloudProvision.Volume

open Operation Request

/-- A volume. -/
structure State where
  id : Attr String
  name : Attr String
  sizeGib : Attr Int
  volumeType : Attr String
  availabilityZone : Attr String
  snapshotId : Attr String
  status : Attr String
  deriving DecidableEq

/-- The codec of volumes. -/
def State.codec : Codec State :=
  .record "State" [
    .of "id" (.attr .text) id fun v x => { x with id := v },
    .of "name" (.attr .text) name fun v x => { x with name := v },
    .of "size_gib" (.attr .integer) sizeGib fun v x => { x with sizeGib := v },
    .of "volume_type" (.attr .text) volumeType fun v x => { x with volumeType := v },
    .of "availability_zone" (.attr .text) availabilityZone
      fun v x => { x with availabilityZone := v },
    .of "snapshot_id" (.attr .text) snapshotId fun v x => { x with snapshotId := v },
    .of "status" (.attr .text) status fun v x => { x with status := v }]
    ⟨.null, .null, .null, .null, .null, .null, .null⟩

/-- The state of a remote volume. -/
def State.ofRemote (v : Remote.Volume) : State where
  id := .known v.id
  name := .ofOption v.name
  sizeGib := .known v.sizeGib
  volumeType := .ofOption v.volumeType
  availabilityZone := .ofOption v.availabilityZone
  snapshotId := .ofOption v.snapshotId
  status := .known v.status

/-- The request for a volume. -/
def State.createRequest (s : State) : Remote.VolumeCreate where
  name := s.name.nonempty?
  sizeGib := s.sizeGib.getD 0
  volumeType := s.volumeType.nonempty?
  availabilityZone := s.availabilityZone.text
  snapshotId := s.snapshotId.nonempty?

/-- The request for the changes from `prior` to `planned`. -/
def updateRequest (prior planned : State) : Remote.VolumeUpdate where
  name := if planned.name.changed prior.name then some planned.name.text else none
  sizeGib := if planned.sizeGib.changed prior.sizeGib then some (planned.sizeGib.getD 0) else none

/-- The errors of a volume. -/
def State.validate (s : State) : List Diagnostic :=
  let size := match s.sizeGib with
    | .known n =>
      if n ≤ 0 then
        [⟨"Invalid volume size", s!"size_gib must be positive, got {n}", .of "size_gib"⟩]
      else []
    | .null => [.short "Missing volume size" (.of "size_gib")]
    | .unknown => []
  let zone :=
    if s.availabilityZone.isNull then
      [.short "Missing availability zone" (.of "availability_zone")]
    else []
  size ++ zone

/-- The plan of a new volume. The cloud chooses the type if it is left out. -/
def State.planCreate (proposed : State) : State :=
  { proposed with
    id := .unknown
    status := .unknown
    volumeType := proposed.volumeType.orElse .unknown }

/-- The attributes whose change asks for another volume. -/
def State.replacements (prior planned : State) : List AttributePath :=
  (if planned.availabilityZone.changed prior.availabilityZone then
    [.of "availability_zone"] else [])
  ++ (if planned.snapshotId.changed prior.snapshotId then [.of "snapshot_id"] else [])

/-- The plan of a change. The type is kept if it is left out. -/
def State.planUpdate (prior proposed : State) : State × List AttributePath :=
  let planned := { proposed with
    id := prior.id
    status := prior.status
    volumeType := proposed.volumeType.orElse prior.volumeType }
  (planned, prior.replacements planned)

variable {σ : Type}

/-- Give up if the volume is going to shrink. -/
def State.checkSize (prior proposed : State) : Request σ Unit :=
  match proposed.sizeGib, prior.sizeGib with
  | .known after, .known before => do
    if after < before then
      error ⟨"Volumes cannot shrink", s!"size_gib cannot go from {before} to {after}",
        .of "size_gib"⟩
      failure
  | _, _ => return ()

/-- Wait for a volume to be ready, and return its state. -/
def awaitReady (id : String) : Request σ State := do
  let volume ← orReport (await (.getVolume id) Timeouts.volumes id "completed")
    "Volume did not complete"
  return .ofRemote volume

/-- The resource of volumes. -/
def resource : Resource σ State where
  codec := State.codec
  validate config := do
    errors config.validate
    unlessErrors
  read state := do
    match state.id.nonempty? with
    | none => return none
    | some id => return (← attempt (.getVolume id) "Could not read volume").map .ofRemote
  planCreate proposed := return proposed.planCreate
  planUpdate prior proposed := do
    prior.checkSize proposed
    return prior.planUpdate proposed
  create planned := do
    let id ← orReport (call (.createVolume planned.createRequest)) "Could not create volume"
    awaitReady id
  update prior planned := do
    let request := updateRequest prior planned
    if request = ⟨none, none⟩ then return planned
    else
      orReport (call (.updateVolume prior.id.text request)) "Could not update volume"
      awaitReady prior.id.text
  destroy prior := do
    let id := prior.id.text
    match ← attempt (.deleteVolume id) "Could not delete volume" with
    | none => return ()
    | some _ => awaitDeletion (.getVolume id) Timeouts.volumes id "Volume was not deleted"
  adopt id := do
    return .ofRemote (← orReport (call (.getVolume id)) "Could not import volume")

/-! ### Listing -/

/-- A volume in a listing. -/
structure Item where
  id : Attr String
  name : Attr String
  sizeGib : Attr Int
  volumeType : Attr String
  availabilityZone : Attr String
  status : Attr String
  deriving DecidableEq

/-- A listing of volumes. -/
structure Listing where
  /-- Only volumes with this name are listed. -/
  name : Attr String
  volumes : Attr (List Item)
  deriving DecidableEq

/-- The codec of volumes in a listing. -/
def Item.codec : Codec Item :=
  .record "VolumeItem" [
    .of "id" (.attr .text) id fun v x => { x with id := v },
    .of "name" (.attr .text) name fun v x => { x with name := v },
    .of "size_gib" (.attr .integer) sizeGib fun v x => { x with sizeGib := v },
    .of "volume_type" (.attr .text) volumeType fun v x => { x with volumeType := v },
    .of "availability_zone" (.attr .text) availabilityZone
      fun v x => { x with availabilityZone := v },
    .of "status" (.attr .text) status fun v x => { x with status := v }]
    ⟨.null, .null, .null, .null, .null, .null⟩

/-- The codec of listings. -/
def Listing.codec : Codec Listing :=
  .record "VolumesState" [
    .of "name" (.attr .text) name fun v x => { x with name := v },
    .of "volumes" (.attr (.list Item.codec)) volumes fun v x => { x with volumes := v }]
    ⟨.null, .null⟩

/-- A remote volume in a listing. -/
def Item.ofRemote (v : Remote.Volume) : Item where
  id := .known v.id
  name := .ofOption v.name
  sizeGib := .known v.sizeGib
  volumeType := .ofOption v.volumeType
  availabilityZone := .ofOption v.availabilityZone
  status := .known v.status

/-- Whether a volume is listed, given the name that is asked for. -/
def isListed (name : Option String) (v : Remote.Volume) : Bool :=
  name.all fun name => v.name == some name

/-- All remote volumes. -/
def all : Operation σ (Except Remote.ListingError (List Remote.Volume)) := do
  let settings ← settings
  let limit ← pageLimit
  Remote.collectPages settings.pageSize (fun request => call (.listVolumes request)) limit none

/-- The listing of volumes. -/
def listing : DataSource σ Listing where
  codec := Listing.codec
  validate _ := return ()
  read config := do
    let volumes ← orReport all "Could not list volumes"
    let listed := volumes.filter (isListed config.name.nonempty?)
    return { name := config.name, volumes := .known (listed.map .ofRemote) }

end CloudProvision.Volume
