import CloudProvision.Codec.Record
import CloudProvision.Resource

/-!
# Snapshots

The resource of snapshots of volumes. A snapshot never changes: another volume or description asks
for another snapshot, and a plan without such a change is the prior state itself.
-/

namespace CloudProvision.Snapshot

open Operation Request

/-- A snapshot. -/
structure State where
  id : Attr String
  volumeId : Attr String
  description : Attr String
  sizeGib : Attr Int
  status : Attr String
  deriving DecidableEq

/-- The codec of snapshots. -/
def State.codec : Codec State :=
  .record "State" [
    .of "id" (.attr .text) id fun v x => { x with id := v },
    .of "volume_id" (.attr .text) volumeId fun v x => { x with volumeId := v },
    .of "description" (.attr .text) description fun v x => { x with description := v },
    .of "size_gib" (.attr .integer) sizeGib fun v x => { x with sizeGib := v },
    .of "status" (.attr .text) status fun v x => { x with status := v }]
    ⟨.null, .null, .null, .null, .null⟩

/-- The state of a remote snapshot. -/
def State.ofRemote (s : Remote.Snapshot) : State where
  id := .known s.id
  volumeId := .known s.volumeId
  description := .ofOption s.description
  sizeGib := .ofOption s.sizeGib
  status := .known s.status

/-- The request for a snapshot. -/
def State.createRequest (s : State) : Remote.SnapshotCreate where
  volumeId := s.volumeId.text
  description := s.description.nonempty?

/-- The plan of a new snapshot. -/
def State.planCreate (proposed : State) : State :=
  { proposed with
    id := .unknown
    sizeGib := .unknown
    status := .unknown }

/-- The attributes whose change asks for another snapshot. -/
def State.replacements (prior proposed : State) : List AttributePath :=
  (if proposed.volumeId.changed prior.volumeId then [.of "volume_id"] else [])
  ++ (if proposed.description.changed prior.description then [.of "description"] else [])

/-- The plan of a change: another snapshot, or the one there is. -/
def State.planUpdate (prior proposed : State) : State × List AttributePath :=
  let replace := prior.replacements proposed
  (if replace.isEmpty then prior else proposed.planCreate, replace)

variable {σ : Type}

/-- The resource of snapshots. -/
def resource : Resource σ State where
  codec := State.codec
  validate config := do
    if config.volumeId.isNull then
      error (.short "Missing volume ID" (.of "volume_id"))
      failure
  read state := do
    match state.id.nonempty? with
    | none => return none
    | some id => return (← attempt (.getSnapshot id) "Could not read snapshot").map .ofRemote
  planCreate proposed := return proposed.planCreate
  planUpdate prior proposed := return prior.planUpdate proposed
  create planned := do
    let id ← orReport (call (.createSnapshot planned.createRequest)) "Could not create snapshot"
    let snapshot ← orReport (await (.getSnapshot id) Timeouts.snapshots id "completed")
      "Snapshot did not complete"
    return .ofRemote snapshot
  update _ planned := return planned
  destroy prior := do
    let id := prior.id.text
    match ← attempt (.deleteSnapshot id) "Could not delete snapshot" with
    | none => return ()
    | some _ =>
      awaitDeletion (.getSnapshot id) Timeouts.snapshots id "Snapshot was not deleted"

end CloudProvision.Snapshot
