import CloudProvision.MemoryCloud.Change
import CloudProvision.MemoryCloud.Store
import CloudProvision.Remote.Call

/-!
# A cloud in memory

`MemoryCloud.api` is a behaviour of the API that keeps its objects in tables. It answers without
delay and accepts every sound request. A change is done later: an object that is read goes on to
the next status of its queue, so that a caller sees it change as it polls. A call that fails leaves
the cloud as it was.
-/

namespace CloudProvision

open Remote

namespace MemoryCloud

/-! ### Volumes and snapshots -/

/-- Create a volume. A type that is left out is the standard one. -/
def createVolume (request : VolumeCreate) : Served String :=
  create "vol" "completed" fun id _ =>
    { id
      name := request.name
      sizeGib := request.sizeGib
      volumeType := request.volumeType.getD "standard"
      availabilityZone := request.availabilityZone
      snapshotId := request.snapshotId
      status := ""
      errorMessage := none : Volume }

/-- The volume with the fields that an update gives. -/
def updatedVolume (request : VolumeUpdate) (v : Volume) : Volume :=
  { v with
    name := request.name.or v.name
    sizeGib := request.sizeGib.getD v.sizeGib }

/-- Create a snapshot, as large as its volume. -/
def createSnapshot (request : SnapshotCreate) : Served String := do
  let volume : Volume ← find request.volumeId
  create "snap" "completed" fun id _ =>
    { id
      volumeId := request.volumeId
      description := request.description
      sizeGib := some volume.sizeGib
      status := ""
      errorMessage := none : Snapshot }

/-- A page of the volumes. The token of a page is the position of its first volume. -/
def listVolumes (request : PageRequest) : Served (Page Volume) := do
  let volumes := (← get).volumes.values.map Entry.object
  match request.token.elim (some 0) String.toNat? with
  | none => throw (.rejected 400 "invalid page token")
  | some first =>
    let items := (volumes.drop first).take request.pageSize
    let next := first + items.length
    return ⟨items, if next < volumes.length then some (toString next) else none⟩

/-! ### Instances and registries -/

/-- Create an instance. Its address ends in the number of its identifier. -/
def createInstance (request : InstanceCreate) : Served String :=
  create "i" "completed" fun id number =>
    { id
      name := request.name
      imageId := request.imageId
      instanceType := request.instanceType
      subnetId := request.subnetId
      privateIp := some ("10.0.0." ++ toString number)
      tags := request.tags
      status := ""
      errorMessage := none : Instance }

/-- The instance with the fields that an update gives. -/
def updatedInstance (request : InstanceUpdate) (i : Instance) : Instance :=
  { i with
    name := request.name.getD i.name
    instanceType := request.instanceType.getD i.instanceType
    tags := request.tags.getD i.tags }

/-- Create a registry, whose name is not taken. It is there at once. -/
def createRegistry (request : RegistryCreate) : Served Registry := do
  if (← get).registries.values.any (·.object.name == request.name) then
    throw (.rejected 409 ("registry " ++ request.name ++ " already exists"))
  let (id, _) ← newId "reg"
  let registry : Registry :=
    { id
      name := request.name
      isPublic := request.isPublic
      endpoint := some (request.name ++ ".registry.example.com") }
  put id ⟨registry, []⟩
  return registry

/-- Open or close a registry. -/
def updateRegistry (id : String) (isPublic : Bool) : Served Registry := do
  let entry : Entry Registry ← entry id
  let registry : Registry := { entry.object with isPublic }
  put id { entry with object := registry }
  return registry

/-- Delete a registry at once. -/
def deleteRegistry (id : String) : Served Unit := do
  let _ : Entry Registry ← entry id
  remove Registry id

/-! ### Load balancers -/

/-- Create a bare load balancer. -/
def createLoadBalancer (request : LoadBalancerCreate) : Served String :=
  create "lb" "running" fun id _ =>
    { id
      name := request.name
      description := request.description
      address := some "203.0.113.10"
      status := ""
      errorMessage := none
      listeners := []
      acls := []
      healthChecks := []
      backends := [] : LoadBalancer }

/-- Change a running load balancer. -/
def changeLoadBalancer (id : String) (change : Change) : Served Unit := do
  let lb : LoadBalancer ← find id
  if lb.status ≠ "running" then
    throw (.rejected 409 ("load balancer " ++ id ++ " is " ++ lb.status))
  let issued := (← get).issued
  let (changed, issued) ← (change.apply lb).run issued
  modify ({ · with issued })
  put id (.changing changed "updating" (.status "running"))

/-! ### The API -/

/-- The answer of a call. -/
def serve : (call : Call) → Served call.Answer
  | .getVolume id => read id
  | .listVolumes request => listVolumes request
  | .createVolume request => createVolume request
  | .updateVolume id request => update id (updatedVolume request)
  | .deleteVolume id => delete Volume id
  | .getSnapshot id => read id
  | .createSnapshot request => createSnapshot request
  | .deleteSnapshot id => delete Snapshot id
  | .getInstance id => read id
  | .createInstance request => createInstance request
  | .updateInstance id request => update id (updatedInstance request)
  | .deleteInstance id => delete Instance id
  | .getRegistry id => read id
  | .createRegistry request => createRegistry request
  | .updateRegistry id isPublic => updateRegistry id isPublic
  | .deleteRegistry id => deleteRegistry id
  | .getLoadBalancer id => read id
  | .createLoadBalancer request => createLoadBalancer request
  | .deleteLoadBalancer id => delete LoadBalancer id
  | .changeLoadBalancer id change => changeLoadBalancer id change

/-- The API of the cloud. -/
def api : Api MemoryCloud := fun call _ cloud =>
  match (serve call).run cloud with
  | .ok (answer, next) => ⟨0, .ok answer, next, cloud⟩
  | .error e => ⟨0, .error e, cloud, cloud⟩

end MemoryCloud

end CloudProvision
