import CloudProvision.Remote.Lifecycle
import CloudProvision.StringMap

/-!
# Remote objects

Volumes, snapshots, instances and registries as the API returns them, with the requests that create
and update them. An absent field of an update is left untouched.
-/

namespace CloudProvision.Remote

/-! ### Volumes -/

/-- A block storage volume. -/
structure Volume where
  id : String
  name : Option String
  sizeGib : Int
  volumeType : Option String
  availabilityZone : Option String
  snapshotId : Option String
  status : String
  errorMessage : Option String
  deriving DecidableEq, Inhabited

instance : Polled Volume := ⟨.ofVolumes, Volume.status, Volume.errorMessage⟩

/-- Request for a volume. -/
structure VolumeCreate where
  name : Option String
  sizeGib : Int
  volumeType : Option String
  availabilityZone : String
  snapshotId : Option String
  deriving DecidableEq

/-- Partial update of a volume. -/
structure VolumeUpdate where
  name : Option String
  sizeGib : Option Int
  deriving DecidableEq

/-! ### Snapshots -/

/-- A snapshot of a volume. -/
structure Snapshot where
  id : String
  volumeId : String
  description : Option String
  sizeGib : Option Int
  status : String
  errorMessage : Option String
  deriving DecidableEq, Inhabited

instance : Polled Snapshot := ⟨.ofSnapshots, Snapshot.status, Snapshot.errorMessage⟩

/-- Request for a snapshot. -/
structure SnapshotCreate where
  volumeId : String
  description : Option String
  deriving DecidableEq

/-! ### Instances -/

/-- A virtual machine. -/
structure Instance where
  id : String
  name : String
  imageId : String
  instanceType : String
  subnetId : Option String
  privateIp : Option String
  tags : StringMap String
  status : String
  errorMessage : Option String
  deriving DecidableEq, Inhabited

instance : Polled Instance := ⟨.ofInstances, Instance.status, Instance.errorMessage⟩

/-- Request for an instance. -/
structure InstanceCreate where
  name : String
  imageId : String
  instanceType : String
  subnetId : Option String
  tags : StringMap String
  deriving DecidableEq

/-- Partial update of an instance. -/
structure InstanceUpdate where
  name : Option String
  instanceType : Option String
  tags : Option (StringMap String)
  deriving DecidableEq

/-! ### Registries -/

/-- A container registry. -/
structure Registry where
  id : String
  name : String
  isPublic : Bool
  endpoint : Option String
  deriving DecidableEq, Inhabited

/-- Request for a registry. -/
structure RegistryCreate where
  name : String
  isPublic : Bool
  deriving DecidableEq

end CloudProvision.Remote
