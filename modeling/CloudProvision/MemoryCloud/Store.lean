import CloudProvision.Remote.LoadBalancer
import CloudProvision.Remote.Error
import CloudProvision.Remote.Objects

/-!
# The tables of a cloud in memory

A table holds the objects of a kind by identifier, each with the queue of what happens to it as it
is read. The operations here are those that the kinds share.
-/

namespace CloudProvision

open Remote

/-- What happens to an object after it has been read. -/
inductive Transition where
  /-- The object takes a status. -/
  | status (name : String)
  /-- The object disappears. -/
  | gone
  deriving DecidableEq

/-- An object with what is going to happen to it. -/
structure Entry (α : Type) where
  object : α
  pending : List Transition
  deriving DecidableEq

/-- Objects in memory. -/
structure MemoryCloud where
  volumes : StringMap (Entry Volume)
  snapshots : StringMap (Entry Snapshot)
  instances : StringMap (Entry Instance)
  registries : StringMap (Entry Registry)
  loadBalancers : StringMap (Entry LoadBalancer)
  /-- The number of identifiers that were issued. -/
  issued : Nat
  /-- What is going to happen to the next object that is created, if not the usual. -/
  nextCreation : Option (List Transition)
  deriving DecidableEq

/-- Kinds of objects that are kept in a table. -/
class Stored (α : Type) where
  /-- The kind, as messages call it. -/
  kind : String
  /-- The object in a status. -/
  withStatus : String → α → α
  /-- The table of the kind. -/
  table : MemoryCloud → StringMap (Entry α)
  /-- The cloud with another table of the kind. -/
  withTable : StringMap (Entry α) → MemoryCloud → MemoryCloud

instance : Stored Volume where
  kind := "volume"
  withStatus status v := { v with status }
  table := MemoryCloud.volumes
  withTable volumes cloud := { cloud with volumes }

instance : Stored Snapshot where
  kind := "snapshot"
  withStatus status s := { s with status }
  table := MemoryCloud.snapshots
  withTable snapshots cloud := { cloud with snapshots }

instance : Stored Instance where
  kind := "instance"
  withStatus status i := { i with status }
  table := MemoryCloud.instances
  withTable instances cloud := { cloud with instances }

instance : Stored Registry where
  kind := "registry"
  withStatus _ r := r
  table := MemoryCloud.registries
  withTable registries cloud := { cloud with registries }

instance : Stored LoadBalancer where
  kind := "load balancer"
  withStatus status lb := { lb with status }
  table := MemoryCloud.loadBalancers
  withTable loadBalancers cloud := { cloud with loadBalancers }

namespace Entry

variable {α : Type} [Stored α]

/-- An object in a status, before one more transition. -/
def changing (object : α) (status : String) (next : Transition) : Entry α :=
  ⟨Stored.withStatus status object, [next]⟩

/-- The entry after its object has been read, none if the object is gone. -/
def afterRead : Entry α → Option (Entry α)
  | ⟨object, []⟩ => some ⟨object, []⟩
  | ⟨object, .status name :: rest⟩ => some ⟨Stored.withStatus name object, rest⟩
  | ⟨_, .gone :: _⟩ => none

end Entry

namespace MemoryCloud

/-- The cloud without objects. -/
def empty : MemoryCloud :=
  ⟨.empty, .empty, .empty, .empty, .empty, 0, none⟩

/-- A step of the cloud. A step that fails changes nothing. -/
abbrev Served : Type → Type := StateT MemoryCloud (Except ApiError)

variable {α : Type} [Stored α]

/-- The cloud with an entry in place of the one with this identifier. -/
def withEntry (id : String) (entry : Entry α) (cloud : MemoryCloud) : MemoryCloud :=
  Stored.withTable ((Stored.table cloud).insert id entry) cloud

/-- The cloud without the object of a kind with this identifier. -/
def without (α : Type) [Stored α] (id : String) (cloud : MemoryCloud) : MemoryCloud :=
  Stored.withTable ((Stored.table cloud : StringMap (Entry α)).erase id) cloud

/-- Put an entry in place of the one with this identifier. -/
def put (id : String) (entry : Entry α) : Served Unit :=
  modify (withEntry id entry)

/-- Remove an object. -/
def remove (α : Type) [Stored α] (id : String) : Served Unit :=
  modify (without α id)

/-- The entry with this identifier. -/
def entry (id : String) : Served (Entry α) := do
  let objects : StringMap (Entry α) := Stored.table (← get)
  match objects.get? id with
  | some entry => return entry
  | none => throw (.notFound (Stored.kind α ++ " " ++ id))

/-- The object with this identifier. -/
def find (id : String) : Served α := do
  return (← entry id).object

/-- The object with this identifier, which then goes through its next transition. -/
def read (id : String) : Served α := do
  let entry : Entry α ← entry id
  match entry.afterRead with
  | some next => put id next
  | none => remove α id
  return entry.object

/-- Issue an identifier, and return it with its number. -/
def newId (stem : String) : Served (String × Nat) := do
  let number := (← get).issued + 1
  modify ({ · with issued := number })
  return (stem ++ "-" ++ toString number, number)

/-- Create an object from its identifier and the number in it. It is going to take the final status,
unless something else was asked for. -/
def create (stem final : String) (object : (id : String) → (number : Nat) → α) :
    Served String := do
  let (id, number) ← newId stem
  let created : Entry α := .changing (object id number) "creating" (.status final)
  match (← get).nextCreation with
  | none => put id created
  | some pending =>
    modify ({ · with nextCreation := none })
    put id { created with pending }
  return id

/-- Update an object, which is then going to be completed. -/
def update (id : String) (f : α → α) : Served Unit := do
  put id (.changing (f (← find id)) "updating" (.status "completed"))

/-- Delete an object, which is then going to disappear. -/
def delete (α : Type) [Stored α] (id : String) : Served Unit := do
  put id (.changing ((← find id) : α) "deleting" .gone)

end MemoryCloud

end CloudProvision
