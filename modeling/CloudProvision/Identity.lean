import CloudProvision.Attr

/-!
# The identity of nested objects

A nested object has an identifier that the cloud assigns and a name that the user chooses. An
unnamed one may have a natural key, derived from its fields. `IdentityIndex` finds the entry of a
list that a given object corresponds to: the one with its identifier if there is one, else the one
with its name, or with its natural key if it is unnamed. Two objects with different identifiers
never correspond.

When several entries of a list share an identifier, a name or a key, the first one counts.
-/

namespace CloudProvision

/-- Objects with an identity. -/
class Identified (α : Type) where
  id : α → Attr String
  name : α → Attr String
  /-- What identifies an object without a name. -/
  naturalKey : α → Option String

/-- An entry with its position in a list. -/
structure Placed (α : Type) where
  position : Nat
  entry : α
  deriving DecidableEq

/-- The entries of a list with their positions. -/
def Placed.ofList {α : Type} (entries : List α) : List (Placed α) :=
  entries.zipIdx.map fun (entry, position) => ⟨position, entry⟩

/-- Positions by key, each key once. -/
abbrev PositionTable := List (String × Nat)

/-- The position at a key. -/
def PositionTable.get? (table : PositionTable) (key : String) : Option Nat :=
  table.lookup key

/-- Add a position at a key, unless there is no key or the key has a position already. -/
def PositionTable.add (table : PositionTable) (key : Option String) (position : Nat) :
    PositionTable :=
  match key with
  | none => table
  | some key => if (table.get? key).isSome then table else table ++ [(key, position)]

/-- The positions of entries by identifier, by name and by natural key. -/
structure IdentityIndex (α : Type) where
  entries : List α
  byId : PositionTable
  byName : PositionTable
  /-- Unnamed entries only. -/
  byNaturalKey : PositionTable

namespace IdentityIndex

variable {α β : Type} [Identified α] [Identified β]

/-- Enter an entry into the tables. -/
def add (index : IdentityIndex α) (placed : Placed α) : IdentityIndex α :=
  let name := (Identified.name placed.entry).key?
  let naturalKey := if name.isNone then Identified.naturalKey placed.entry else none
  { index with
    byId := index.byId.add (Identified.id placed.entry).key? placed.position
    byName := index.byName.add name placed.position
    byNaturalKey := index.byNaturalKey.add naturalKey placed.position }

/-- The index of a list. -/
def ofList (entries : List α) : IdentityIndex α :=
  (Placed.ofList entries).foldl add ⟨entries, [], [], []⟩

/-- Whether the entry at a position has an identifier. -/
def hasId (index : IdentityIndex α) (position : Nat) : Bool :=
  index.entries[position]?.any fun entry => (Identified.id entry).isPresent

/-- The position of the entry that corresponds to `probe`. -/
def position? (index : IdentityIndex α) (probe : β) : Option Nat :=
  let id := (Identified.id probe).key?
  match id.bind index.byId.get? with
  | some position => some position
  | none =>
    let candidate := match (Identified.name probe).key? with
      | some name => index.byName.get? name
      | none => (Identified.naturalKey probe).bind index.byNaturalKey.get?
    candidate.filter fun position => !(id.isSome && index.hasId position)

/-- The entry that corresponds to `probe`, with its position. -/
def locate? (index : IdentityIndex α) (probe : β) : Option (Placed α) := do
  let position ← index.position? probe
  let entry ← index.entries[position]?
  return ⟨position, entry⟩

/-- The entry that corresponds to `probe`. -/
def find? (index : IdentityIndex α) (probe : β) : Option α :=
  (index.locate? probe).map Placed.entry

/-- The entry with a name. -/
def findByName? (index : IdentityIndex α) (name : String) : Option (Placed α) := do
  let position ← index.byName.get? name
  let entry ← index.entries[position]?
  return ⟨position, entry⟩

/-- The entry with an identifier. -/
def findById? (index : IdentityIndex α) (id : String) : Option (Placed α) := do
  let position ← index.byId.get? id
  let entry ← index.entries[position]?
  return ⟨position, entry⟩

end IdentityIndex

end CloudProvision
