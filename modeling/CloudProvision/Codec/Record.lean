import CloudProvision.Codec

/-!
# Codecs of records

A record is written as an object with all its fields. It is read from an object, whose members may
come in any order, or from an array of its fields in their own order. A field that is not given
keeps its value in the blank record, and members that are no field are skipped whatever they hold.
-/

namespace CloudProvision

/-- A field of a record: its name, how it is written, and how reading it changes the record. -/
structure Field (α : Type) where
  name : String
  encode : α → Json
  decode : Json → α → Except DecodeError α

namespace Field

variable {α β : Type}

/-- A field with its own codec. -/
def of (name : String) (codec : Codec β) (get : α → β) (set : β → α → α) : Field α where
  name := name
  encode x := codec.encode (get x)
  decode json x := (set · x) <$> codec.decode json

/-- Read the members of an object into a record, given the fields that were read before. -/
def readMembers (fields : List (Field α)) :
    List (String × Json) → List String → α → Except DecodeError α
  | [], _, x => .ok x
  | (key, value) :: rest, seen, x =>
    match fields.find? (·.name == key) with
    | none => readMembers fields rest seen x
    | some field =>
      if key ∈ seen then .error (.duplicateField key)
      else do readMembers fields rest (key :: seen) (← field.decode value x)

/-- Read the elements of an array into a record. -/
def readItems : List (Field α) → List Json → α → Except DecodeError α
  | _, [], x => .ok x
  | [], _ :: _, _ => .error .trailingElements
  | field :: fields, item :: items, x => do readItems fields items (← field.decode item x)

end Field

/-- The codec of the record with this name, these fields and this blank record. -/
def Codec.record {α : Type} (name : String) (fields : List (Field α)) (blank : α) : Codec α where
  decode
    | .object members => Field.readMembers fields members [] blank
    | .array items => Field.readItems fields items blank
    | json => .error (json.mismatch (.record name))
  encode x := .object (fields.map fun field => (field.name, field.encode x))

end CloudProvision
