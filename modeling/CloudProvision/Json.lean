import CloudProvision.Number.Binary64

/-!
# JSON values

The tree of a JSON document. Members of an object keep their order and their repetitions, and an
integer of 64 bits is told apart from a number with a fraction.
-/

namespace CloudProvision

/-- A JSON value. -/
inductive Json where
  | null
  | bool (value : Bool)
  /-- A whole number between `-2 ^ 63` and `2 ^ 64 - 1`. -/
  | integer (value : Int)
  | float (value : Binary64)
  | text (value : String)
  | array (items : List Json)
  | object (members : List (String × Json))
  /-- Well-formed text that stands for no value: a string with an invalid byte or half a
  surrogate pair, a number beyond the largest one, or an object with such a key. -/
  | unreadable

namespace Json

instance : Inhabited Json := ⟨null⟩

mutual

/-- Whether every part of the document can be read. -/
def isReadable : Json → Bool
  | .unreadable => false
  | .array items => areReadable items
  | .object members => areReadableMembers members
  | _ => true

/-- Whether every item can be read. -/
def areReadable : List Json → Bool
  | [] => true
  | item :: rest => item.isReadable && areReadable rest

/-- Whether every member can be read. -/
def areReadableMembers : List (String × Json) → Bool
  | [] => true
  | (_, value) :: rest => value.isReadable && areReadableMembers rest

end

end Json

end CloudProvision
