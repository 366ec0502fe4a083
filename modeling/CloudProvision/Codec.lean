import CloudProvision.Json
import CloudProvision.StringMap
import CloudProvision.Text.Quoted
import CloudProvision.Number.Integer64
import CloudProvision.Number.Shortest

/-!
# Codecs of JSON values

A `Codec` reads values of a type from JSON and writes them back. Attributes are written as their
value, as `null`, or as the sentinel text that stands for an undecided value of any type.

Reading stops at the first part that does not fit, in the order of the document, and `DecodeError`
says why.

## Main definitions

* `Codec.attr`: attributes, with the sentinel `Codec.undecided`.
* `Codec.list`, `Codec.map`: collections.
* `Codec.block`: an optional block, written as a list of at most one element.
-/

namespace CloudProvision

/-- What a JSON value looks like from outside. -/
inductive Shape where
  | boolean (value : Bool)
  | integer (value : Int)
  | float (value : Binary64)
  | text (value : String)
  | null
  | sequence
  | map
  deriving DecidableEq

/-- What a reader expects. -/
inductive Expectation where
  | text
  | integer
  | float
  | boolean
  | sequence
  | map
  /-- A record with a name. -/
  | record (name : String)
  deriving DecidableEq

/-- Why a document cannot be read. -/
inductive DecodeError where
  /-- The document is not JSON, or a part of it stands for no value. -/
  | malformed
  | unexpected (found : Shape) (expected : Expectation)
  /-- An integer beyond the range of its attribute. -/
  | integerRange (value : Int)
  /-- A field is given twice. -/
  | duplicateField (name : String)
  /-- An array has more elements than the record it is read into. -/
  | trailingElements
  /-- A block is given more than once. -/
  | severalBlocks
  deriving DecidableEq

/-- The text of a value in a message. -/
def Shape.message : Shape → String
  | boolean b => "boolean `" ++ toString b ++ "`"
  | integer n => "integer `" ++ toString n ++ "`"
  | float x => "floating point `" ++ x.text .document ++ "`"
  | text s => "string " ++ Text.quoted s
  | null => "null"
  | sequence => "sequence"
  | map => "map"

/-- The text of an expectation in a message. -/
def Expectation.message : Expectation → String
  | text => "a string"
  | integer => "i64"
  | float => "f64"
  | boolean => "a boolean"
  | sequence => "a sequence"
  | map => "a map"
  | record name => "struct " ++ name

/-- The text of an error. -/
def DecodeError.message : DecodeError → String
  | malformed => "malformed JSON"
  | unexpected found expected =>
    "invalid type: " ++ found.message ++ ", expected " ++ expected.message
  | integerRange n => "invalid value: integer `" ++ toString n ++ "`, expected i64"
  | duplicateField name => "duplicate field `" ++ name ++ "`"
  | trailingElements => "trailing characters"
  | severalBlocks => "Try to store multiple elements in a single Value"

/-- The shape of a value, none if it cannot be read. -/
def Json.shape? : Json → Option Shape
  | .null => some .null
  | .bool b => some (.boolean b)
  | .integer n => some (.integer n)
  | .float x => some (.float x)
  | .text s => some (.text s)
  | .array _ => some .sequence
  | .object _ => some .map
  | .unreadable => none

/-- The error of a value that is not what its reader expects. -/
def Json.mismatch (json : Json) (expected : Expectation) : DecodeError :=
  match json.shape? with
  | some found => .unexpected found expected
  | none => .malformed

/-- How values of a type are read from JSON and written. -/
structure Codec (α : Type) where
  decode : Json → Except DecodeError α
  encode : α → Json

namespace Codec

variable {α : Type}

/-- Texts. -/
def text : Codec String where
  decode
    | .text s => .ok s
    | json => .error (json.mismatch .text)
  encode := .text

/-- Whole numbers of 64 bits. A number with a fraction or an exponent is not whole. -/
def integer : Codec Int where
  decode
    | .integer n =>
      if Integer64.least ≤ n ∧ n ≤ Integer64.greatest then .ok n else .error (.integerRange n)
    | json => .error (json.mismatch .integer)
  encode := .integer

/-- Floating-point numbers, also written as integers. -/
def float : Codec Binary64 where
  decode
    | .float x => .ok x
    | .integer n =>
      match Binary64.ofInt? n with
      | some x => .ok x
      | none => .error .malformed
    | json => .error (json.mismatch .float)
  encode := .float

/-- Truth values. -/
def boolean : Codec Bool where
  decode
    | .bool b => .ok b
    | json => .error (json.mismatch .boolean)
  encode := .bool

/-- The text that stands for an undecided value of any type. -/
def undecided : String := "74D93920-ED26-11E3-AC10-0800200C9A66"

/-- Attributes. -/
def attr (codec : Codec α) : Codec (Attr α) where
  decode
    | .null => .ok .null
    | .text s => if s = undecided then .ok .unknown else .known <$> codec.decode (.text s)
    | json => .known <$> codec.decode json
  encode
    | .known x => codec.encode x
    | .null => .null
    | .unknown => .text undecided

/-- Lists. -/
def list (codec : Codec α) : Codec (List α) where
  decode
    | .array items => items.mapM codec.decode
    | json => .error (json.mismatch .sequence)
  encode xs := .array (xs.map codec.encode)

/-- Maps. The last member of a key wins. -/
def map (codec : Codec α) : Codec (StringMap α) where
  decode
    | .object members => do
      let entries ← members.mapM fun (key, value) => (key, ·) <$> codec.decode value
      return .ofList entries
    | json => .error (json.mismatch .map)
  encode m := .object (m.toList.map fun (key, value) => (key, codec.encode value))

/-- An optional block: a list of at most one element, which may itself be null or undecided. -/
def block (codec : Codec α) : Codec (Attr α) where
  decode json := do
    match ← (attr (list (attr codec))).decode json with
    | .null => return .null
    | .unknown => return .unknown
    | .known [] => return .null
    | .known [x] => return x
    | .known _ => throw .severalBlocks
  encode
    | .known x => .array [codec.encode x]
    | _ => .array []

end Codec

end CloudProvision
