import CloudProvision.Json.Token
import CloudProvision.Text.Utf8

/-!
# Reading JSON

`Json.read?` reads the bytes of a document. The reader goes through the tokens once, with the
arrays and objects that are still open on a stack, so nesting has no limit.
-/

namespace CloudProvision.Json

/-- An array or object that is still open, its parts last first. The keys of an object are absent
where they cannot be read. -/
inductive Frame where
  | array (items : List Json)
  | object (members : List (Option String × Json))
  /-- An object whose last key still waits for its value. -/
  | member (key : Option String) (members : List (Option String × Json))

/-- What a reader waits for. -/
inductive Wanted where
  | value
  | valueOrClose
  | key
  | keyOrClose
  | colon
  /-- A comma, the end of the innermost array or object, or the end of the document. -/
  | separator

/-- A reader between two tokens. The result is the document once it is complete. -/
structure ReaderState where
  wanted : Wanted
  stack : List Frame
  result : Option Json

/-- The object of the collected members, unreadable if one of the keys is. -/
def ofMembers (members : List (Option String × Json)) : Json :=
  match members.reverse.mapM fun (key, value) => key.map (·, value) with
  | some members => .object members
  | none => .unreadable

namespace ReaderState

/-- The state at the start of a document. -/
def start : ReaderState := ⟨.value, [], none⟩

/-- Put a complete value where it belongs. -/
def put (value : Json) : List Frame → ReaderState
  | [] => ⟨.separator, [], some value⟩
  | .array items :: stack => ⟨.separator, .array (value :: items) :: stack, none⟩
  | .member key members :: stack => ⟨.separator, .object ((key, value) :: members) :: stack, none⟩
  | .object members :: stack => ⟨.separator, .object members :: stack, none⟩

/-- Read one token. -/
def step (s : ReaderState) (token : Token) : Option ReaderState :=
  match s.wanted, token, s.stack with
  | .value, .openArray, stack | .valueOrClose, .openArray, stack =>
    some ⟨.valueOrClose, .array [] :: stack, none⟩
  | .value, .openObject, stack | .valueOrClose, .openObject, stack =>
    some ⟨.keyOrClose, .object [] :: stack, none⟩
  | .value, .scalar value, stack | .valueOrClose, .scalar value, stack =>
    some (put value stack)
  | .value, .string value, stack | .valueOrClose, .string value, stack =>
    some (put ((value.map Json.text).getD .unreadable) stack)
  | .valueOrClose, .closeArray, .array items :: stack
  | .separator, .closeArray, .array items :: stack =>
    some (put (.array items.reverse) stack)
  | .key, .string key, .object members :: stack
  | .keyOrClose, .string key, .object members :: stack =>
    some ⟨.colon, .member key members :: stack, none⟩
  | .keyOrClose, .closeObject, .object members :: stack
  | .separator, .closeObject, .object members :: stack =>
    some (put (ofMembers members) stack)
  | .colon, .colon, stack => some ⟨.value, stack, none⟩
  | .separator, .comma, .array items :: stack => some ⟨.value, .array items :: stack, none⟩
  | .separator, .comma, .object members :: stack => some ⟨.key, .object members :: stack, none⟩
  | _, _, _ => none

end ReaderState

/-- The document of the tokens. -/
def ofTokens? (tokens : List Token) : Option Json := do
  let s ← tokens.foldlM ReaderState.step .start
  s.result

/-- Read a document, none if it is not JSON. -/
def read? (bytes : List UInt8) : Option Json := do
  ofTokens? (← Token.scan .between (Text.Utf8.decode bytes))

end CloudProvision.Json
