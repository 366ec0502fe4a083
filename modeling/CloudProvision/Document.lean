import CloudProvision.Codec
import CloudProvision.Json.Printer
import CloudProvision.Json.Reader

/-!
# Documents

The states and configurations that a host hands over are JSON documents, given as bytes. A document
without bytes stands for `null`.
-/

namespace CloudProvision

/-- The value of JSON text. Parts that a reader skips need not stand for a value, but a text with
such a part is malformed rather than wrong elsewhere. -/
def Codec.read {α : Type} (codec : Codec α) (bytes : List UInt8) : Except DecodeError α :=
  match Json.read? bytes with
  | none => .error .malformed
  | some json =>
    match codec.decode json with
    | .ok x => .ok x
    | .error e => .error (if json.isReadable then e else .malformed)

/-- The bytes of a JSON document. -/
structure Document where
  bytes : List UInt8
  deriving DecidableEq

namespace Document

/-- The document with the given text. -/
def ofText (s : String) : Document :=
  ⟨s.toUTF8.toList⟩

/-- The document `null`. -/
def null : Document :=
  ofText "null"

/-- Whether the document is `null` or has no bytes. -/
def isNull (d : Document) : Bool :=
  d.bytes.isEmpty || d == null

/-- The text of the document. Bytes that are no text show as `null`. -/
def text (d : Document) : String :=
  (Text.Utf8.text? d.bytes).getD "null"

/-- The JSON text of the document. -/
def content (d : Document) : List UInt8 :=
  if d.bytes.isEmpty then null.bytes else d.bytes

/-- The JSON value of the document, none if it is not JSON. -/
def tree? (d : Document) : Option Json :=
  Json.read? d.content

/-- Whether the document is JSON all of whose parts can be read. -/
def isWellFormed (d : Document) : Bool :=
  d.tree?.any Json.isReadable

variable {α : Type}

/-- The value of the document. -/
def decode (codec : Codec α) (d : Document) : Except DecodeError α :=
  codec.read d.content

/-- The document of a value. -/
def encode (codec : Codec α) (x : α) : Document :=
  ofText (codec.encode x).render

end Document

end CloudProvision
