import CloudProvision.Json
import CloudProvision.Number.Integer64

/-!
# Tokens of a JSON document

`Token.scan` splits a document into punctuation and scalars, one character at a time. A string is
collected as pieces, because an escape can be half a character; `Piece.join` puts the halves
together. A bare word is a literal or a number.
-/

namespace CloudProvision.Json

/-- A piece of a string: a character, one 16-bit unit of an escaped character, or an invalid
byte. -/
inductive Piece where
  | char (value : Char)
  | unit (value : Nat)
  | invalid

/-- Whether a 16-bit unit is the first half of a pair. -/
def isHighSurrogate (u : Nat) : Bool :=
  0xd800 ≤ u && u < 0xdc00

/-- Whether a 16-bit unit is the second half of a pair. -/
def isLowSurrogate (u : Nat) : Bool :=
  0xdc00 ≤ u && u < 0xe000

/-- The characters of the pieces, none if a piece is invalid or half a pair stands alone. -/
def Piece.join : List Piece → Option (List Char)
  | [] => some []
  | .char c :: rest => (c :: ·) <$> join rest
  | .invalid :: _ => none
  | .unit high :: .unit low :: rest =>
    if isHighSurrogate high then
      if isLowSurrogate low then
        (Char.ofNat (0x10000 + (high - 0xd800) * 0x400 + (low - 0xdc00)) :: ·) <$> join rest
      else none
    else if isLowSurrogate high then none
    else (Char.ofNat high :: ·) <$> join (.unit low :: rest)
  | .unit u :: rest =>
    if isHighSurrogate u || isLowSurrogate u then none else (Char.ofNat u :: ·) <$> join rest

/-- A token. -/
inductive Token where
  | openArray
  | closeArray
  | openObject
  | closeObject
  | comma
  | colon
  /-- A string, none if it cannot be read. -/
  | string (value : Option String)
  /-- A literal or a number. -/
  | scalar (value : Json)

/-! ### Numbers -/

/-- The value of decimal digits. -/
def digitsValue (digits : List Char) : Nat :=
  digits.foldl (fun n c => 10 * n + (c.toNat - '0'.toNat)) 0

/-- Append digits to a significand while it fits into 64 bits, and return the digits left over. -/
def takeDigits (significand : Nat) : List Char → Nat × List Char
  | [] => (significand, [])
  | c :: rest =>
    let next := 10 * significand + (c.toNat - '0'.toNat)
    if next ≤ Integer64.greatestUnsigned then takeDigits next rest else (significand, c :: rest)

/-- The parts of a number. -/
structure NumberText where
  negative : Bool
  whole : List Char
  fraction : List Char
  exponent : Option Int

/-- The exponent after its mark: a sign and digits. -/
def readExponent : List Char → Option Int
  | '-' :: digits => if digits.isEmpty || !digits.all Char.isDigit then none
      else some (-(digitsValue digits : Int))
  | '+' :: digits => if digits.isEmpty || !digits.all Char.isDigit then none
      else some (digitsValue digits)
  | digits => if digits.isEmpty || !digits.all Char.isDigit then none
      else some (digitsValue digits)

/-- What follows the whole part of a number: a fraction, an exponent, or both. -/
def readTail : List Char → Option (List Char × Option Int)
  | [] => some ([], none)
  | '.' :: rest =>
    let fraction := rest.takeWhile Char.isDigit
    if fraction.isEmpty then none
    else match rest.dropWhile Char.isDigit with
      | [] => some (fraction, none)
      | mark :: exponent =>
        if mark = 'e' ∨ mark = 'E' then (readExponent exponent).map (fraction, some ·) else none
  | mark :: exponent =>
    if mark = 'e' ∨ mark = 'E' then (readExponent exponent).map ([], some ·) else none

/-- The parts of a number. The whole part has no superfluous zero. -/
def readNumberText (cs : List Char) : Option NumberText := do
  let (negative, cs) := match cs with
    | '-' :: rest => (true, rest)
    | cs => (false, cs)
  let whole := cs.takeWhile Char.isDigit
  if whole.isEmpty || (whole.length > 1 && whole.head? == some '0') then none
  let (fraction, exponent) ← readTail (cs.dropWhile Char.isDigit)
  return ⟨negative, whole, fraction, exponent⟩

/-- The floating-point number: as many digits as fit into 64 bits, scaled by what follows. -/
def NumberText.toFloat (x : NumberText) : Json :=
  let (significand, dropped) := takeDigits 0 x.whole
  let (significand, rest) := takeDigits significand x.fraction
  let places : Int := (x.fraction.length - rest.length : Nat)
  match Binary64.ofDecimal? x.negative significand
      (dropped.length - places + x.exponent.getD 0) with
  | some value => .float value
  | none => .unreadable

/-- The number: an integer if it has neither fraction nor exponent and fits into 64 bits. The
negative zero is not an integer. -/
def NumberText.toJson (x : NumberText) : Json :=
  if x.fraction.isEmpty && x.exponent.isNone then
    let n := digitsValue x.whole
    if x.negative then
      if 0 < n ∧ Integer64.least ≤ -(n : Int) then .integer (-(n : Int)) else x.toFloat
    else if n ≤ Integer64.greatestUnsigned then .integer n
    else x.toFloat
  else x.toFloat

/-- The literal or number that a bare word spells. -/
def readWord (cs : List Char) : Option Json :=
  if cs = "null".toList then some .null
  else if cs = "true".toList then some (.bool true)
  else if cs = "false".toList then some (.bool false)
  else (readNumberText cs).map NumberText.toJson

/-! ### Scanning -/

/-- Where a scan stands. Pieces and characters are collected last first. -/
inductive ScanMode where
  /-- Between tokens. -/
  | between
  /-- Inside a string. -/
  | string (pieces : List Piece)
  /-- After a backslash. -/
  | escape (pieces : List Piece)
  /-- Inside a numeric escape, with the digits still to come. -/
  | unit (pieces : List Piece) (left : Nat) (value : Nat)
  /-- Inside a bare word. -/
  | word (letters : List Char)

/-- Whether a character can be part of a bare word. -/
def isWordChar (c : Char) : Bool :=
  c.isAlphanum || c == '-' || c == '+' || c == '.'

/-- The value of a hexadecimal digit. -/
def hexValue? (c : Char) : Option Nat :=
  if '0' ≤ c ∧ c ≤ '9' then some (c.toNat - '0'.toNat)
  else if 'a' ≤ c ∧ c ≤ 'f' then some (c.toNat - 'a'.toNat + 10)
  else if 'A' ≤ c ∧ c ≤ 'F' then some (c.toNat - 'A'.toNat + 10)
  else none

/-- The character of an escape of one letter. -/
def escaped? : Char → Option Char
  | '"' => some '"'
  | '\\' => some '\\'
  | '/' => some '/'
  | 'b' => some '\x08'
  | 'f' => some '\x0c'
  | 'n' => some '\n'
  | 'r' => some '\r'
  | 't' => some '\t'
  | _ => none

/-- What a character does between tokens: the token that it is, if any, and where the scan goes
on. -/
def startToken (c : Char) : Option (Option Token × ScanMode) :=
  match c with
  | ' ' | '\t' | '\n' | '\r' => some (none, .between)
  | '[' => some (some .openArray, .between)
  | ']' => some (some .closeArray, .between)
  | '\x7b' => some (some .openObject, .between)
  | '\x7d' => some (some .closeObject, .between)
  | ',' => some (some .comma, .between)
  | ':' => some (some .colon, .between)
  | '"' => some (none, .string [])
  | c => if isWordChar c then some (none, .word [c]) else none

/-- The string that the collected pieces make. -/
def stringToken (pieces : List Piece) : Token :=
  .string ((Piece.join pieces.reverse).map String.ofList)

/-- The tokens of a document, none if it holds something else. -/
def Token.scan : ScanMode → List (Option Char) → Option (List Token)
  | .between, [] => some []
  | .word letters, [] => do
    let value ← readWord letters.reverse
    return [.scalar value]
  | _, [] => none
  | .between, none :: _ => none
  | .between, some c :: rest => do
    let (token, mode) ← startToken c
    return token.toList ++ (← scan mode rest)
  | .word _, none :: _ => none
  | .word letters, some c :: rest =>
    if isWordChar c then scan (.word (c :: letters)) rest
    else do
      let value ← readWord letters.reverse
      let (token, mode) ← startToken c
      return .scalar value :: token.toList ++ (← scan mode rest)
  | .string pieces, none :: rest => scan (.string (.invalid :: pieces)) rest
  | .string pieces, some c :: rest =>
    if c = '"' then do return stringToken pieces :: (← scan .between rest)
    else if c = '\\' then scan (.escape pieces) rest
    else if c < ' ' then none
    else scan (.string (.char c :: pieces)) rest
  | .escape _, none :: _ => none
  | .escape pieces, some c :: rest =>
    if c = 'u' then scan (.unit pieces 4 0) rest
    else do
      let value ← escaped? c
      scan (.string (.char value :: pieces)) rest
  | .unit _ _ _, none :: _ => none
  | .unit pieces left value, some c :: rest => do
    let digit ← hexValue? c
    let value := value * 16 + digit
    if left ≤ 1 then scan (.string (.unit value :: pieces)) rest
    else scan (.unit pieces (left - 1) value) rest

end CloudProvision.Json
