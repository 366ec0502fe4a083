import CloudProvision.Text.GraphemeExtend
import CloudProvision.Text.Invisible

/-!
# Quoted text

Text in double quotes for messages and paths. A character that cannot be read inside quotes is
written as an escape: the quote and the backslash, line breaks and tabs, and whatever has no glyph
or is drawn on the character before it.
-/

namespace CloudProvision.Text

/-- A code point in hexadecimal, in braces. -/
def codePointEscape (c : Char) : String :=
  "\\u\x7b" ++ String.ofList (Nat.toDigits 16 c.toNat) ++ "\x7d"

/-- One character inside quotes. -/
def quotedChar (c : Char) : String :=
  match c with
  | '\x00' => "\\0"
  | '\t' => "\\t"
  | '\n' => "\\n"
  | '\r' => "\\r"
  | '"' => "\\\""
  | '\\' => "\\\\"
  | c =>
    if ' ' ≤ c ∧ c ≤ '~' then c.toString
    else if isCombining c || isInvisible c then codePointEscape c
    else c.toString

/-- Text in double quotes. -/
def quoted (s : String) : String :=
  "\"" ++ String.join (s.toList.map quotedChar) ++ "\""

end CloudProvision.Text
