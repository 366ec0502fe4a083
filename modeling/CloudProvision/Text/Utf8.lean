/-!
# UTF-8

Bytes as characters. A byte that belongs to no encoded character stands for itself as `none`, so
that a reader can go on after it.
-/

namespace CloudProvision.Text.Utf8

/-- Whether a byte continues an encoded character. -/
def isTail (b : UInt8) : Bool :=
  0x80 ≤ b && b ≤ 0xbf

/-- The six bits of a continuation byte. -/
def tailBits (b : UInt8) : Nat :=
  b.toNat % 0x40

/-- The character that the two bytes encode. -/
def two? (a b : UInt8) : Option Char :=
  if 0xc2 ≤ a && a ≤ 0xdf && isTail b then
    some (Char.ofNat (a.toNat % 0x20 * 0x40 + tailBits b))
  else none

/-- The character that the three bytes encode: no shorter form and no surrogate. -/
def three? (a b c : UInt8) : Option Char :=
  let n := a.toNat % 0x10 * 0x1000 + tailBits b * 0x40 + tailBits c
  if 0xe0 ≤ a && a ≤ 0xef && isTail b && isTail c && 0x800 ≤ n
      && !(0xd800 ≤ n && n ≤ 0xdfff) then
    some (Char.ofNat n)
  else none

/-- The character that the four bytes encode: no shorter form and no code beyond the last. -/
def four? (a b c d : UInt8) : Option Char :=
  let n := a.toNat % 0x08 * 0x40000 + tailBits b * 0x1000 + tailBits c * 0x40 + tailBits d
  if 0xf0 ≤ a && a ≤ 0xf4 && isTail b && isTail c && isTail d && 0x10000 ≤ n
      && n ≤ 0x10ffff then
    some (Char.ofNat n)
  else none

/-- The character that starts with byte `a`, and how many of the bytes after `a` it takes. -/
def first (a : UInt8) (rest : List UInt8) : Option Char × Nat :=
  if a < 0x80 then (some (Char.ofNat a.toNat), 0)
  else
    let encoded : Option (Char × Nat) := match rest with
      | b :: c :: d :: _ =>
        (two? a b).map (·, 1) <|> (three? a b c).map (·, 2) <|> (four? a b c d).map (·, 3)
      | [b, c] => (two? a b).map (·, 1) <|> (three? a b c).map (·, 2)
      | [b] => (two? a b).map (·, 1)
      | [] => none
    match encoded with
    | some (x, n) => (some x, n)
    | none => (none, 0)

/-- The characters of the bytes, with `none` for each byte that is not part of one. -/
def decode : List UInt8 → List (Option Char)
  | [] => []
  | a :: rest => (first a rest).1 :: decode (rest.drop (first a rest).2)
termination_by bytes => bytes.length
decreasing_by simp only [List.length_drop, List.length_cons]; omega

/-- The text that the bytes encode, if they are nothing but encoded characters. -/
def text? (bytes : List UInt8) : Option String :=
  ((decode bytes).mapM id).map String.ofList

end CloudProvision.Text.Utf8
