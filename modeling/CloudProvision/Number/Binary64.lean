import CloudProvision.Attr

/-!
# Finite binary floating-point numbers

A `Binary64` is a finite number of the 64-bit binary format, as sign, significand and exponent
with exact integer arithmetic. Numbers are compared by value, so the two zeros are the same
number. `Binary64.ofDecimal` reads a decimal: its integer is rounded first, then each scaling by a
power of ten is rounded, always to the nearest number and to the even one of two.
-/

namespace CloudProvision

/-- The finite number `± significand · 2 ^ (exponent - 1074)`. The last field makes the
representation unique: only the smallest numbers have a short significand. -/
structure Binary64 where
  negative : Bool
  significand : Nat
  exponent : Nat
  significand_lt : significand < Nat.pow 2 53
  exponent_le : exponent ≤ 2045
  normal : exponent = 0 ∨ Nat.pow 2 52 ≤ significand
  deriving DecidableEq

namespace Binary64

/-- The weight of the last binary place of the smallest numbers is `1 / unit`. -/
def unit : Nat := Nat.pow 2 1074

/-- The absolute value, counted in the smallest positive number. -/
def magnitude (x : Binary64) : Nat :=
  x.significand * Nat.pow 2 x.exponent

/-- The value, counted in the smallest positive number. -/
def units (x : Binary64) : Int :=
  if x.negative then -(x.magnitude : Int) else x.magnitude

/-- Whether the number is one of the two zeros. -/
def isZero (x : Binary64) : Bool :=
  x.significand == 0

/-- The zero of the given sign. -/
def zero (negative : Bool) : Binary64 :=
  ⟨negative, 0, 0, by decide, by decide, .inl rfl⟩

instance : Inhabited Binary64 := ⟨zero false⟩

instance : LE Binary64 := ⟨fun x y => x.units ≤ y.units⟩

instance (x y : Binary64) : Decidable (x ≤ y) :=
  inferInstanceAs (Decidable (x.units ≤ y.units))

instance : Ord Binary64 := ⟨fun x y => compare x.units y.units⟩

instance : Comparable Binary64 := ⟨fun _ => false, fun x y => x.units == y.units⟩

/-! ### Rounding -/

/-- The integer nearest to `num / den`, the even one of two. -/
def roundDiv (num den : Nat) : Nat :=
  let quotient := num / den
  let twice := 2 * (num % den)
  if twice < den then quotient
  else if den < twice then quotient + 1
  else quotient + quotient % 2

/-- Significand and exponent of the number nearest to `num / den` smallest numbers. A significand
that rounds up to 54 bits moves to the next exponent. -/
def nearest (num den : Nat) : Nat × Nat :=
  let exponent := (num / den).log2 - 52
  let significand := roundDiv num (den * Nat.pow 2 exponent)
  if significand = Nat.pow 2 53 then (Nat.pow 2 52, exponent + 1) else (significand, exponent)

/-- The number nearest to `num / den` smallest numbers, none if it is beyond the largest one. -/
def ofQuotient? (negative : Bool) (num den : Nat) : Option Binary64 :=
  let (significand, exponent) := nearest num den
  if h : significand < Nat.pow 2 53 ∧ exponent ≤ 2045
      ∧ (exponent = 0 ∨ Nat.pow 2 52 ≤ significand) then
    some ⟨negative, significand, exponent, h.1, h.2.1, h.2.2⟩
  else
    none

/-- The number nearest to an integer. -/
def ofInt? (n : Int) : Option Binary64 :=
  ofQuotient? (n < 0) (n.natAbs * unit) 1

/-! ### Decimals -/

/-- The largest power of ten below the largest number. -/
def maxTenPower : Nat := 308

/-- The number nearest to `10 ^ k`, counted in the smallest number. -/
def tenPower (k : Nat) : Nat :=
  let (significand, exponent) := nearest (Nat.pow 10 k * unit) 1
  significand * Nat.pow 2 exponent

/-- `x / 10 ^ k`, rounded. -/
def divTenPower (x : Binary64) (k : Nat) : Binary64 :=
  (ofQuotient? x.negative (x.magnitude * unit) (tenPower k)).getD (zero x.negative)

/-- `x · 10 ^ k`, rounded, none if it is beyond the largest number. -/
def mulTenPower? (x : Binary64) (k : Nat) : Option Binary64 :=
  ofQuotient? x.negative (x.magnitude * tenPower k) unit

/-- `x / 10 ^ k` for any `k`, by the largest power of ten as long as it takes. -/
def shrink (x : Binary64) (k : Nat) : Binary64 :=
  if k ≤ maxTenPower then x.divTenPower k
  else if x.isZero then x
  else (x.divTenPower maxTenPower).shrink (k - maxTenPower)
termination_by k
decreasing_by simp only [maxTenPower] at *; omega

/-- The decimal `± digits · 10 ^ exponent`, none if it is beyond the largest number. -/
def ofDecimal? (negative : Bool) (digits : Nat) (exponent : Int) : Option Binary64 := do
  let x ← ofQuotient? negative (digits * unit) 1
  match exponent with
  | .negSucc k => return x.shrink (k + 1)
  | .ofNat k =>
    if k ≤ maxTenPower then x.mulTenPower? k
    else if x.isZero then return x
    else none

end Binary64

end CloudProvision
