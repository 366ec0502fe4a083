import CloudProvision.Number.Binary64

/-!
# The shortest decimal of a floating-point number

`Binary64.shortest` is the decimal with the fewest digits that reads back as the number, and the
nearest one among those; of two that are as near, a `Tie` says which. The decimals that read back
fill an interval around the number, with its ends if the significand is even. On each decimal grid
only the two neighbours of the number have to be tested, and the coarsest grid with a neighbour
inside the interval has the fewest digits.

`Binary64.text` lays the digits out; `Layout` holds the choices of a format.
-/

namespace CloudProvision

/-- The decimal `digits · 10 ^ exponent`. -/
structure Decimal where
  digits : Nat
  exponent : Int
  deriving DecidableEq

/-- Which of two neighbouring decimals stands for a number halfway between them. -/
inductive Tie where
  | toEven
  | awayFromZero
  deriving DecidableEq

/-- Whether a number halfway between `digits` and `digits + 1` moves to the latter. -/
def Tie.goesUp (tie : Tie) (digits : Nat) : Bool :=
  match tie with
  | .toEven => digits % 2 == 1
  | .awayFromZero => true

namespace Binary64

/-- Four times the absolute value and the ends of the interval that rounds to it, counted in the
smallest number. The interval is narrower below a power of two. -/
def interval (x : Binary64) : Nat × Nat × Nat :=
  let gap := Nat.pow 2 x.exponent
  let middle := 4 * x.magnitude
  let below := if x.significand = Nat.pow 2 52 ∧ 0 < x.exponent then gap else 2 * gap
  (middle - below, middle, middle + 2 * gap)

/-- The neighbour of `x` on the grid of multiples of `10 ^ exponent` that reads back as `x`: the
nearer one of two, and the one that the tie rule chooses of two that are as near. -/
def neighbour? (x : Binary64) (tie : Tie) (exponent : Int) : Option Decimal :=
  let (low, middle, high) := x.interval
  let step := 4 * unit * Nat.pow 10 exponent.toNat
  let scale := Nat.pow 10 (-exponent).toNat
  let inside (d : Nat) : Bool :=
    if d = 0 then false
    else if x.significand % 2 = 0 then low * scale ≤ d * step ∧ d * step ≤ high * scale
    else low * scale < d * step ∧ d * step < high * scale
  let d := middle * scale / step
  let upper := inside (d + 1)
  if inside d then
    let nearer := 2 * (middle * scale % step)
    if upper ∧ (step < nearer ∨ nearer = step ∧ tie.goesUp d) then some ⟨d + 1, exponent⟩
    else some ⟨d, exponent⟩
  else if upper then some ⟨d + 1, exponent⟩
  else none

/-- The shortest decimal that reads back as the absolute value of `x`, zero for a zero. -/
def shortest (x : Binary64) (tie : Tie) : Decimal :=
  let grids := (List.range 634).map fun i : Nat => 309 - (i : Int)
  if x.isZero then ⟨0, 0⟩ else (grids.findSome? (x.neighbour? tie)).getD ⟨0, 0⟩

end Binary64

/-- How the digits of a decimal are chosen and laid out. -/
structure Layout where
  /-- The choice between two decimals that are as near. -/
  tie : Tie
  /-- The least place of the point, counted from the first digit, that is written without an
  exponent. -/
  least : Option Int
  /-- The greatest such place. -/
  greatest : Option Int
  /-- What ends a whole number that is written without an exponent. -/
  whole : String

namespace Layout

/-- Numbers of a document: from 0.00001 up to 10 ^ 16 without an exponent, and always with a point
or an exponent. A half goes to the even neighbour. -/
def document : Layout := ⟨.toEven, some (-4), some 16, ".0"⟩

/-- Numbers of a message: never with an exponent, and with a point only where it is needed. A half
goes away from zero. -/
def plain : Layout := ⟨.awayFromZero, none, none, ""⟩

/-- `n` zeros. -/
def zeros (n : Nat) : String :=
  "".pushn '0' n

/-- The digits with a point after the first `place` of them. -/
def positional (layout : Layout) (digits : String) (place : Int) : String :=
  let length : Int := digits.length
  if place ≤ 0 then "0." ++ zeros (-place).toNat ++ digits
  else if length ≤ place then digits ++ zeros (place - length).toNat ++ layout.whole
  else
    let cs := digits.toList
    String.ofList (cs.take place.toNat) ++ "." ++ String.ofList (cs.drop place.toNat)

/-- The digits with a point after the first of them, and the exponent with its sign. -/
def scientific (digits : String) (place : Int) : String :=
  let mantissa := match digits.toList with
    | first :: second :: rest => String.ofList (first :: '.' :: second :: rest)
    | _ => digits
  let sign := if place < 1 then "-" else "+"
  mantissa ++ "e" ++ sign ++ toString (place - 1).natAbs

/-- The text of a decimal. -/
def write (layout : Layout) (x : Decimal) : String :=
  if x.digits = 0 then "0" ++ layout.whole
  else
    let digits := toString x.digits
    let place := digits.length + x.exponent
    let small := layout.least.any (place < ·)
    let large := layout.greatest.any (· < place)
    if small || large then scientific digits place else layout.positional digits place

end Layout

/-- The shortest text of a number that reads back as it. -/
def Binary64.text (x : Binary64) (layout : Layout) : String :=
  (if x.negative then "-" else "") ++ layout.write (x.shortest layout.tie)

end CloudProvision
