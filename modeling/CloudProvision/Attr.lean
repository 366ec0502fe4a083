/-!
# Attributes with three states

An attribute of a resource is a known value, no value, or a value that is only decided once the
plan has been applied. `Attr` is `Option` with this third state. A plan and a state are compared
through `Attr.changed`, which never calls an undecided value a difference and takes blank values
for no value.

## Main definitions

* `Attr`: the type.
* `Attr.normalized`: blank values become `null`.
* `Attr.changed`: whether a planned attribute differs from the one in the state.
-/

namespace CloudProvision

/-- An attribute of a resource. -/
inductive Attr (α : Type) where
  /-- The value is present. -/
  | known (value : α)
  /-- There is no value. -/
  | null
  /-- The value is decided when the plan is applied. -/
  | unknown
  deriving DecidableEq

/-- Values that a plan and a state can be compared on. -/
class Comparable (α : Type) where
  /-- A blank value stands for no value. -/
  blank : α → Bool
  /-- Whether two values are the same. -/
  same : α → α → Bool

instance : Comparable String := ⟨String.isEmpty, (· == ·)⟩
instance : Comparable Int := ⟨fun _ => false, (· == ·)⟩
instance : Comparable Bool := ⟨fun _ => false, (· == ·)⟩

namespace Attr

variable {α β : Type}

instance : Inhabited (Attr α) := ⟨null⟩

/-! ### Queries -/

/-- Whether the value is present. -/
def isKnown : Attr α → Bool
  | known _ => true
  | _ => false

/-- Whether there is no value. -/
def isNull : Attr α → Bool
  | null => true
  | _ => false

/-- Whether the value is undecided. -/
def isUnknown : Attr α → Bool
  | unknown => true
  | _ => false

/-- The value, if it is known. -/
def toOption : Attr α → Option α
  | known x => some x
  | _ => none

/-- The value, or `default` where none is known. -/
def getD (x : Attr α) (default : α) : α :=
  x.toOption.getD default

/-! ### Construction -/

/-- A known value or `null`. -/
def ofOption : Option α → Attr α
  | some x => known x
  | none => null

/-- Apply `f` to a known value. -/
def map (f : α → β) : Attr α → Attr β
  | known x => known (f x)
  | null => null
  | unknown => unknown

/-- `x`, or `y` where `x` is null. An unknown `x` stays unknown: it may become a value. -/
def orElse (x y : Attr α) : Attr α :=
  match x with
  | null => y
  | x => x

/-- The entries of a list attribute, none where no list is known. -/
def entries (xs : Attr (List α)) : List α :=
  xs.getD []

/-! ### Text attributes -/

/-- The text, empty where none is known. -/
def text (s : Attr String) : String :=
  s.getD ""

/-- The text as an optional field of a request: absent unless it is known and not empty. -/
def nonempty? : Attr String → Option String
  | known s => if s.isEmpty then none else some s
  | _ => none

/-- The attribute as a reader of a plan sees it. -/
def display : Attr String → String
  | known s => s
  | null => "null"
  | unknown => "(known after apply)"

/-- The attribute as shown in a trace, with `f` showing a known value. -/
def inspect (f : α → String) : Attr α → String
  | known x => f x
  | null => "Null"
  | unknown => "Unknown"

/-! ### Comparison -/

/-- The order of attributes: known values by their own order, then null, then unknown. -/
def order [Ord α] : Attr α → Attr α → Ordering
  | known x, known y => compare x y
  | known _, _ => .lt
  | _, known _ => .gt
  | null, null => .eq
  | null, unknown => .lt
  | unknown, null => .gt
  | unknown, unknown => .eq

variable [Comparable α]

/-- The attribute with a blank value replaced by `null`. -/
def normalized : Attr α → Attr α
  | known x => if Comparable.blank x then null else known x
  | x => x

/-- Whether the value is known and not blank. -/
def isPresent (x : Attr α) : Bool :=
  x.normalized.isKnown

/-- Whether two attributes are in the same state, with the same value if any. -/
def same : Attr α → Attr α → Bool
  | known x, known y => Comparable.same x y
  | null, null => true
  | unknown, unknown => true
  | _, _ => false

/-- Whether a planned attribute differs from the one in the state. Nothing can be said while
either side is undecided, and a blank value is no value. -/
def changed (plan state : Attr α) : Bool :=
  match plan.normalized, state.normalized with
  | unknown, _ => false
  | _, unknown => false
  | x, y => !x.same y

/-- The text of a present identity, absent where it is null, blank or unknown. -/
def key? (s : Attr String) : Option String :=
  s.normalized.toOption

end Attr

end CloudProvision
