import CloudProvision.Number.Binary64

/-!
# Comparing attributes

The queries of a text attribute all look at its key, and an attribute does not differ from what a
request makes of it.

## Main results

* `Attr.key?_eq_some_iff`: the texts that have a key.
* `Attr.changed_text`, `Attr.changed_nonempty?`, `Attr.changed_toOption`, `Attr.changed_getD`: an
  attribute that has been sent and read back has not changed.
-/

namespace CloudProvision

namespace Attr

theorem toOption_eq_some_iff {α : Type} {x : Attr α} {v : α} :
    x.toOption = some v ↔ x = known v := by
  cases x <;> simp [toOption]

theorem isUnknown_iff {α : Type} {x : Attr α} : x.isUnknown = true ↔ x = unknown := by
  cases x <;> simp [isUnknown]

@[simp] theorem isUnknown_ofOption {α : Type} (x : Option α) :
    (ofOption x).isUnknown = false := by
  cases x <;> rfl

/-! ### Keys -/

variable {s : Attr String} {k : String}

@[simp] theorem key?_null : (null : Attr String).key? = none := rfl

@[simp] theorem key?_unknown : (unknown : Attr String).key? = none := rfl

theorem key?_known (s : String) : (known s).key? = if s.isEmpty then none else some s := by
  rw [key?, normalized]
  change (if s.isEmpty then null else known s).toOption = _
  split <;> rfl

/-- The key of a text is the text, and blank texts have none. -/
theorem key?_eq_some_iff : s.key? = some k ↔ s = known k ∧ k.isEmpty = false := by
  cases s with
  | known t =>
      rw [key?_known]
      by_cases blank : t.isEmpty
      · simp only [blank, if_true, reduceCtorEq, known.injEq, false_iff, not_and]
        rintro rfl
        simp [blank]
      · simp only [blank, Bool.false_eq_true, if_false, Option.some.injEq, known.injEq]
        exact ⟨fun h => ⟨h, h ▸ by simpa using blank⟩, fun h => h.1⟩
  | null => simp
  | unknown => simp

/-- The key of a text that is not blank. -/
theorem key?_of_not_isEmpty (h : k.isEmpty = false) : (known k).key? = some k :=
  key?_eq_some_iff.2 ⟨rfl, h⟩

/-- A text is sent with its key. -/
theorem key?_known_text (s : Attr String) : (known s.text).key? = s.key? := by
  cases s with
  | known t => rfl
  | null => rfl
  | unknown => rfl

/-- What a required field of a request holds is the key, or nothing. -/
theorem text_eq_key? (s : Attr String) : s.text = s.key?.getD "" := by
  cases s with
  | known t =>
      rw [key?_known]
      split
      · next blank => exact String.isEmpty_iff.1 blank
      · rfl
  | null => rfl
  | unknown => rfl

/-- What an optional field of a request holds is the key. -/
theorem nonempty?_eq_key? (s : Attr String) : s.nonempty? = s.key? := by
  cases s with
  | known t => rw [key?_known, nonempty?]
  | null => rfl
  | unknown => rfl

/-- A text is present if it has a key. -/
theorem isPresent_eq (s : Attr String) : s.isPresent = s.key?.isSome := by
  rw [isPresent, key?]
  cases s.normalized <;> rfl

end Attr

/-! ### Differences -/

/-- Types on which every value is the same as itself. -/
class LawfulComparable (α : Type) [Comparable α] : Prop where
  same_self : ∀ x : α, Comparable.same x x = true

instance : LawfulComparable String := ⟨fun x => beq_self_eq_true x⟩
instance : LawfulComparable Int := ⟨fun x => beq_self_eq_true x⟩
instance : LawfulComparable Bool := ⟨fun x => beq_self_eq_true x⟩
instance : LawfulComparable Binary64 := ⟨fun x => beq_self_eq_true x.units⟩

/-- Types on which only equal values are the same. -/
class ExactComparable (α : Type) [Comparable α] : Prop where
  eq_of_same : ∀ x y : α, Comparable.same x y = true → x = y

instance : ExactComparable String := ⟨fun _ _ h => beq_iff_eq.1 h⟩
instance : ExactComparable Int := ⟨fun _ _ h => beq_iff_eq.1 h⟩
instance : ExactComparable Bool := ⟨fun _ _ h => beq_iff_eq.1 h⟩

namespace Attr

variable {α : Type} [Comparable α]

/-- Only what is undecided is so without blanks. -/
theorem isUnknown_normalized (x : Attr α) : x.normalized.isUnknown = x.isUnknown := by
  cases x with
  | known v =>
      rw [normalized]
      split <;> rfl
  | null => rfl
  | unknown => rfl

/-- Decided attributes that do not differ are equal up to blanks. -/
theorem normalized_eq_of_changed_eq_false [ExactComparable α] {x y : Attr α}
    (hx : x.isUnknown = false) (hy : y.isUnknown = false) (h : x.changed y = false) :
    x.normalized = y.normalized := by
  have decided {z : Attr α} (hz : z.isUnknown = false) : z.normalized ≠ unknown := fun same => by
    rw [← isUnknown_normalized, same] at hz
    cases hz
  rw [changed] at h
  rcases hx' : x.normalized with u | _ | _
  · rcases hy' : y.normalized with v | _ | _
    · rw [hx', hy'] at h
      exact congrArg known (ExactComparable.eq_of_same _ _ (by simpa [same] using h))
    · rw [hx', hy'] at h
      cases h
    · exact absurd hy' (decided hy)
  · rcases hy' : y.normalized with v | _ | _
    · rw [hx', hy'] at h
      cases h
    · rfl
    · exact absurd hy' (decided hy)
  · exact absurd hx' (decided hx)

/-- Decided texts that do not differ have the same key. -/
theorem key?_eq_of_changed_eq_false {s t : Attr String} (hs : s.isUnknown = false)
    (ht : t.isUnknown = false) (h : s.changed t = false) : s.key? = t.key? := by
  rw [key?, key?, normalized_eq_of_changed_eq_false hs ht h]

/-- A decided text that does not differ from one that is not blank is this text. -/
theorem eq_of_changed_eq_false {s : Attr String} {k : String} (decided : s.isUnknown = false)
    (filled : k.isEmpty = false) (h : s.changed (known k) = false) : s = known k := by
  have same := key?_eq_of_changed_eq_false decided rfl h
  exact (key?_eq_some_iff.1 (same.trans (key?_of_not_isEmpty filled))).1

/-- A decided text that does not differ from another one is sent as this text. -/
theorem text_eq_of_changed_eq_false {s : Attr String} {t : String}
    (decided : s.isUnknown = false) (h : s.changed (known t) = false) : t = s.text := by
  calc t = (known t).key?.getD "" := text_eq_key? (known t)
    _ = s.key?.getD "" := by rw [key?_eq_of_changed_eq_false decided rfl h]
    _ = s.text := (text_eq_key? s).symm

/-- A decided optional text is read back as it was sent, up to blanks. -/
theorem normalized_nonempty? {s : Attr String} (decided : s.isUnknown = false) :
    (ofOption s.nonempty?).normalized = s.normalized := by
  cases s with
  | known t =>
      rw [nonempty?]
      split
      · next blank => rw [String.isEmpty_iff.1 blank]; rfl
      · rfl
  | null => rfl
  | unknown => cases decided

variable [LawfulComparable α]

/-- Attributes that are equal up to blanks do not differ. -/
theorem changed_of_normalized_eq {x y : Attr α} (h : x.normalized = y.normalized) :
    x.changed y = false := by
  rw [changed, h]
  rcases y.normalized with v | _ | _
  · simp [same, LawfulComparable.same_self]
  · rfl
  · rfl

/-- Nothing differs from itself. -/
@[simp] theorem changed_self (x : Attr α) : x.changed x = false :=
  changed_of_normalized_eq rfl

/-- A text is read back as it was sent. -/
theorem changed_text (s : Attr String) : s.changed (.known s.text) = false := by
  cases s with
  | known t => exact changed_self _
  | null => rfl
  | unknown => rfl

/-- An optional text is read back as it was sent. -/
theorem changed_nonempty? (s : Attr String) : s.changed (.ofOption s.nonempty?) = false := by
  cases s with
  | known t =>
      rw [nonempty?]
      split
      · next blank => rw [String.isEmpty_iff.1 blank]; rfl
      · exact changed_self _
  | null => rfl
  | unknown => rfl

/-- An optional value is read back as it was sent. -/
theorem changed_toOption (x : Attr α) : x.changed (.ofOption x.toOption) = false := by
  cases x with
  | known v => exact changed_self _
  | null => rfl
  | unknown => rfl

/-- A value that is not left out is read back as it was sent. -/
theorem changed_getD {x : Attr α} (h : x.isNull = false) (default : α) :
    x.changed (.known (x.getD default)) = false := by
  cases x with
  | known v => exact changed_self _
  | null => cases h
  | unknown => rfl

end Attr

end CloudProvision
