import CloudProvision.Proofs.Json.Token
import Mathlib.Data.List.TakeWhile

/-!
# Numbers of written JSON

A number is written as a bare word. An integer is read back digit by digit; reading a
floating-point number rounds, so here its text is only shown to be one word.

## Main results

* `readWord_integer`: the text of an integer is read as the integer.
* `isWord_float`: the text of a floating-point number is a bare word.
-/

namespace CloudProvision.Json

/-! ### Integers -/

/-- The first digit of a positive number is not zero. -/
theorem head_toDigits {n : Nat} (h : 0 < n) : (Nat.toDigits 10 n).head? ≠ some '0' := by
  induction n using Nat.strong_induction_on with
  | _ n ih =>
      rcases Nat.lt_or_ge n 10 with small | large
      · rw [Nat.toDigits_of_lt_base small]
        interval_cases n <;> decide
      · rw [Nat.toDigits_of_base_le (by decide) large,
          List.head?_append_of_ne_nil _ Nat.toDigits_ne_nil]
        exact ih (n / 10) (by omega) (by omega)

/-- The value of the digits of a number is the number. -/
theorem digitsValue_toDigits (n : Nat) : digitsValue (Nat.toDigits 10 n) = n := by
  have h := Nat.ofDigitChars_ten_toDigits (n := n)
  rwa [Nat.ofDigitChars_eq_foldl] at h

/-- The digits of a number after an optional sign are a number without fraction and exponent. -/
theorem readNumberText_toDigits (negative : Bool) (n : Nat) :
    readNumberText (if negative then '-' :: Nat.toDigits 10 n else Nat.toDigits 10 n) =
      some ⟨negative, Nat.toDigits 10 n, [], none⟩ := by
  have digits (c : Char) (mem : c ∈ Nat.toDigits 10 n) : c.isDigit = true :=
    Nat.isDigit_of_mem_toDigits (by decide) (by decide) mem
  have whole : (Nat.toDigits 10 n).takeWhile Char.isDigit = Nat.toDigits 10 n :=
    List.takeWhile_eq_self_iff.2 digits
  have tail : (Nat.toDigits 10 n).dropWhile Char.isDigit = [] :=
    List.dropWhile_eq_nil_iff.2 digits
  have plain : ¬((Nat.toDigits 10 n).isEmpty || ((Nat.toDigits 10 n).length > 1 &&
      (Nat.toDigits 10 n).head? == some '0')) = true := by
    rcases Nat.eq_zero_or_pos n with rfl | positive
    · decide
    · simp [head_toDigits positive, Nat.toDigits_ne_nil]
  cases negative with
  | true => simp [readNumberText, whole, tail, plain, readTail]
  | false =>
      cases h : Nat.toDigits 10 n with
      | nil => exact absurd h Nat.toDigits_ne_nil
      | cons c more =>
          have not_sign : c ≠ '-' := by
            rintro rfl
            exact absurd (digits '-' (by simp [h])) (by decide)
          rw [h] at whole tail plain
          simpa [readNumberText, whole, tail, readTail, not_sign] using plain

/-- The text of an integer: its digits after an optional sign. -/
theorem toList_toString (n : Int) : (toString n).toList =
    if n < 0 then '-' :: Nat.toDigits 10 n.natAbs else Nat.toDigits 10 n.natAbs := by
  cases n with
  | ofNat m => simp [Int.toString_eq_repr, Int.repr, Nat.repr]
  | negSucc m => simp [Int.toString_eq_repr, Int.repr, Nat.repr]

/-- The text of an integer is a bare word. -/
theorem isWordChar_of_mem_toString {n : Int} {c : Char} (mem : c ∈ (toString n).toList) :
    isWordChar c = true := by
  have digit (mem : c ∈ Nat.toDigits 10 n.natAbs) : isWordChar c = true := by
    simp [isWordChar, Char.isAlphanum, Nat.isDigit_of_mem_toDigits (by decide) (by decide) mem]
  rw [toList_toString] at mem
  split at mem
  · rcases List.mem_cons.1 mem with rfl | mem
    · rfl
    · exact digit mem
  · exact digit mem

/-- The text of an integer of 64 bits is read as the integer. -/
theorem readWord_integer {n : Int} (low : Integer64.least ≤ n)
    (high : n ≤ Integer64.greatestUnsigned) :
    readWord (toString n).toList = some (.integer n) := by
  have number := readNumberText_toDigits (n < 0) n.natAbs
  simp only [decide_eq_true_eq] at number
  rw [← toList_toString] at number
  have literal (word : String) (h : readNumberText word.toList = none) :
      (toString n).toList ≠ word.toList := by
    intro eq
    rw [eq, h] at number
    cases number
  rw [readWord, if_neg (literal _ rfl), if_neg (literal _ rfl), if_neg (literal _ rfl), number,
    Option.map_some]
  simp only [NumberText.toJson, digitsValue_toDigits, List.isEmpty_nil, Option.isNone_none,
    Bool.and_self, if_true, decide_eq_true_eq]
  split
  · rw [if_pos (by omega), show -((n.natAbs : Nat) : Int) = n by omega]
  · rw [if_pos (by omega), show ((n.natAbs : Nat) : Int) = n by omega]

/-! ### Floating-point numbers -/

/-- A text that is part of a bare word. -/
def IsWord (s : String) : Prop :=
  ∀ c ∈ s.toList, isWordChar c = true

instance (s : String) : Decidable (IsWord s) :=
  decidable_of_iff (s.toList.all isWordChar = true) List.all_eq_true

theorem IsWord.append {s t : String} (hs : IsWord s) (ht : IsWord t) : IsWord (s ++ t) := by
  intro c mem
  rw [String.toList_append, List.mem_append] at mem
  exact mem.elim (hs c) (ht c)

theorem isWord_toString (n : Nat) : IsWord (toString n) := fun _ mem =>
  isWordChar_of_mem_toString (n := n) mem

theorem isWord_zeros (n : Nat) : IsWord (Layout.zeros n) := by
  unfold Layout.zeros String.pushn
  induction n with
  | zero => decide
  | succ n ih =>
      intro c mem
      rw [Nat.repeat, String.toList_push, List.mem_append, List.mem_singleton] at mem
      rcases mem with mem | rfl
      · exact ih c mem
      · rfl

/-- Part of a bare word is one. -/
theorem IsWord.of_subset {s : String} {cs : List Char} (h : IsWord s) (sub : cs ⊆ s.toList) :
    IsWord (String.ofList cs) := fun c mem => h c (sub (by simpa using mem))

/-- A number without an exponent is a bare word. -/
theorem isWord_positional {layout : Layout} {digits : String} (place : Int)
    (whole : IsWord layout.whole) (h : IsWord digits) :
    IsWord (layout.positional digits place) := by
  rw [Layout.positional]
  split
  · exact .append (.append (by decide) (isWord_zeros _)) h
  · split
    · exact .append (.append h (isWord_zeros _)) whole
    · exact .append (.append (h.of_subset (List.take_subset _ _)) (by decide))
        (h.of_subset (List.drop_subset _ _))

/-- A number with an exponent is a bare word. -/
theorem isWord_scientific {digits : String} (place : Int) (h : IsWord digits) :
    IsWord (Layout.scientific digits place) := by
  have sign : IsWord (if place < 1 then "-" else "+") := by split <;> decide
  refine .append (.append (.append ?_ (by decide)) sign) (isWord_toString _)
  split
  · rename_i first second rest eq
    intro c mem
    rw [String.toList_ofList, List.mem_cons, List.mem_cons] at mem
    rcases mem with rfl | rfl | mem
    · exact h c (by simp [eq])
    · rfl
    · exact h c (by simp [eq, mem])
  · exact h

/-- A written floating-point number is a bare word. -/
theorem isWord_float (x : Binary64) : IsWord (x.text .document) := by
  have sign : IsWord (if x.negative then "-" else "") := by split <;> decide
  refine .append sign ?_
  rw [Layout.write]
  split
  · decide
  · simp only []
    split
    · exact isWord_scientific _ (isWord_toString _)
    · exact isWord_positional _ (by decide) (isWord_toString _)

end CloudProvision.Json
