import CloudProvision.Text.Utf8
import Mathlib.Data.UInt

/-!
# Characters of encoded text

The bytes of a text are read as its characters, and none of them is taken for an invalid byte.

## Main results

* `decode_append`: an encoded character is read as the character.
* `decode_toUTF8`: the characters of the bytes of a text.
-/

namespace CloudProvision.Text.Utf8

/-! ### Bytes -/

/-- A byte with a small number. -/
theorem toNat_ofNat {n : Nat} (h : n < 0x100) : (UInt8.ofNat n).toNat = n :=
  UInt8.toNat_ofNat_of_lt' h

/-- The six bits of a continuation byte are its number. -/
theorem tail_ofNat {n : Nat} (h : n < 0x40) :
    isTail (UInt8.ofNat (n + 0x80)) = true ∧ tailBits (UInt8.ofNat (n + 0x80)) = n := by
  have byte : (UInt8.ofNat (n + 0x80)).toNat = n + 0x80 := toNat_ofNat (by omega)
  constructor
  · simp only [isTail, Bool.and_eq_true, decide_eq_true_eq, UInt8.le_iff_toNat_le, byte]
    exact ⟨Nat.le_add_left .., by change _ ≤ 0xbf; omega⟩
  · rw [tailBits, byte]
    omega

/-! ### Characters -/

variable {a b c d : UInt8} {x : Char} {rest : List UInt8}

/-- A byte of its own. -/
theorem first_one (h : a < 0x80) : first a rest = (some (Char.ofNat a.toNat), 0) := by
  simp [first, h]

/-- Two bytes that encode a character. -/
theorem first_two (h : ¬a < 0x80) (two : two? a b = some x) :
    first a (b :: rest) = (some x, 1) := by
  rcases rest with _ | ⟨_, _ | ⟨_, _⟩⟩ <;> simp [first, h, two]

/-- Three bytes that encode a character. -/
theorem first_three (h : ¬a < 0x80) (two : two? a b = none) (three : three? a b c = some x) :
    first a (b :: c :: rest) = (some x, 2) := by
  rcases rest with _ | ⟨_, _⟩ <;> simp [first, h, two, three]

/-- Four bytes that encode a character. -/
theorem first_four (h : ¬a < 0x80) (two : two? a b = none) (three : three? a b c = none)
    (four : four? a b c d = some x) : first a (b :: c :: d :: rest) = (some x, 3) := by
  simp [first, h, two, three, four]

/-- The number of a character is no surrogate and not beyond the last one. -/
theorem toNat_valid (x : Char) : x.toNat < 0xd800 ∨ 0xdfff < x.toNat ∧ x.toNat < 0x110000 :=
  x.valid

/-- Two bytes in their ranges encode a character. -/
theorem two?_eq_some (lead : 0xc2 ≤ a.toNat ∧ a.toNat ≤ 0xdf) (tail : isTail b = true)
    (code : a.toNat % 0x20 * 0x40 + tailBits b = x.toNat) : two? a b = some x := by
  have low : (0xc2 : UInt8) ≤ a := UInt8.le_iff_toNat_le.2 lead.1
  have high : a ≤ (0xdf : UInt8) := UInt8.le_iff_toNat_le.2 lead.2
  simp [two?, low, high, tail, code]

/-- A later byte leads no two bytes. -/
theorem two?_eq_none (lead : 0xdf < a.toNat) : two? a b = none := by
  have high : ¬a ≤ (0xdf : UInt8) := fun h => Nat.not_lt.2 (UInt8.le_iff_toNat_le.1 h) lead
  simp [two?, high]

/-- Three bytes in their ranges encode a character. -/
theorem three?_eq_some (lead : 0xe0 ≤ a.toNat ∧ a.toNat ≤ 0xef) (tail : isTail b = true)
    (tail' : isTail c = true)
    (code : a.toNat % 0x10 * 0x1000 + tailBits b * 0x40 + tailBits c = x.toNat)
    (long : 0x800 ≤ x.toNat) : three? a b c = some x := by
  have low : (0xe0 : UInt8) ≤ a := UInt8.le_iff_toNat_le.2 lead.1
  have high : a ≤ (0xef : UInt8) := UInt8.le_iff_toNat_le.2 lead.2
  have valid : 0xd800 ≤ x.toNat → 0xdfff < x.toNat := fun h =>
    (toNat_valid x).elim (fun lt => absurd h (Nat.not_le.2 lt)) And.left
  simpa [three?, low, high, tail, tail', code, long] using valid

/-- A later byte leads no three bytes. -/
theorem three?_eq_none (lead : 0xef < a.toNat) : three? a b c = none := by
  have high : ¬a ≤ (0xef : UInt8) := fun h => Nat.not_lt.2 (UInt8.le_iff_toNat_le.1 h) lead
  simp [three?, high]

/-- Four bytes in their ranges encode a character. -/
theorem four?_eq_some (lead : 0xf0 ≤ a.toNat ∧ a.toNat ≤ 0xf4) (tail : isTail b = true)
    (tail' : isTail c = true) (tail'' : isTail d = true)
    (code : a.toNat % 0x08 * 0x40000 + tailBits b * 0x1000 + tailBits c * 0x40 + tailBits d =
      x.toNat)
    (long : 0x10000 ≤ x.toNat) : four? a b c d = some x := by
  have low : (0xf0 : UInt8) ≤ a := UInt8.le_iff_toNat_le.2 lead.1
  have high : a ≤ (0xf4 : UInt8) := UInt8.le_iff_toNat_le.2 lead.2
  have valid : x.toNat ≤ 0x10ffff := by
    have := toNat_valid x
    omega
  simp [four?, low, high, tail, tail', tail'', code, long, valid]

/-- A byte that leads several stands for no character of its own. -/
theorem not_lt_of_lead (lead : 0x80 ≤ a.toNat) : ¬a < 0x80 :=
  fun h => Nat.not_lt.2 lead (UInt8.lt_iff_toNat_lt.1 h)

/-- An encoded character is read as the character, whatever follows. -/
theorem decode_append (x : Char) (rest : List UInt8) :
    decode (String.utf8EncodeChar x ++ rest) = some x :: decode rest := by
  have valid := toNat_valid x
  have code : x.val.toNat = x.toNat := rfl
  fun_cases String.utf8EncodeChar x with
  | case1 v h =>
      simp only [v, code] at h ⊢
      have byte : (UInt8.ofNat x.toNat).toNat = x.toNat := toNat_ofNat (by omega)
      have one : UInt8.ofNat x.toNat < 0x80 := UInt8.lt_iff_toNat_lt.2 (by
        rw [byte]
        exact Nat.lt_succ_of_le h)
      rw [List.singleton_append, decode, first_one one, byte, Char.ofNat_toNat, List.drop_zero]
  | case2 v h h' =>
      simp only [v, code] at h h' ⊢
      have lead : (UInt8.ofNat (x.toNat / 64 % 32 + 192)).toNat = x.toNat / 64 % 32 + 192 :=
        toNat_ofNat (by omega)
      have tail := tail_ofNat (n := x.toNat % 64) (by omega)
      have two : two? (UInt8.ofNat (x.toNat / 64 % 32 + 192)) (UInt8.ofNat (x.toNat % 64 + 128)) =
          some x :=
        two?_eq_some (by omega) tail.1 (by rw [tail.2, lead]; omega)
      rw [List.cons_append, List.singleton_append, decode,
        first_two (not_lt_of_lead (by omega)) two]
      rfl
  | case3 v h h' h'' =>
      simp only [v, code] at h h' h'' ⊢
      have lead : (UInt8.ofNat (x.toNat / 4096 % 16 + 224)).toNat = x.toNat / 4096 % 16 + 224 :=
        toNat_ofNat (by omega)
      have tail := tail_ofNat (n := x.toNat / 64 % 64) (by omega)
      have tail' := tail_ofNat (n := x.toNat % 64) (by omega)
      have three : three? (UInt8.ofNat (x.toNat / 4096 % 16 + 224))
          (UInt8.ofNat (x.toNat / 64 % 64 + 128)) (UInt8.ofNat (x.toNat % 64 + 128)) = some x :=
        three?_eq_some (by omega) tail.1 tail'.1 (by rw [tail.2, tail'.2, lead]; omega) (by omega)
      rw [List.cons_append, List.cons_append, List.singleton_append, decode,
        first_three (not_lt_of_lead (by omega)) (two?_eq_none (by omega)) three]
      rfl
  | case4 v h h' h'' =>
      simp only [v, code] at h h' h'' ⊢
      have lead : (UInt8.ofNat (x.toNat / 262144 % 8 + 240)).toNat = x.toNat / 262144 % 8 + 240 :=
        toNat_ofNat (by omega)
      have tail := tail_ofNat (n := x.toNat / 4096 % 64) (by omega)
      have tail' := tail_ofNat (n := x.toNat / 64 % 64) (by omega)
      have tail'' := tail_ofNat (n := x.toNat % 64) (by omega)
      have four : four? (UInt8.ofNat (x.toNat / 262144 % 8 + 240))
          (UInt8.ofNat (x.toNat / 4096 % 64 + 128)) (UInt8.ofNat (x.toNat / 64 % 64 + 128))
          (UInt8.ofNat (x.toNat % 64 + 128)) = some x :=
        four?_eq_some (by omega) tail.1 tail'.1 tail''.1
          (by rw [tail.2, tail'.2, tail''.2, lead]; omega) (by omega)
      rw [List.cons_append, List.cons_append, List.cons_append, List.singleton_append, decode,
        first_four (not_lt_of_lead (by omega)) (two?_eq_none (by omega))
          (three?_eq_none (by omega)) four]
      rfl

/-! ### Texts -/

/-- The bytes of an array, taken one by one. -/
theorem toList_loop (bytes : ByteArray) (i : Nat) (taken : List UInt8) :
    ByteArray.toList.loop bytes i taken = taken.reverse ++ bytes.data.toList.drop i := by
  fun_induction ByteArray.toList.loop bytes i taken with
  | case1 i taken h ih =>
      have inside : i < bytes.data.toList.length := by simpa using h
      rw [ih, List.drop_eq_getElem_cons inside]
      simp [ByteArray.get!, h]
  | case2 i taken h =>
      rw [List.drop_eq_nil_of_le (by simpa using Nat.le_of_not_lt h), List.append_nil]

/-- The bytes of a text are those of its characters. -/
theorem toList_toUTF8 (s : String) : s.toUTF8.toList = s.toList.flatMap String.utf8EncodeChar := by
  rw [String.toUTF8_eq_toByteArray, ← String.utf8Encode_toList, List.utf8Encode, ByteArray.toList,
    toList_loop, List.toList_data_toByteArray]
  rfl

/-- The bytes of a text are read as its characters. -/
theorem decode_toUTF8 (s : String) : decode s.toUTF8.toList = s.toList.map some := by
  rw [toList_toUTF8]
  induction s.toList with
  | nil => rw [List.flatMap_nil, decode, List.map_nil]
  | cons x rest ih => rw [List.flatMap_cons, decode_append, ih, List.map_cons]

end CloudProvision.Text.Utf8
