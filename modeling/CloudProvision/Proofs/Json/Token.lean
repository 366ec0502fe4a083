import CloudProvision.Json.Printer
import CloudProvision.Json.Token
import Mathlib.Data.List.Forall2
import Mathlib.Tactic.IntervalCases

/-!
# Tokens of written JSON

What the printer writes is scanned token by token, whatever stands around it: a bare word up to the
first character that is no part of it, a string with its escapes up to the closing quote.

## Main definitions

* `Delimited`: what may follow a bare word.
* `Spells`: text that is scanned as some tokens, whatever follows.

## Main results

* `spells_word`: a bare word is one token.
* `spells_text`: a written string is one token, whatever its characters are.
-/

namespace CloudProvision.Json

/-- What is left of a document does not go on with a bare word. -/
def Delimited (rest : List (Option Char)) : Prop :=
  ∀ c more, rest = some c :: more → isWordChar c = false

/-- Text that is scanned as these tokens, if what follows does not go on with a bare word. -/
def Spells (text : List Char) (tokens : List Token) : Prop :=
  ∀ rest, Delimited rest →
    Token.scan .between (text.map some ++ rest) = (Token.scan .between rest).map (tokens ++ ·)

/-! ### Bare words -/

/-- Between tokens a character starts one, or is one. -/
theorem scan_between_cons (c : Char) (rest : List (Option Char)) :
    Token.scan .between (some c :: rest) = (startToken c).bind fun start =>
      (Token.scan start.2 rest).map (start.1.toList ++ ·) := by
  rw [Token.scan]
  rcases startToken c with _ | ⟨token, mode⟩
  · rfl
  · cases h : Token.scan mode rest <;> simp [h]

/-- A character of a bare word is collected, and any other one ends it. -/
theorem scan_word_cons (letters : List Char) (c : Char) (rest : List (Option Char)) :
    Token.scan (.word letters) (some c :: rest) =
      if isWordChar c then Token.scan (.word (c :: letters)) rest
      else (readWord letters.reverse).bind fun value =>
        (Token.scan .between (some c :: rest)).map (.scalar value :: ·) := by
  rw [scan_between_cons, Token.scan]
  split
  · rfl
  · rcases readWord letters.reverse with _ | value
    · rfl
    · rcases startToken c with _ | ⟨token, mode⟩
      · rfl
      · cases h : Token.scan mode rest <;> simp [h]

/-- A character of a bare word starts one. -/
theorem startToken_of_isWordChar {c : Char} (h : isWordChar c = true) :
    startToken c = some (none, .word [c]) := by
  unfold startToken
  split <;> first | exact absurd h (by decide) | exact if_pos h

/-- A bare word is collected to its end. -/
theorem scan_letters {word : List Char} (letters : List Char) (rest : List (Option Char))
    (h : ∀ c ∈ word, isWordChar c = true) :
    Token.scan (.word letters) (word.map some ++ rest) =
      Token.scan (.word (word.reverse ++ letters)) rest := by
  induction word generalizing letters with
  | nil => rfl
  | cons c more ih =>
      obtain ⟨first, later⟩ := List.forall_mem_cons.1 h
      rw [List.map_cons, List.cons_append, scan_word_cons, if_pos first, ih _ later,
        List.reverse_cons, List.append_assoc]
      rfl

/-- A bare word ends where the text does not go on with it. -/
theorem scan_word_end {letters : List Char} {value : Json} {rest : List (Option Char)}
    (h : Delimited rest) (read : readWord letters.reverse = some value) :
    Token.scan (.word letters) rest =
      (Token.scan .between rest).map (.scalar value :: ·) := by
  rcases rest with _ | ⟨_ | c, more⟩
  · simp [Token.scan, read]
  · simp [Token.scan]
  · rw [scan_word_cons, if_neg (by simp [h c more rfl]), read]
    rfl

/-- A bare word is one token. -/
theorem spells_word {word : List Char} {value : Json} (read : readWord word = some value)
    (h : ∀ c ∈ word, isWordChar c = true) : Spells word [.scalar value] := by
  intro rest delimited
  cases word with
  | nil => simp [readWord, readNumberText] at read
  | cons c more =>
      obtain ⟨first, later⟩ := List.forall_mem_cons.1 h
      rw [List.map_cons, List.cons_append, scan_between_cons, startToken_of_isWordChar first,
        Option.bind_some, scan_letters _ _ later, scan_word_end delimited (by simpa using read),
        Option.map_map]
      rfl

/-! ### Strings -/

/-- A piece of a string that stands for one character on its own. -/
inductive Piece.Stands : Piece → Char → Prop where
  | char (c : Char) : Stands (.char c) c
  | unit {c : Char} (small : c.toNat < 0x20) : Stands (.unit c.toNat) c

/-- A unit that is no half of a pair stands on its own. -/
theorem join_unit {u : Nat} (small : u < 0xd800) (rest : List Piece) :
    Piece.join (.unit u :: rest) = (Char.ofNat u :: ·) <$> Piece.join rest := by
  have high : isHighSurrogate u = false := by simp [isHighSurrogate, small]
  have low : isLowSurrogate u = false := by
    simp [isLowSurrogate, Nat.lt_trans small (by decide : 0xd800 < 0xdc00)]
  rcases rest with _ | ⟨_ | _ | _, _⟩ <;> simp [Piece.join, high, low]

/-- The characters that pieces stand for. -/
theorem join_of_stands {pieces : List Piece} {cs : List Char}
    (h : List.Forall₂ Piece.Stands pieces cs) : Piece.join pieces = some cs := by
  induction h with
  | nil => rfl
  | cons first _ ih =>
      cases first with
      | char c => rw [Piece.join, ih]; rfl
      | unit small =>
          rw [join_unit (by omega), ih, Char.ofNat_toNat]
          rfl

/-- Inside a string a character is a piece, unless it ends the string or starts an escape. -/
theorem scan_string_cons (pieces : List Piece) (c : Char) (rest : List (Option Char)) :
    Token.scan (.string pieces) (some c :: rest) =
      if c = '"' then (Token.scan .between rest).map (stringToken pieces :: ·)
      else if c = '\\' then Token.scan (.escape pieces) rest
      else if c < ' ' then none
      else Token.scan (.string (.char c :: pieces)) rest := by
  rw [Token.scan]
  cases Token.scan .between rest <;> rfl

/-- A hexadecimal digit has its value. -/
theorem hexValue?_digitChar {n : Nat} (h : n < 16) : hexValue? (Nat.digitChar n) = some n := by
  interval_cases n <;> decide

/-- A written character is scanned as one piece that stands for it. -/
theorem exists_piece (c : Char) : ∃ piece, Piece.Stands piece c ∧ ∀ pieces rest,
    Token.scan (.string pieces) ((escapedChar c).toList.map some ++ rest) =
      Token.scan (.string (piece :: pieces)) rest := by
  have short (letter : Char) (escape : escaped? letter = some c) (other : letter ≠ 'u')
      (pieces : List Piece) (rest : List (Option Char)) :
      Token.scan (.string pieces) (some '\\' :: some letter :: rest) =
        Token.scan (.string (.char c :: pieces)) rest := by
    rw [scan_string_cons, if_neg (by decide), if_pos rfl, Token.scan, if_neg other, escape]
    rfl
  fun_cases escapedChar c with
  | case1 => exact ⟨.char _, .char _, short '"' rfl (by decide)⟩
  | case2 => exact ⟨.char _, .char _, short '\\' rfl (by decide)⟩
  | case3 => exact ⟨.char _, .char _, short 'b' rfl (by decide)⟩
  | case4 => exact ⟨.char _, .char _, short 't' rfl (by decide)⟩
  | case5 => exact ⟨.char _, .char _, short 'n' rfl (by decide)⟩
  | case6 => exact ⟨.char _, .char _, short 'f' rfl (by decide)⟩
  | case7 => exact ⟨.char _, .char _, short 'r' rfl (by decide)⟩
  | case8 =>
      rename_i small
      have small : c.toNat < 0x20 := small
      have digits : ("\\u00" ++ String.ofList
          [(c.toNat / 16).digitChar, (c.toNat % 16).digitChar]).toList =
          ['\\', 'u', '0', '0', (c.toNat / 16).digitChar, (c.toNat % 16).digitChar] := by
        simp
      refine ⟨.unit c.toNat, .unit small, fun pieces rest => ?_⟩
      rw [digits]
      simp only [List.map_cons, List.map_nil, List.cons_append, List.nil_append]
      rw [scan_string_cons, if_neg (by decide), if_pos rfl, Token.scan, if_pos rfl]
      have zero : hexValue? '0' = some 0 := rfl
      have high := hexValue?_digitChar (n := c.toNat / 16) (by omega)
      have low := hexValue?_digitChar (n := c.toNat % 16) (by omega)
      have code : c.toNat / 16 * 16 + c.toNat % 16 = c.toNat := by omega
      simp [Token.scan, zero, high, low, code]
  | case9 =>
      rename_i quote backslash _ _ _ _ _ large
      refine ⟨.char c, .char c, fun pieces rest => ?_⟩
      rw [Char.toString_eq_singleton, String.toList_singleton, List.map_cons, List.map_nil,
        List.singleton_append, scan_string_cons, if_neg quote, if_neg backslash, if_neg large]

/-- The characters of a string are collected as pieces that stand for them. -/
theorem exists_pieces (cs : List Char) (pieces : List Piece) (rest : List (Option Char)) :
    ∃ more, List.Forall₂ Piece.Stands more cs ∧
      Token.scan (.string pieces)
          (((cs.map escapedChar).flatMap String.toList).map some ++ rest) =
        Token.scan (.string (more.reverse ++ pieces)) rest := by
  induction cs generalizing pieces with
  | nil => exact ⟨[], .nil, rfl⟩
  | cons c cs ih =>
      obtain ⟨piece, stands, scanned⟩ := exists_piece c
      obtain ⟨more, rest_stands, rest_scanned⟩ := ih (piece :: pieces)
      refine ⟨piece :: more, .cons stands rest_stands, ?_⟩
      rw [List.map_cons, List.flatMap_cons, List.map_append, List.append_assoc, scanned,
        rest_scanned, List.reverse_cons, List.append_assoc]
      rfl

/-- A written string is one token. -/
theorem spells_text (s : String) : Spells (renderText s).toList [.string (some s)] := by
  intro rest _
  have text : (renderText s).toList =
      '"' :: (((s.toList.map escapedChar).flatMap String.toList) ++ ['"']) := by
    simp [renderText]
  obtain ⟨more, stands, scanned⟩ := exists_pieces s.toList [] (some '"' :: rest)
  have token : stringToken more.reverse = .string (some s) := by
    rw [stringToken, List.reverse_reverse, join_of_stands stands]
    exact congrArg (Token.string ∘ some) String.ofList_toList
  rw [text, List.map_cons, List.map_append, List.cons_append, List.append_assoc,
    scan_between_cons]
  change ((Token.scan (.string []) (_ ++ some '"' :: rest)).map (List.append [])) = _
  rw [scanned, List.append_nil, scan_string_cons, if_pos rfl, token, Option.map_map]
  rfl

end CloudProvision.Json
