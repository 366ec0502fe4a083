import CloudProvision.Document
import CloudProvision.Proofs.Json.Number
import CloudProvision.Proofs.Text.Utf8

/-!
# Reading back what was written

The reader takes the tokens of a written tree to the tree. A tree is read back as soon as each of
its scalars is: brackets, commas and keys add nothing that can be lost, however deep the tree is.
For a floating-point number this is the property `Binary64.ReadsBack`, since reading one rounds.

## Main definitions

* `Writes`: text that is read as a tree wherever a value may stand.
* `Binary64.ReadsBack`: the text of the number is read as the number.
* `scalars`, `floats`: the scalars of a tree, and the floating-point numbers among them.

## Main results

* `writes_integer`, `writes_text`, `writes_float`: scalars that are read back.
* `writes_render`: a tree is read back if its scalars are.
* `read?_render`: the document of a tree is read as the tree.
-/

namespace CloudProvision

namespace Json

/-! ### Text around punctuation -/

theorem Spells.nil : Spells [] [] := by
  intro rest _
  cases h : Token.scan .between rest <;> simp [h]

/-- A character that is a token, before other text. -/
theorem Spells.cons {c : Char} {token : Token} {text : List Char} {tokens : List Token}
    (mark : startToken c = some (some token, .between)) (h : Spells text tokens) :
    Spells (c :: text) (token :: tokens) := by
  intro rest delimited
  rw [List.map_cons, List.cons_append, scan_between_cons, mark, Option.bind_some, h _ delimited,
    Option.map_map]
  rfl

/-- A character that is a token ends a bare word before it. -/
theorem Spells.append {c : Char} {token : Token} {first text : List Char}
    {firstTokens tokens : List Token} (h : Spells first firstTokens)
    (mark : startToken c = some (some token, .between)) (later : Spells text tokens) :
    Spells (first ++ c :: text) (firstTokens ++ token :: tokens) := by
  intro rest delimited
  have stops : Delimited ((c :: text).map some ++ rest) := by
    intro _ _ eq
    obtain rfl : c = _ := by injection eq with head; exact Option.some.inj head
    cases word : isWordChar c with
    | false => rfl
    | true => simp [startToken_of_isWordChar word] at mark
  rw [List.map_append, List.append_assoc, h _ stops, (later.cons mark) _ delimited,
    Option.map_map]
  simp [Function.comp_def]

/-! ### Values -/

/-- A reader that waits for a value reads the tokens as this one. -/
def Means (tokens : List Token) (value : Json) : Prop :=
  ∀ wanted stack, wanted = .value ∨ wanted = .valueOrClose →
    tokens.foldlM ReaderState.step ⟨wanted, stack, none⟩ = some (ReaderState.put value stack)

/-- Text that is read as this value wherever one may stand. -/
def Writes (text : List Char) (value : Json) : Prop :=
  ∃ tokens, Spells text tokens ∧ Means tokens value

/-- The document of a text is the value that the text writes. -/
theorem Writes.read {text : String} {value : Json} (h : Writes text.toList value) :
    read? (Document.ofText text).bytes = some value := by
  obtain ⟨tokens, spells, means⟩ := h
  have scanned := spells [] (by intro _ _ eq; cases eq)
  rw [List.append_nil] at scanned
  rw [read?, Document.ofText, Text.Utf8.decode_toUTF8, scanned]
  simp [Token.scan, ofTokens?, ReaderState.start, means .value [] (.inl rfl), ReaderState.put]

/-- A scalar that is one token. -/
theorem writes_scalar {text : List Char} {value : Json} (h : Spells text [.scalar value]) :
    Writes text value := by
  refine ⟨_, h, ?_⟩
  rintro _ stack (rfl | rfl) <;> rfl

/-- A string is read back. -/
theorem writes_text (s : String) : Writes (Json.text s).render.toList (.text s) := by
  refine ⟨_, spells_text s, ?_⟩
  rintro _ stack (rfl | rfl) <;> rfl

theorem writes_null : Writes Json.null.render.toList .null :=
  writes_scalar (spells_word rfl (show IsWord "null" by decide))

theorem writes_bool (b : Bool) : Writes (Json.bool b).render.toList (.bool b) := by
  cases b with
  | false => exact writes_scalar (spells_word rfl (show IsWord "false" by decide))
  | true => exact writes_scalar (spells_word rfl (show IsWord "true" by decide))

/-- An integer of 64 bits is read back. -/
theorem writes_integer {n : Int} (low : Integer64.least ≤ n)
    (high : n ≤ Integer64.greatestUnsigned) :
    Writes (Json.integer n).render.toList (.integer n) :=
  writes_scalar (spells_word (readWord_integer low high) fun _ => isWordChar_of_mem_toString)

end Json

/-- The text of the number is read as the number. -/
def Binary64.ReadsBack (x : Binary64) : Prop :=
  Json.read? (Document.ofText (x.text .document)).bytes = some (.float x)

namespace Json

/-- A document that is one bare word is the value of the word. -/
theorem readWord_of_read? {word : String} {value : Json} (h : IsWord word)
    (read : read? (Document.ofText word).bytes = some value) :
    readWord word.toList = some value := by
  rw [read?, Document.ofText, Text.Utf8.decode_toUTF8] at read
  cases letters : word.toList with
  | nil => simp [letters, Token.scan, ofTokens?, ReaderState.start] at read
  | cons c more =>
      have word_char : ∀ c' ∈ c :: more, isWordChar c' = true := letters ▸ h
      obtain ⟨first, later⟩ := List.forall_mem_cons.1 word_char
      have scanned := scan_letters [c] [] later
      rw [List.append_nil] at scanned
      rw [letters, List.map_cons, scan_between_cons, startToken_of_isWordChar first,
        Option.bind_some, scanned, Token.scan] at read
      cases found : readWord (c :: more) with
      | none => simp [found] at read
      | some other =>
          simpa [found, ofTokens?, ReaderState.start, ReaderState.step, ReaderState.put]
            using read

/-- A floating-point number that is read back as a document is read back everywhere. -/
theorem writes_float {x : Binary64} (h : x.ReadsBack) :
    Writes (Json.float x).render.toList (.float x) :=
  writes_scalar (spells_word (readWord_of_read? (isWord_float x) h) (isWord_float x))

/-! ### Arrays and objects -/

/-- Text that is read as the next part of an array or object: a reader inside of it that waits
for a part goes on to the separator. -/
def WritesPart {β : Type} (frame : List β → Frame) (first next : Wanted) (text : List Char)
    (part : β) : Prop :=
  ∃ tokens, Spells text tokens ∧ ∀ wanted done stack, wanted = first ∨ wanted = next →
    tokens.foldlM ReaderState.step ⟨wanted, frame done :: stack, none⟩ =
      some ⟨.separator, frame (part :: done) :: stack, none⟩

/-- An item is a part of an array. -/
theorem Writes.part {text : List Char} {item : Json} (h : Writes text item) :
    WritesPart .array .valueOrClose .value text item := by
  obtain ⟨tokens, spells, means⟩ := h
  exact ⟨tokens, spells, fun wanted done stack waits => means wanted _ waits.symm⟩

/-- A key with its value is a part of an object. -/
theorem Writes.member {text : List Char} {value : Json} (key : String) (h : Writes text value) :
    WritesPart .object .keyOrClose .key ((renderText key).toList ++ ':' :: text)
      (some key, value) := by
  obtain ⟨tokens, spells, means⟩ := h
  refine ⟨_, (spells_text key).append rfl spells, ?_⟩
  rintro wanted done stack (rfl | rfl) <;>
    exact means .value (.member (some key) done :: stack) (.inl rfl)

section Parts

variable {β : Type} {frame : List β → Frame} {first next : Wanted}

/-- Parts with commas between them are read one after the other. -/
theorem writesPart_intercalate {texts : List (List Char)} {parts : List β}
    (comma : ∀ done stack, ReaderState.step ⟨.separator, frame done :: stack, none⟩ .comma =
      some ⟨next, frame done :: stack, none⟩)
    (h : List.Forall₂ (WritesPart frame first next) texts parts) (ne : parts ≠ []) :
    ∃ tokens, Spells ([','].intercalate texts) tokens ∧ ∀ wanted done stack,
      wanted = first ∨ wanted = next →
      tokens.foldlM ReaderState.step ⟨wanted, frame done :: stack, none⟩ =
        some ⟨.separator, frame (parts.reverse ++ done) :: stack, none⟩ := by
  induction h with
  | nil => exact absurd rfl ne
  | @cons text part texts parts head rest ih =>
      obtain ⟨tokens, spells, means⟩ := head
      cases rest with
      | nil =>
          refine ⟨tokens, by simpa [List.intercalate] using spells, ?_⟩
          simpa using means
      | cons second later =>
          obtain ⟨more, more_spells, more_means⟩ := ih (by simp)
          refine ⟨tokens ++ .comma :: more, ?_, fun wanted done stack waits => ?_⟩
          · simpa [List.intercalate] using spells.append rfl more_spells
          · rw [List.foldlM_append, means _ _ _ waits]
            simp [comma, more_means next _ _ (.inr rfl)]

end Parts

/-- A written array is read back if its items are. -/
theorem writes_array {texts : List (List Char)} {items : List Json}
    (h : List.Forall₂ Writes texts items) :
    Writes ('[' :: ([','].intercalate texts ++ [']'])) (.array items) := by
  rcases eq_or_ne items [] with rfl | ne
  · obtain rfl := List.forall₂_nil_right_iff.1 h
    refine ⟨_, .cons rfl (.cons rfl .nil), ?_⟩
    rintro _ stack (rfl | rfl) <;> rfl
  · obtain ⟨tokens, spells, means⟩ :=
      writesPart_intercalate (fun _ _ => rfl) (h.imp fun _ _ => Writes.part) ne
    refine ⟨_, .cons rfl (spells.append rfl .nil), ?_⟩
    rintro _ stack (rfl | rfl) <;>
      simp [List.foldlM_append, ReaderState.step, means .valueOrClose _ _ (.inl rfl)]

/-- The object of members whose keys can be read. -/
theorem ofMembers_known (members : List (String × Json)) :
    ofMembers (members.map fun member => (some member.1, member.2)).reverse =
      .object members := by
  have all : (members.map fun member => (some member.1, member.2)).mapM
      (fun member => member.1.map (·, member.2)) = some members := by
    induction members with
    | nil => rfl
    | cons member rest ih => simp [ih]
  rw [ofMembers, List.reverse_reverse, all]

/-- A written object is read back if the values of its members are. -/
theorem writes_object {texts : List (List Char)} {members : List (String × Json)}
    (h : List.Forall₂ (WritesPart .object .keyOrClose .key) texts
      (members.map fun member => (some member.1, member.2))) :
    Writes ('\x7b' :: ([','].intercalate texts ++ ['\x7d'])) (.object members) := by
  rcases eq_or_ne members [] with rfl | ne
  · obtain rfl := List.forall₂_nil_right_iff.1 h
    refine ⟨_, .cons rfl (.cons rfl .nil), ?_⟩
    rintro _ stack (rfl | rfl) <;> rfl
  · obtain ⟨tokens, spells, means⟩ :=
      writesPart_intercalate (fun _ _ => rfl) h (by simpa using ne)
    refine ⟨_, .cons rfl (spells.append rfl .nil), ?_⟩
    rintro _ stack (rfl | rfl) <;>
      simp [List.foldlM_append, ReaderState.step, means .keyOrClose _ _ (.inl rfl),
        ofMembers_known]

/-! ### Trees -/

mutual

/-- The scalars of a document, in order. -/
def scalars : Json → List Json
  | .array items => itemScalars items
  | .object members => memberScalars members
  | scalar => [scalar]

/-- The scalars of items. -/
def itemScalars : List Json → List Json
  | [] => []
  | item :: rest => item.scalars ++ itemScalars rest

/-- The scalars of members. -/
def memberScalars : List (String × Json) → List Json
  | [] => []
  | (_, value) :: rest => value.scalars ++ memberScalars rest

end

mutual

/-- A written tree is read back if its scalars are. -/
theorem writes_render (json : Json)
    (h : ∀ scalar ∈ json.scalars, Writes scalar.render.toList scalar) :
    Writes json.render.toList json := by
  cases json with
  | array items =>
      have text : (Json.array items).render.toList =
          '[' :: ([','].intercalate ((renderItems items).map String.toList) ++ [']']) := by
        simp [render, String.toList_intercalate]
      rw [text]
      exact writes_array (writes_renderItems items h)
  | object members =>
      have text : (Json.object members).render.toList =
          '\x7b' :: ([','].intercalate ((renderMembers members).map String.toList) ++
            ['\x7d']) := by
        simp [render, String.toList_intercalate]
      rw [text]
      exact writes_object (writes_renderMembers members h)
  | null | bool | integer | float | text | unreadable => exact h _ (List.mem_singleton_self _)

theorem writes_renderItems (items : List Json)
    (h : ∀ scalar ∈ itemScalars items, Writes scalar.render.toList scalar) :
    List.Forall₂ Writes ((renderItems items).map String.toList) items := by
  cases items with
  | nil => exact .nil
  | cons item rest =>
      obtain ⟨first, later⟩ := List.forall_mem_append.1 h
      exact .cons (writes_render item first) (writes_renderItems rest later)

theorem writes_renderMembers (members : List (String × Json))
    (h : ∀ scalar ∈ memberScalars members, Writes scalar.render.toList scalar) :
    List.Forall₂ (WritesPart .object .keyOrClose .key)
      ((renderMembers members).map String.toList)
      (members.map fun member => (some member.1, member.2)) := by
  cases members with
  | nil => exact .nil
  | cons member rest =>
      obtain ⟨first, later⟩ := List.forall_mem_append.1 h
      refine .cons ?_ (writes_renderMembers rest later)
      have part := (writes_render member.2 first).member member.1
      simpa using part

end

theorem mem_itemScalars {scalar : Json} {items : List Json} :
    scalar ∈ itemScalars items ↔ ∃ item ∈ items, scalar ∈ item.scalars := by
  induction items with
  | nil => simp [itemScalars]
  | cons item rest ih => simp [itemScalars, ih]

theorem mem_memberScalars {scalar : Json} {members : List (String × Json)} :
    scalar ∈ memberScalars members ↔ ∃ member ∈ members, scalar ∈ member.2.scalars := by
  induction members with
  | nil => simp [memberScalars]
  | cons member rest ih => simp [memberScalars, ih]

/-- The floating-point number that a scalar is, if it is one. -/
def float? : Json → Option Binary64
  | .float x => some x
  | _ => none

/-- The floating-point numbers of a document, in order. -/
def floats (json : Json) : List Binary64 :=
  json.scalars.filterMap float?

/-- A scalar that can be written: an integer has 64 bits. -/
def IsWritable : Json → Prop
  | .null | .bool _ | .float _ | .text _ => True
  | .integer n => Integer64.least ≤ n ∧ n ≤ Integer64.greatestUnsigned
  | .array _ | .object _ | .unreadable => False

/-- A written tree is read back if its scalars can be written and its floating-point numbers are
read back. -/
theorem read?_render {json : Json} (writable : ∀ scalar ∈ json.scalars, scalar.IsWritable)
    (floats : ∀ x ∈ json.floats, x.ReadsBack) :
    read? (Document.ofText json.render).bytes = some json := by
  refine (writes_render json fun scalar mem => ?_).read
  cases scalar with
  | null => exact writes_null
  | bool b => exact writes_bool b
  | integer n => exact writes_integer (writable _ mem).1 (writable _ mem).2
  | float x => exact writes_float (floats x (List.mem_filterMap.2 ⟨_, mem, rfl⟩))
  | text s => exact writes_text s
  | array | object | unreadable => exact (writable _ mem).elim

end Json

/-- Whether a number is read back can be tested. -/
instance (x : Binary64) : Decidable x.ReadsBack :=
  decidable_of_iff ((Json.read? (Document.ofText (x.text .document)).bytes).bind Json.float? =
    some x) <| by
      rw [Binary64.ReadsBack]
      rcases Json.read? (Document.ofText (x.text .document)).bytes with
        _ | ⟨_ | _ | _ | _ | _ | _ | _ | _⟩ <;> simp [Json.float?]

end CloudProvision
