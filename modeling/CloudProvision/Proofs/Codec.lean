import CloudProvision.Codec
import CloudProvision.Proofs.Except
import CloudProvision.Proofs.Json.Reader

/-!
# Round trips of codecs

A codec is sound if it reads back what it writes for each value that it has read. This does not
hold for every value: a known text that is the sentinel would be read back as undecided. Reading
never makes such a value, and `Codec.Sound` carries what is needed of the parts for this to hold
of attributes, lists and maps of them.

## Main definitions

* `Codec.Faithful`: a value that is written as JSON and read back from it.
* `Json.IsPlain`: neither `null` nor the sentinel.
* `Codec.Sound`: every value read is faithful, and a plain one is written as a plain one.

## Main results

* `Codec.sound_attr`, `Codec.sound_list`, `Codec.sound_map`: compound codecs are sound.
* `Codec.Sound.faithful_block`: what is read back of a block.
-/

namespace CloudProvision

/-! ### Entries of maps -/

namespace StringMap

variable {α : Type}

/-- Maps with the same entries are equal. -/
theorem eq_of_toList_eq {m n : StringMap α} (h : m.toList = n.toList) : m = n := by
  cases m
  cases n
  cases h
  rfl

/-- The entries of a map of entries are among these. -/
theorem mem_of_mem_ofList {entries : List (String × α)} {e : String × α}
    (h : e ∈ (ofList entries).toList) : e ∈ entries := by
  have run (rest : List (String × α)) (m : StringMap α)
      (h : e ∈ (rest.foldl (fun m e => m.insert e.1 e.2) m).toList) :
      e ∈ m.toList ∨ e ∈ rest := by
    induction rest generalizing m with
    | nil => exact .inl h
    | cons next rest ih =>
        rcases ih (m.insert next.1 next.2) h with inserted | later
        · rcases mem_insertEntry inserted with rfl | old
          · exact .inr List.mem_cons_self
          · exact .inl old
        · exact .inr (List.mem_cons_of_mem _ later)
  exact (run entries empty h).resolve_left List.not_mem_nil

/-- An entry whose key is the greatest comes last. -/
theorem insertEntry_of_greatest {entries : List (String × α)} {key : String} {value : α}
    (h : ∀ e ∈ entries, e.1 < key) : insertEntry key value entries = entries ++ [(key, value)] := by
  induction entries with
  | nil => rfl
  | cons head rest ih =>
      obtain ⟨first, later⟩ := List.forall_mem_cons.1 h
      rw [insertEntry, if_neg (String.lt_asymm first), if_pos first, ih later]
      rfl

/-- A map is the map of its entries. -/
theorem ofList_toList (m : StringMap α) : ofList m.toList = m := by
  have run (rest : List (String × α)) (m : StringMap α)
      (h : (m.toList ++ rest).Pairwise (·.1 < ·.1)) :
      (rest.foldl (fun m e => m.insert e.1 e.2) m).toList = m.toList ++ rest := by
    induction rest generalizing m with
    | nil => exact (List.append_nil _).symm
    | cons next rest ih =>
        obtain ⟨-, -, between⟩ := List.pairwise_append.1 h
        have inserted : (m.insert next.1 next.2).toList = m.toList ++ [next] :=
          insertEntry_of_greatest fun e mem => between e mem next List.mem_cons_self
        have sorted : (m.toList ++ [next] ++ rest).Pairwise (·.1 < ·.1) := by simpa using h
        rw [List.foldl_cons, ih _ (inserted ▸ sorted), inserted, List.append_assoc]
        rfl
  exact eq_of_toList_eq (run m.toList empty m.sorted)

end StringMap

/-! ### Soundness -/

/-- A value that an attribute reads as known: neither `null` nor the sentinel. -/
def Json.IsPlain : Json → Prop
  | .null => False
  | .text s => s ≠ Codec.undecided
  | _ => True

namespace Codec

variable {α : Type}

/-- The value can be written, and is read back from what was written. -/
structure Faithful (codec : Codec α) (x : α) : Prop where
  decode_encode : codec.decode (codec.encode x) = .ok x
  writable : ∀ scalar ∈ (codec.encode x).scalars, scalar.IsWritable

/-- Whatever the codec reads, it writes such that it is read back. -/
structure Sound (codec : Codec α) : Prop where
  faithful : ∀ json x, codec.decode json = .ok x → codec.Faithful x
  plain : ∀ json x, codec.decode json = .ok x → json.IsPlain → (codec.encode x).IsPlain

/-! ### Scalars -/

/-- A value that is written as one scalar. -/
theorem Faithful.of_scalar {codec : Codec α} {x : α}
    (h : codec.decode (codec.encode x) = .ok x)
    (scalars : (codec.encode x).scalars = [codec.encode x])
    (writable : (codec.encode x).IsWritable) : codec.Faithful x :=
  ⟨h, by simpa [scalars] using writable⟩

@[simp]
theorem sound_text : text.Sound where
  faithful _ _ _ := .of_scalar rfl rfl trivial
  plain json x h plain := by
    cases json with
    | text s => cases h; exact plain
    | _ => cases h

@[simp]
theorem sound_integer : integer.Sound where
  faithful json x h := by
    cases json with
    | integer n =>
        simp only [integer] at h
        split at h
        · next range =>
          obtain rfl := Except.ok.inj h
          have unsigned : n ≤ Integer64.greatestUnsigned :=
            Int.le_trans range.2 (by decide)
          exact .of_scalar (if_pos range) rfl ⟨range.1, unsigned⟩
        · cases h
    | _ => cases h
  plain _ _ _ _ := trivial

@[simp]
theorem sound_float : float.Sound where
  faithful _ _ _ := .of_scalar rfl rfl trivial
  plain _ _ _ _ := trivial

@[simp]
theorem sound_boolean : boolean.Sound where
  faithful _ _ _ := .of_scalar rfl rfl trivial
  plain _ _ _ _ := trivial

/-! ### Attributes -/

/-- No value is read back as no value. -/
@[simp]
theorem faithful_null (codec : Codec α) : (attr codec).Faithful .null :=
  .of_scalar rfl rfl trivial

/-- An undecided value is read back as undecided, whatever its type. -/
theorem faithful_unknown (codec : Codec α) : (attr codec).Faithful .unknown :=
  .of_scalar rfl rfl trivial

/-- An attribute reads a plain value as known. -/
theorem decode_attr {codec : Codec α} {json : Json} (plain : json.IsPlain) :
    (attr codec).decode json = .known <$> codec.decode json := by
  cases json with
  | null => exact plain.elim
  | text s => exact if_neg plain
  | _ => rfl

/-- An attribute is null, undecided, or known from a plain value. -/
theorem decode_attr_cases {codec : Codec α} {json : Json} {x : Attr α}
    (h : (attr codec).decode json = .ok x) :
    json = .null ∧ x = .null ∨ json = .text undecided ∧ x = .unknown ∨
      ∃ y, x = .known y ∧ json.IsPlain ∧ codec.decode json = .ok y := by
  have known (plain : json.IsPlain) :
      ∃ y, x = .known y ∧ json.IsPlain ∧ codec.decode json = .ok y := by
    rw [decode_attr plain] at h
    obtain ⟨y, read, same⟩ := map_eq_ok h
    exact ⟨y, same.symm, plain, read⟩
  cases json with
  | null => exact .inl ⟨rfl, (Except.ok.inj h).symm⟩
  | text s =>
      by_cases sentinel : s = undecided
      · rw [sentinel] at h
        exact .inr (.inl ⟨by rw [sentinel], (Except.ok.inj h).symm⟩)
      · exact .inr (.inr (known sentinel))
  | _ => exact .inr (.inr (known trivial))

/-- Attributes of a sound codec are sound. A known value is written as a plain one, so it is taken
for neither of the other two states. -/
@[simp]
theorem sound_attr {codec : Codec α} (h : codec.Sound) : (attr codec).Sound where
  faithful json x read := by
    rcases decode_attr_cases read with ⟨-, rfl⟩ | ⟨-, rfl⟩ | ⟨y, rfl, plain, inner⟩
    · exact faithful_null codec
    · exact faithful_unknown codec
    · obtain ⟨again, writable⟩ := h.faithful json y inner
      refine ⟨?_, writable⟩
      change (attr codec).decode (codec.encode y) = _
      rw [decode_attr (h.plain json y inner plain), again]
      rfl
  plain json x read plain := by
    rcases decode_attr_cases read with ⟨rfl, -⟩ | ⟨rfl, -⟩ | ⟨y, rfl, -, inner⟩
    · exact plain.elim
    · exact absurd rfl plain
    · exact h.plain json y inner plain

/-! ### Lists and maps -/

/-- What a list was read from, element by element. -/
theorem decode_list {codec : Codec α} {json : Json} {xs : List α}
    (h : (list codec).decode json = .ok xs) :
    ∃ items, List.Forall₂ (fun item x => codec.decode item = .ok x) items xs := by
  cases json with
  | array items => exact ⟨items, mapM_eq_ok.1 h⟩
  | _ => cases h

/-- A list is read back if its elements are. -/
theorem faithful_list {codec : Codec α} {xs : List α} (h : ∀ x ∈ xs, codec.Faithful x) :
    (list codec).Faithful xs where
  decode_encode := by
    refine mapM_eq_ok.2 (List.forall₂_map_left_iff.2 (List.forall₂_same.2 fun x mem => ?_))
    exact (h x mem).decode_encode
  writable scalar mem := by
    obtain ⟨item, written, inside⟩ := Json.mem_itemScalars.1 mem
    obtain ⟨x, element, rfl⟩ := List.mem_map.1 written
    exact (h x element).writable scalar inside

/-- Lists of a sound codec are sound. -/
@[simp]
theorem sound_list {codec : Codec α} (h : codec.Sound) : (list codec).Sound where
  faithful json xs read := by
    obtain ⟨items, elements⟩ := decode_list read
    refine faithful_list fun x mem => ?_
    obtain ⟨item, -, inner⟩ := exists_of_forall₂ elements x mem
    exact h.faithful item x inner
  plain _ _ _ _ := trivial

/-- A map is read back if its values are. -/
theorem faithful_map {codec : Codec α} {m : StringMap α}
    (h : ∀ e ∈ m.toList, codec.Faithful e.2) : (map codec).Faithful m where
  decode_encode := by
    have entries : (m.toList.map fun e => (e.1, codec.encode e.2)).mapM
        (fun member => (member.1, ·) <$> codec.decode member.2) = .ok m.toList := by
      refine mapM_eq_ok.2 (List.forall₂_map_left_iff.2 (List.forall₂_same.2 fun e mem => ?_))
      change (e.1, ·) <$> codec.decode (codec.encode e.2) = _
      rw [(h e mem).decode_encode]
      rfl
    change (_ >>= fun entries => pure (StringMap.ofList entries)) = _
    rw [entries]
    exact congrArg Except.ok m.ofList_toList
  writable scalar mem := by
    obtain ⟨member, written, inside⟩ := Json.mem_memberScalars.1 mem
    obtain ⟨e, entry, rfl⟩ := List.mem_map.1 written
    exact (h e entry).writable scalar inside

/-- Maps of a sound codec are sound. -/
@[simp]
theorem sound_map {codec : Codec α} (h : codec.Sound) : (map codec).Sound where
  faithful json m read := by
    cases json with
    | object members =>
        obtain ⟨entries, read_entries, rfl⟩ := map_eq_ok read
        refine faithful_map fun e mem => ?_
        obtain ⟨member, -, inner⟩ := exists_of_forall₂ (mapM_eq_ok.1 read_entries) e
          (StringMap.mem_of_mem_ofList mem)
        obtain ⟨x, value, rfl⟩ := map_eq_ok inner
        exact h.faithful _ x value
    | _ => cases read
  plain _ _ _ _ := trivial

/-! ### Blocks -/

/-- A known block is the only element of a list, and is known there. -/
theorem decode_block_known {codec : Codec α} {json : Json} {x : α}
    (h : (block codec).decode json = .ok (.known x)) :
    ∃ item, (attr codec).decode item = .ok (.known x) := by
  obtain ⟨given, outer, inner⟩ := bind_eq_ok h
  rcases decode_attr_cases outer with ⟨-, rfl⟩ | ⟨-, rfl⟩ | ⟨elements, rfl, -, list⟩
  · cases inner
  · cases inner
  · obtain ⟨items, read⟩ := decode_list list
    rcases elements with - | ⟨element, - | ⟨other, rest⟩⟩
    · cases inner
    · obtain rfl := Except.ok.inj inner
      obtain ⟨item, -, this⟩ := exists_of_forall₂ read _ List.mem_cons_self
      exact ⟨item, this⟩
    · cases inner

/-- A known block is read back if it is read back as an attribute. -/
theorem faithful_block_known {codec : Codec α} {x : α} (h : (attr codec).Faithful (.known x)) :
    (block codec).Faithful (.known x) where
  decode_encode := by
    have element : (list (attr codec)).decode ((block codec).encode (.known x)) =
        .ok [.known x] := mapM_eq_ok.2 (.cons h.decode_encode .nil)
    change ((Attr.known <$> (list (attr codec)).decode _) >>= _) = _
    rw [element]
    rfl
  writable scalar mem := by
    obtain ⟨item, written, inside⟩ := Json.mem_itemScalars.1 mem
    obtain rfl := List.mem_singleton.1 written
    exact h.writable scalar inside

/-- No block is read back as no block. -/
theorem faithful_block_null (codec : Codec α) : (block codec).Faithful .null where
  decode_encode := rfl
  writable _ mem := by cases mem

/-- A block that was read is read back, an undecided one as no block. -/
theorem Sound.faithful_block {codec : Codec α} (h : codec.Sound) {json : Json} {x : Attr α}
    (read : (block codec).decode json = .ok x) :
    (block codec).Faithful (.ofOption x.toOption) := by
  rcases x with y | _ | _
  · obtain ⟨item, element⟩ := decode_block_known read
    exact faithful_block_known ((sound_attr h).faithful item _ element)
  · exact faithful_block_null codec
  · exact faithful_block_null codec

end Codec

end CloudProvision
