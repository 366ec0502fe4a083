import CloudProvision.Identity
import CloudProvision.Proofs.Attr

/-!
# Looking entries up

An index answers as a search through its list would: the first entry with the identifier, else the
first one with the label, which is the name or, without a name, the natural key.

## Main results

* `IdentityIndex.locate?_ofList`: what an index finds.
* `IdentityIndex.findByName?_ofList`: what it finds by name alone.
* `IdentityIndex.locate?_of_key?`, `IdentityIndex.locate?_of_label?`: an entry with the identifier
  that is looked up is what is found, and without one an entry with the label.
-/

namespace CloudProvision

/-! ### Positions -/

namespace Placed

variable {α : Type} {entries : List α} {p : Placed α}

/-- A placed entry stands at its position. -/
theorem mem_ofList : p ∈ ofList entries ↔ entries[p.position]? = some p.entry := by
  obtain ⟨position, entry⟩ := p
  constructor
  · intro h
    obtain ⟨⟨x, i⟩, hx, eq⟩ := List.mem_map.1 h
    obtain ⟨rfl, rfl⟩ := Placed.mk.inj eq
    exact List.mem_zipIdx_iff_getElem?.1 hx
  · intro h
    exact List.mem_map.2 ⟨(entry, position), List.mem_zipIdx_iff_getElem?.2 h, rfl⟩

/-- The entries of the placed entries. -/
@[simp] theorem map_entry_ofList (entries : List α) : (ofList entries).map entry = entries := by
  simp only [ofList, List.map_map]
  exact List.zipIdx_map_fst 0 entries

@[simp] theorem length_ofList (entries : List α) : (ofList entries).length = entries.length := by
  simp [ofList]

theorem entry_mem (h : p ∈ ofList entries) : p.entry ∈ entries :=
  List.mem_of_getElem? (mem_ofList.1 h)

/-- Every entry is placed. -/
theorem exists_mem_ofList {x : α} (h : x ∈ entries) : ∃ p ∈ ofList entries, p.entry = x := by
  rw [← map_entry_ofList entries] at h
  exact List.mem_map.1 h

/-- The positions of the placed entries. -/
theorem map_position_ofList : (ofList entries).map position = List.range entries.length := by
  simp only [ofList, List.map_map]
  exact (List.zipIdx_map_snd 0 entries).trans (List.range_eq_range'.symm)

/-- Positions are given once. -/
theorem nodup_position_ofList : ((ofList entries).map position).Nodup := by
  rw [map_position_ofList]
  exact List.nodup_range

/-- Placed entries stand in the order of their positions. -/
theorem ascending_ofList :
    (ofList entries).Pairwise fun p q => p.position < q.position := by
  rw [← List.pairwise_map, map_position_ofList]
  exact List.pairwise_lt_range

/-- A placed entry is known by its position. -/
theorem eq_of_position_eq {q : Placed α} (hp : p ∈ ofList entries) (hq : q ∈ ofList entries)
    (h : p.position = q.position) : p = q := by
  have same := (mem_ofList.1 hp).symm.trans (h ▸ mem_ofList.1 hq)
  cases p
  cases q
  exact congr (congrArg mk h) (Option.some.inj same)

/-- A placed entry is known by what tells the entries of its list apart. -/
theorem eq_of_nodup_map {β : Type} {q : Placed α} {f : α → β} (distinct : (entries.map f).Nodup)
    (hp : p ∈ ofList entries) (hq : q ∈ ofList entries) (h : f p.entry = f q.entry) : p = q := by
  have hp' : (entries.map f)[p.position]? = some (f p.entry) := by
    rw [List.getElem?_map, mem_ofList.1 hp, Option.map_some]
  have hq' : (entries.map f)[q.position]? = some (f p.entry) := by
    rw [List.getElem?_map, mem_ofList.1 hq, Option.map_some, h]
  exact eq_of_position_eq hp hq
    ((List.getElem?_inj (List.getElem?_eq_some_iff.1 hp').1 distinct).1 (hp'.trans hq'.symm))

/-- A placed entry is known by its key, if keys tell the entries that have one apart. -/
theorem eq_of_nodup_filterMap {β : Type} {q : Placed α} {f : α → Option β} {k : β}
    (distinct : (entries.filterMap f).Nodup) (hp : p ∈ ofList entries) (hq : q ∈ ofList entries)
    (key : f p.entry = some k) (same : f q.entry = some k) : p = q := by
  have apart := List.pairwise_iff_getElem.1 (List.pairwise_filterMap.1 distinct)
  obtain ⟨hi, atP⟩ := List.getElem?_eq_some_iff.1 (mem_ofList.1 hp)
  obtain ⟨hj, atQ⟩ := List.getElem?_eq_some_iff.1 (mem_ofList.1 hq)
  rw [← atP] at key
  rw [← atQ] at same
  refine eq_of_position_eq hp hq (Nat.le_antisymm (Nat.not_lt.1 fun later => ?_)
    (Nat.not_lt.1 fun earlier => ?_))
  · exact apart _ _ hj hi later k same k key rfl
  · exact apart _ _ hi hj earlier k key k same rfl

/-- The first entry that satisfies `p`, with its position. -/
def first? (entries : List α) (p : α → Bool) : Option (Placed α) :=
  (ofList entries).find? fun placed => p placed.entry

variable {q : α → Bool}

/-- What a search finds stands in the list and satisfies the predicate. -/
theorem of_first?_eq_some (h : first? entries q = some p) :
    p ∈ ofList entries ∧ q p.entry = true := by
  rw [first?] at h
  exact ⟨List.mem_of_find?_eq_some h, by simpa using List.find?_some h⟩

/-- A search succeeds if an entry satisfies the predicate. -/
theorem exists_first?_eq_some {x : α} (mem : x ∈ entries) (h : q x = true) :
    ∃ p, first? entries q = some p := by
  obtain ⟨p, hp, rfl⟩ := exists_mem_ofList mem
  exact Option.isSome_iff_exists.1 (List.find?_isSome.2 ⟨p, hp, h⟩)

/-- A search finds the entry that it would find without positions. -/
theorem map_entry_first? : (first? entries q).map entry = entries.find? q := by
  conv => rhs; rw [← map_entry_ofList entries]
  rw [List.find?_map]
  rfl

/-- An entry is found again at the position where a search found it. -/
theorem getElem?_first? :
    ((first? entries q).map position).bind
      (fun position => entries[position]?.map (mk position)) = first? entries q := by
  rcases h : first? entries q with - | p
  · rfl
  · simp [mem_ofList.1 (of_first?_eq_some h).1]

end Placed

/-! ### Tables -/

namespace PositionTable

/-- The first position that is added at a key counts. -/
theorem get?_add (table : PositionTable) (key : Option String) (position : Nat) (k : String) :
    (table.add key position).get? k =
      (table.get? k).or (if key = some k then some position else none) := by
  cases key with
  | none => simp [add]
  | some key =>
      rw [add]
      by_cases taken : (table.get? key).isSome
      · rw [if_pos taken]
        by_cases same : key = k
        · obtain ⟨there, h⟩ := Option.isSome_iff_exists.1 (same ▸ taken)
          simp [h]
        · simp [same]
      · rw [if_neg taken, get?, get?, List.lookup_append]
        by_cases same : key = k
        · simp [same]
        · simp [List.lookup_cons, same, beq_eq_false_iff_ne.2 (Ne.symm same)]

/-- A table that entries are added to one by one holds the first position of each key. -/
theorem get?_foldl_add {α : Type} (keyOf : α → Option String) (placed : List (Placed α))
    (table : PositionTable) (k : String) :
    (placed.foldl (fun table p => table.add (keyOf p.entry) p.position) table).get? k =
      (table.get? k).or ((placed.find? fun p => keyOf p.entry = some k).map Placed.position) := by
  induction placed generalizing table with
  | nil => simp
  | cons p rest ih =>
      rw [List.foldl_cons, ih, get?_add, List.find?_cons]
      by_cases h : keyOf p.entry = some k <;> simp [h]

end PositionTable

/-! ### Indices -/

namespace IdentityIndex

open Placed (first? of_first?_eq_some exists_first?_eq_some getElem?_first?)

variable {α β : Type} [Identified α] [Identified β]

/-- What an entry is found by where identifiers do not decide: its name or, without a name, its
natural key. -/
def label? (x : α) : Option (String ⊕ String) :=
  match (Identified.name x).key? with
  | some name => some (.inl name)
  | none => (Identified.naturalKey x).map .inr

/-- The natural key of an entry without a name. -/
def unnamedKey? (x : α) : Option String :=
  if (Identified.name x).key?.isNone then Identified.naturalKey x else none

/-- The tables of an index are built side by side. -/
theorem foldl_add (placed : List (Placed α)) (index : IdentityIndex α) :
    placed.foldl add index =
      { entries := index.entries
        byId := placed.foldl (fun t p => t.add (Identified.id p.entry).key? p.position) index.byId
        byName :=
          placed.foldl (fun t p => t.add (Identified.name p.entry).key? p.position) index.byName
        byNaturalKey :=
          placed.foldl (fun t p => t.add (unnamedKey? p.entry) p.position)
            index.byNaturalKey } := by
  induction placed generalizing index with
  | nil => rfl
  | cons p rest ih => rw [List.foldl_cons, ih]; rfl

variable (entries : List α) (k : String)

@[simp] theorem entries_ofList : (ofList entries).entries = entries := by
  rw [ofList, foldl_add]

theorem get?_byId_ofList : (ofList entries).byId.get? k =
    (first? entries fun x => (Identified.id x).key? = some k).map Placed.position := by
  rw [ofList, foldl_add]
  exact PositionTable.get?_foldl_add (fun x => (Identified.id x).key?) _ [] k

theorem get?_byName_ofList : (ofList entries).byName.get? k =
    (first? entries fun x => (Identified.name x).key? = some k).map Placed.position := by
  rw [ofList, foldl_add]
  exact PositionTable.get?_foldl_add (fun x => (Identified.name x).key?) _ [] k

theorem get?_byNaturalKey_ofList : (ofList entries).byNaturalKey.get? k =
    (first? entries fun x => unnamedKey? x = some k).map Placed.position := by
  rw [ofList, foldl_add]
  exact PositionTable.get?_foldl_add unnamedKey? _ [] k

variable {k}

/-- The label of an entry is its name exactly if that is its key. -/
theorem label?_eq_name {x : α} : label? x = some (.inl k) ↔ (Identified.name x).key? = some k := by
  rw [label?]
  cases (Identified.name x).key? <;> simp

/-- The label of an entry is its natural key exactly if it has no name. -/
theorem label?_eq_naturalKey {x : α} : label? x = some (.inr k) ↔ unnamedKey? x = some k := by
  rw [label?, unnamedKey?]
  cases (Identified.name x).key? <;> simp

/-- An index finds the first entry with a name. -/
theorem findByName?_ofList (entries : List α) (name : String) :
    (ofList entries).findByName? name =
      first? entries fun x => (Identified.name x).key? = some name := by
  rw [← getElem?_first?, ← get?_byName_ofList, findByName?]
  simp only [Option.bind_eq_bind, Option.map_eq_bind, entries_ofList]
  rfl

/-- The position of what is looked up, found by name or natural key. -/
def byLabel? (index : IdentityIndex α) (probe : β) : Option Nat :=
  match (Identified.name probe).key? with
  | some name => index.byName.get? name
  | none => (Identified.naturalKey probe).bind index.byNaturalKey.get?

/-- The label counts where no entry has the identifier. -/
theorem position?_eq (index : IdentityIndex α) (probe : β) :
    index.position? probe =
      ((Identified.id probe).key?.bind index.byId.get?).or ((index.byLabel? probe).filter
        fun position => !((Identified.id probe).key?.isSome && index.hasId position)) := by
  rw [position?, byLabel?]
  cases (Identified.id probe).key?.bind index.byId.get? <;> rfl

/-- An index finds the position of the first entry with the label. -/
theorem byLabel?_ofList (entries : List α) (probe : β) :
    (ofList entries).byLabel? probe =
      ((label? probe).bind fun label =>
        first? entries fun x => label? x = some label).map Placed.position := by
  rw [label?, byLabel?]
  rcases (Identified.name probe).key? with - | name
  · rcases Identified.naturalKey probe with - | key
    · rfl
    · simp [get?_byNaturalKey_ofList, label?_eq_naturalKey]
  · simp [get?_byName_ofList, label?_eq_name]

/-- An index finds the first entry with the identifier that is looked up, else the first one with
the label, unless its identifier is another one. -/
theorem locate?_ofList (entries : List α) (probe : β) :
    (ofList entries).locate? probe =
      ((Identified.id probe).key?.bind fun id =>
        first? entries fun x => (Identified.id x).key? = some id).or
      (((label? probe).bind fun label => first? entries fun x => label? x = some label).filter
        fun p => !((Identified.id probe).key?.isSome && (Identified.id p.entry).key?.isSome)) := by
  have byId : (Identified.id probe).key?.bind (ofList entries).byId.get? =
      ((Identified.id probe).key?.bind fun id =>
        first? entries fun x => (Identified.id x).key? = some id).map Placed.position := by
    cases (Identified.id probe).key? <;> simp [get?_byId_ofList]
  have placed (p : Placed α) (h : p ∈ Placed.ofList entries) :
      (entries[p.position]?.bind fun x => some (Placed.mk p.position x)) = some p := by
    simp [Placed.mem_ofList.1 h]
  simp only [locate?, position?_eq, byId, byLabel?_ofList, entries_ofList, hasId,
    Attr.isPresent_eq, Option.bind_eq_bind, Option.pure_def]
  rcases found : (Identified.id probe).key?.bind fun id =>
      first? entries fun x => (Identified.id x).key? = some id with - | p
  · rcases named : (label? probe).bind fun label =>
        first? entries fun x => label? x = some label with - | p
    · rfl
    · obtain ⟨label, -, hp⟩ := Option.bind_eq_some_iff.1 named
      have mem := (of_first?_eq_some hp).1
      simp only [Option.map_none, Option.map_some, Option.none_or, Option.filter_some,
        Placed.mem_ofList.1 mem, Option.any_some]
      split
      · exact placed p mem
      · rfl
  · obtain ⟨id, -, hp⟩ := Option.bind_eq_some_iff.1 found
    exact placed p (of_first?_eq_some hp).1

variable {entries : List α} {probe : β} {p : Placed α}

/-- What an index finds stands in its list. -/
theorem mem_of_locate? (h : (ofList entries).locate? probe = some p) :
    p ∈ Placed.ofList entries := by
  rw [locate?_ofList, Option.or_eq_some_iff] at h
  rcases h with h | ⟨-, h⟩
  · obtain ⟨id, -, h⟩ := Option.bind_eq_some_iff.1 h
    exact (of_first?_eq_some h).1
  · obtain ⟨label, -, h⟩ := Option.bind_eq_some_iff.1 (Option.filter_eq_some_iff.1 h).1
    exact (of_first?_eq_some h).1

/-- The index of nothing finds nothing. -/
theorem locate?_nil (probe : β) : (ofList ([] : List α)).locate? probe = none :=
  Option.eq_none_iff_forall_ne_some.2 fun _ found => nomatch mem_of_locate? found

/-- An index finds an entry by its identifier or, where one of the two has none, by its label. -/
theorem id_or_label_of_locate? (h : (ofList entries).locate? probe = some p) :
    (∃ id, (Identified.id probe).key? = some id ∧ (Identified.id p.entry).key? = some id) ∨
      (∃ label, label? probe = some label ∧ label? p.entry = some label) ∧
        ((Identified.id probe).key? = none ∨ (Identified.id p.entry).key? = none) := by
  rw [locate?_ofList, Option.or_eq_some_iff] at h
  rcases h with h | ⟨-, h⟩
  · obtain ⟨id, hid, hp⟩ := Option.bind_eq_some_iff.1 h
    exact .inl ⟨id, hid, of_decide_eq_true (of_first?_eq_some hp).2⟩
  · obtain ⟨found, apart⟩ := Option.filter_eq_some_iff.1 h
    obtain ⟨label, hlabel, hp⟩ := Option.bind_eq_some_iff.1 found
    refine .inr ⟨⟨label, hlabel, of_decide_eq_true (of_first?_eq_some hp).2⟩, ?_⟩
    simpa [Option.isSome_eq_false_iff, Classical.or_iff_not_imp_left] using apart

/-- An index finds no entry with another identifier than the one that is looked up. -/
theorem key?_of_locate? (h : (ofList entries).locate? probe = some p)
    (key : (Identified.id probe).key? = some k) (present : (Identified.id p.entry).key?.isSome) :
    (Identified.id p.entry).key? = some k := by
  rw [locate?_ofList, Option.or_eq_some_iff] at h
  rcases h with h | ⟨-, h⟩
  · obtain ⟨id, hid, h⟩ := Option.bind_eq_some_iff.1 h
    simpa [Option.some.inj (hid.symm.trans key)] using (of_first?_eq_some h).2
  · simpa [key, present] using (Option.filter_eq_some_iff.1 h).2

/-- An index finds an entry with the identifier that is looked up if there is one. -/
theorem locate?_of_key? {x : α} (mem : x ∈ entries) (key : (Identified.id probe).key? = some k)
    (same : (Identified.id x).key? = some k) :
    ∃ p, (ofList entries).locate? probe = some p ∧ (Identified.id p.entry).key? = some k := by
  obtain ⟨p, hp⟩ := exists_first?_eq_some (q := fun x => (Identified.id x).key? = some k)
    mem (by simpa using same)
  refine ⟨p, ?_, by simpa using (of_first?_eq_some hp).2⟩
  rw [locate?_ofList, key, Option.bind_some, hp, Option.some_or]

/-- Without an identifier the label counts. -/
theorem locate?_of_key?_eq_none (key : (Identified.id probe).key? = none) :
    (ofList entries).locate? probe =
      (label? probe).bind fun label => first? entries fun x => label? x = some label := by
  rw [locate?_ofList, key]
  cases (label? probe).bind fun label => first? entries fun x => label? x = some label <;> rfl

/-- An index finds an entry with the label of what is looked up without an identifier, if there is
one. -/
theorem locate?_of_label? {x : α} {label : String ⊕ String} (mem : x ∈ entries)
    (key : (Identified.id probe).key? = none) (planned : label? probe = some label)
    (same : label? x = some label) :
    ∃ p, (ofList entries).locate? probe = some p ∧ label? p.entry = some label := by
  obtain ⟨p, hp⟩ := exists_first?_eq_some (q := fun x => label? x = some label)
    mem (by simpa using same)
  refine ⟨p, ?_, by simpa using (of_first?_eq_some hp).2⟩
  rw [locate?_of_key?_eq_none key, planned, Option.bind_some, hp]

/-- What an index finds by name has the name. -/
theorem of_findByName? {name : String} (h : (ofList entries).findByName? name = some p) :
    p ∈ Placed.ofList entries ∧ (Identified.name p.entry).key? = some name := by
  rw [findByName?_ofList] at h
  exact ⟨(of_first?_eq_some h).1, by simpa using (of_first?_eq_some h).2⟩

/-- An index finds an entry by name if one has it. -/
theorem exists_findByName? {x : α} {name : String} (mem : x ∈ entries)
    (key : (Identified.name x).key? = some name) :
    ∃ p, (ofList entries).findByName? name = some p := by
  rw [findByName?_ofList]
  exact exists_first?_eq_some mem (decide_eq_true key)

end IdentityIndex

end CloudProvision
