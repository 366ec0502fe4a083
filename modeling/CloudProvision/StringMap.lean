/-!
# Maps with sorted text keys

A `StringMap` holds its entries sorted by key, by code points, each key once. Two maps with the
same entries are equal.
-/

namespace CloudProvision

/-- Entries in strictly increasing order of their keys. -/
structure StringMap (α : Type) where
  toList : List (String × α)
  sorted : toList.Pairwise (·.1 < ·.1)
  deriving DecidableEq

namespace StringMap

variable {α β : Type}

/-- The map without entries. -/
def empty : StringMap α :=
  ⟨[], .nil⟩

instance : Inhabited (StringMap α) := ⟨empty⟩

/-- Put an entry into sorted entries, replacing the one with the same key. -/
def insertEntry (key : String) (value : α) : List (String × α) → List (String × α)
  | [] => [(key, value)]
  | (k, v) :: rest =>
    if key < k then (key, value) :: (k, v) :: rest
    else if k < key then (k, v) :: insertEntry key value rest
    else (key, value) :: rest

theorem mem_insertEntry {key : String} {value : α} {entries : List (String × α)}
    {e : String × α} (h : e ∈ insertEntry key value entries) :
    e = (key, value) ∨ e ∈ entries := by
  induction entries with
  | nil => simpa [insertEntry] using h
  | cons head rest ih =>
    obtain ⟨k, v⟩ := head
    rw [insertEntry] at h
    split at h
    · simpa using h
    · split at h
      · rcases List.mem_cons.1 h with h | h
        · exact .inr (by simp [h])
        · exact (ih h).imp id (List.mem_cons_of_mem _)
      · rcases List.mem_cons.1 h with h | h
        · exact .inl h
        · exact .inr (List.mem_cons_of_mem _ h)

theorem sorted_insertEntry {key : String} {value : α} {entries : List (String × α)}
    (h : entries.Pairwise (·.1 < ·.1)) :
    (insertEntry key value entries).Pairwise (·.1 < ·.1) := by
  induction entries with
  | nil => simp [insertEntry]
  | cons head rest ih =>
    obtain ⟨k, v⟩ := head
    obtain ⟨first, tail⟩ := List.pairwise_cons.1 h
    rw [insertEntry]
    split
    · next lt =>
      refine List.pairwise_cons.2 ⟨fun e he => ?_, h⟩
      rcases List.mem_cons.1 he with rfl | he
      · exact lt
      · exact String.lt_trans lt (first e he)
    · next not_lt =>
      split
      · next gt =>
        refine List.pairwise_cons.2 ⟨fun e he => ?_, ih tail⟩
        rcases mem_insertEntry he with rfl | he
        · exact gt
        · exact first e he
      · next not_gt =>
        have eq : key = k := String.le_antisymm not_gt not_lt
        exact List.pairwise_cons.2 ⟨fun e he => eq ▸ first e he, tail⟩

/-- The map with `value` at `key`, in place of the value that was there. -/
def insert (m : StringMap α) (key : String) (value : α) : StringMap α :=
  ⟨insertEntry key value m.toList, sorted_insertEntry m.sorted⟩

/-- The map of a list of entries. The last entry of a key wins. -/
def ofList (entries : List (String × α)) : StringMap α :=
  entries.foldl (fun m e => m.insert e.1 e.2) empty

/-- The value at `key`. -/
def get? (m : StringMap α) (key : String) : Option α :=
  m.toList.lookup key

/-- The map without `key`. -/
def erase (m : StringMap α) (key : String) : StringMap α :=
  ⟨m.toList.filter (·.1 != key), m.sorted.filter _⟩

/-- The keys, in order. -/
def keys (m : StringMap α) : List String :=
  m.toList.map (·.1)

/-- The values, in the order of their keys. -/
def values (m : StringMap α) : List α :=
  m.toList.map (·.2)

/-- Whether there is no entry. -/
def isEmpty (m : StringMap α) : Bool :=
  m.toList.isEmpty

/-- Apply `f` to every value and keep the entries for which it has a result. -/
def filterMap (f : α → Option β) (m : StringMap α) : StringMap β where
  toList := m.toList.filterMap fun e => (f e.2).map (e.1, ·)
  sorted := by
    refine List.pairwise_filterMap.2 (m.sorted.imp fun lt b hb c hc => ?_)
    obtain ⟨_, _, rfl⟩ := Option.map_eq_some_iff.1 hb
    obtain ⟨_, _, rfl⟩ := Option.map_eq_some_iff.1 hc
    exact lt

/-- Apply `f` to every value. -/
def map (f : α → β) (m : StringMap α) : StringMap β :=
  m.filterMap fun x => some (f x)

end StringMap

end CloudProvision
