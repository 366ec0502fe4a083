import CloudProvision.LoadBalancer.Validation
import CloudProvision.Proofs.Identity

/-!
# Entries that are reported as duplicates

The check for duplicates walks through a collection and remembers what it has seen. It reports an
entry exactly if an earlier one clashes with it: they share a name, or both have no name and share a
natural key. An entry whose name is undecided clashes with none.

## Main definitions

* `Clash`: two entries that cannot be told apart.
* `repeated`: the entries that clash with an earlier one.
* `report`: the error of such an entry.

## Main results

* `duplicates_eq`: the errors are those of the repeated entries.
* `duplicates_eq_nil_iff`: there are none exactly if no two entries clash.
-/

namespace CloudProvision.LoadBalancer

variable {α : Type} [Identified α]

/-! ### Clashes -/

/-- Two entries share a name. A blank one is no name. -/
def SameName (x y : α) : Prop :=
  ∃ name : String, name ≠ "" ∧ Identified.name x = .known name ∧ Identified.name y = .known name

/-- An entry has no name, or a blank one. -/
def Unnamed (x : α) : Prop :=
  Identified.name x = .null ∨ Identified.name x = .known ""

/-- Two entries without a name share a natural key. -/
def SameKey (x y : α) : Prop :=
  Unnamed x ∧ Unnamed y ∧
    ∃ key, Identified.naturalKey x = some key ∧ Identified.naturalKey y = some key

/-- Two entries cannot be told apart. -/
def Clash (x y : α) : Prop :=
  SameName x y ∨ SameKey x y

variable {x y : α}

/-- An entry is told by its name if it has one. -/
theorem distinction?_eq_name {name : String} :
    distinction? x = some (.name name) ↔ name ≠ "" ∧ Identified.name x = .known name := by
  rw [distinction?]
  rcases Identified.name x with text | _ | _
  · by_cases blank : text = ""
    · simp [Attr.normalized, Comparable.blank, blank]
    · simpa [Attr.normalized, Comparable.blank, blank] using fun same => same ▸ blank
  · simp [Attr.normalized]
  · simp [Attr.normalized]

/-- An entry is told by its natural key if it has no name. -/
theorem distinction?_eq_naturalKey {key : String} :
    distinction? x = some (.naturalKey key) ↔ Unnamed x ∧ Identified.naturalKey x = some key := by
  rw [distinction?, Unnamed]
  rcases Identified.name x with text | _ | _
  · by_cases blank : text = "" <;> simp [Attr.normalized, Comparable.blank, blank]
  · simp [Attr.normalized]
  · simp [Attr.normalized]

/-- Two entries clash exactly if the same tells them from the others. -/
theorem clash_iff : Clash x y ↔ ∃ d, distinction? x = some d ∧ distinction? y = some d := by
  constructor
  · rintro (⟨name, filled, hx, hy⟩ | ⟨hx, hy, key, kx, ky⟩)
    · exact ⟨.name name, distinction?_eq_name.2 ⟨filled, hx⟩, distinction?_eq_name.2 ⟨filled, hy⟩⟩
    · exact ⟨.naturalKey key, distinction?_eq_naturalKey.2 ⟨hx, kx⟩,
        distinction?_eq_naturalKey.2 ⟨hy, ky⟩⟩
  · rintro ⟨name | key, hx, hy⟩
    · obtain ⟨filled, hx⟩ := distinction?_eq_name.1 hx
      exact .inl ⟨name, filled, hx, (distinction?_eq_name.1 hy).2⟩
    · obtain ⟨hx, kx⟩ := distinction?_eq_naturalKey.1 hx
      obtain ⟨hy, ky⟩ := distinction?_eq_naturalKey.1 hy
      exact .inr ⟨hx, hy, key, kx, ky⟩

instance (x y : α) : Decidable (Clash x y) :=
  decidable_of_iff ((distinction? x).isSome ∧ distinction? x = distinction? y) <| by
    rw [clash_iff, Option.isSome_iff_exists]
    grind

/-! ### Errors -/

/-- An entry of a list clashes with an earlier one. -/
def IsRepeated (entries : List α) (p : Placed α) : Prop :=
  ∃ x ∈ entries.take p.position, Clash x p.entry

instance (entries : List α) : DecidablePred (IsRepeated entries) :=
  fun p => inferInstanceAs (Decidable (∃ x ∈ entries.take p.position, Clash x p.entry))

/-- The entries of a list that clash with an earlier one. -/
def repeated (entries : List α) : List (Placed α) :=
  (Placed.ofList entries).filter (IsRepeated entries ·)

/-- The error of an entry that clashes with an earlier one. It stands at the name, if there is
one. -/
def report (collection : String) (p : Placed α) : Diagnostic :=
  let path := (AttributePath.of collection).index p.position
  match (Identified.name p.entry).nonempty? with
  | some name => ⟨"Duplicate name", s!"`{name}` is used by several {collection}", path.attr "name"⟩
  | none =>
    let key := (Identified.naturalKey p.entry).getD ""
    ⟨"Duplicate entry", s!"several unnamed {collection} are defined for `{key}`", path⟩

/-- The error that is recorded for an entry says what it is told by. -/
theorem duplicate_eq_report {d : Distinction} (h : distinction? x = some d) (collection : String)
    (position : Nat) : d.duplicate collection position = report collection ⟨position, x⟩ := by
  cases d with
  | name name =>
      obtain ⟨filled, named⟩ := distinction?_eq_name.1 h
      simp [report, Distinction.duplicate, named, Attr.nonempty?, filled]
  | naturalKey key =>
      obtain ⟨unnamed | unnamed, keyed⟩ := distinction?_eq_naturalKey.1 h <;>
        simp [report, Distinction.duplicate, unnamed, Attr.nonempty?, keyed]

/-- An entry is repeated exactly if what it is told by was seen before. -/
theorem isRepeated_iff {before rest : List α} :
    IsRepeated (before ++ rest) ⟨before.length, x⟩ ↔
      ∃ d, distinction? x = some d ∧ d ∈ before.filterMap distinction? := by
  simp only [IsRepeated, List.take_left, clash_iff, List.mem_filterMap]
  constructor
  · rintro ⟨y, mem, d, hy, hx⟩
    exact ⟨d, hx, y, mem, hy⟩
  · rintro ⟨d, hx, y, mem, hy⟩
    exact ⟨y, mem, d, hy, hx⟩

/-- The walk through the rest of a list reports its repeated entries, if what was seen is what the
entries before are told by. -/
theorem duplicatesFrom_eq (collection : String) (before rest : List α) (seen : List Distinction)
    (remembered : ∀ d, d ∈ seen ↔ d ∈ before.filterMap distinction?) :
    duplicatesFrom collection before.length seen rest =
      (((rest.zipIdx before.length).map fun (x, i) => (⟨i, x⟩ : Placed α)).filter
        (IsRepeated (before ++ rest) ·)).map (report collection) := by
  induction rest generalizing before seen with
  | nil => rfl
  | cons entry rest ih =>
      have split : before ++ entry :: rest = before ++ [entry] ++ rest := by simp
      have next : before.length + 1 = (before ++ [entry]).length := by simp
      have repeated : IsRepeated (before ++ entry :: rest) ⟨before.length, entry⟩ ↔
          ∃ d, distinction? entry = some d ∧ d ∈ seen := by
        simp only [isRepeated_iff, remembered]
      rw [duplicatesFrom, List.zipIdx_cons, List.map_cons, List.filter_cons]
      -- The entry joins those before, and what it is told by, if anything, joins what was seen.
      rcases told : distinction? entry with - | d
      · rw [decide_eq_false (by simp [repeated, told]), if_neg Bool.false_ne_true, split, next]
        exact ih (before ++ [entry]) seen fun d => by simp [remembered, told]
      · have later := ih (before ++ [entry]) (d :: seen)
          fun d' => by simp [remembered, told, or_comm, eq_comm]
        simp only [told, Option.some.injEq, exists_eq_left'] at repeated
        by_cases mem : d ∈ seen
        · rw [decide_eq_true (repeated.2 mem), if_pos rfl, List.map_cons, split, next, ← later]
          simp [mem, duplicate_eq_report told]
        · rw [decide_eq_false (mt repeated.1 mem), if_neg Bool.false_ne_true, split, next, ← later]
          simp [mem]

/-- The errors of a list are those of its repeated entries. -/
theorem duplicates_eq (collection : String) (entries : List α) :
    duplicates collection entries = (repeated entries).map (report collection) :=
  duplicatesFrom_eq collection [] entries [] (by simp)

/-- Of three listeners without a name the last one is reported, as it listens where the first one
does. -/
example :
    let listener (port : Int) (protocol : String) : Listener :=
      ⟨.null, .null, .known port, .known protocol, .known "web", .null⟩
    duplicates "listeners" [listener 80 "http", listener 443 "https", listener 80 "http"] =
      [report "listeners" ⟨2, listener 80 "http"⟩] := by
  decide +kernel

/-- A list has no errors exactly if no two of its entries clash. -/
theorem duplicates_eq_nil_iff {collection : String} {entries : List α} :
    duplicates collection entries = [] ↔ entries.Pairwise fun x y => ¬ Clash x y := by
  rw [duplicates_eq, List.map_eq_nil_iff, repeated, List.filter_eq_nil_iff,
    List.pairwise_iff_getElem]
  simp only [decide_eq_true_eq]
  constructor
  · intro fresh i j hi hj earlier clash
    exact fresh ⟨j, entries[j]⟩ (Placed.mem_ofList.2 (List.getElem?_eq_getElem hj))
      ⟨entries[i], List.mem_take_iff_getElem.2 ⟨i, Nat.lt_min.2 ⟨earlier, hi⟩, rfl⟩, clash⟩
  · rintro apart p mem ⟨x, before, clash⟩
    obtain ⟨hj, atP⟩ := List.getElem?_eq_some_iff.1 (Placed.mem_ofList.1 mem)
    obtain ⟨i, hi, rfl⟩ := List.mem_take_iff_getElem.1 before
    exact apart i p.position (by omega) hj (by omega) (atP ▸ clash)

/-- Entries that do not clash are told by different things, where they are told by anything. -/
theorem nodup_of_duplicates {collection : String} {entries : List α}
    (h : duplicates collection entries = []) : (entries.filterMap distinction?).Nodup := by
  refine List.pairwise_filterMap.2 ((duplicates_eq_nil_iff.1 h).imp fun apart d hx d' hy same => ?_)
  exact apart (clash_iff.2 ⟨d, hx, same ▸ hy⟩)

end CloudProvision.LoadBalancer
