import CloudProvision.Codec.Record
import CloudProvision.Proofs.Codec
import Mathlib.Data.List.Pairwise

/-!
# Round trips of records

A record is read back if its parts are independent of each other: they have names of their own,
setting one leaves the others, and all of them together make up the record. Then it does not matter
how the record was given, as an object or as an array, with its fields in any order, with fields
missing or with members that are no fields.

## Main definitions

* `Part`: a part of a record, with its codec.
* `Composed`: a record that is made of independent parts.

## Main results

* `Codec.record_keeps`: what reading each field keeps, holds of every record that is read.
* `Codec.faithful_record`: a record is read back if its parts are.
* `Codec.sound_record`: the codec of a record that is made of independent parts is sound.
-/

namespace CloudProvision

/-! ### What is kept while a record is read -/

section Reading

variable {α : Type} {fields : List (Field α)} {Q : α → Prop}
  (keeps : ∀ f ∈ fields, ∀ json x y, f.decode json x = .ok y → Q x → Q y)

include keeps

/-- What reading a field keeps of a record, reading the members of an object keeps. -/
theorem Field.readMembers_keeps {members : List (String × Json)} {seen : List String} {x y : α}
    (read : readMembers fields members seen x = .ok y) (h : Q x) : Q y := by
  induction members generalizing seen x with
  | nil => exact Except.ok.inj read ▸ h
  | cons member rest ih =>
      rw [readMembers] at read
      split at read
      · exact ih read h
      · next field found =>
        split at read
        · cases read
        · obtain ⟨z, step, later⟩ := bind_eq_ok read
          exact ih later (keeps field (List.mem_of_find?_eq_some found) _ _ _ step h)

/-- So does reading the elements of an array. -/
theorem Field.readItems_keeps {items : List Json} {x y : α}
    (read : readItems fields items x = .ok y) (h : Q x) : Q y := by
  induction items generalizing fields x with
  | nil => cases fields <;> exact Except.ok.inj read ▸ h
  | cons item rest ih =>
      cases fields with
      | nil => cases read
      | cons field later =>
          obtain ⟨first, keeps⟩ := List.forall_mem_cons.1 keeps
          obtain ⟨z, step, read⟩ := bind_eq_ok read
          exact ih keeps read (first _ _ _ step h)

/-- What holds of the blank record, and is kept by reading each field, holds of every record that is
read. -/
theorem Codec.record_keeps {name : String} {blank x : α} {json : Json} (start : Q blank)
    (read : (Codec.record name fields blank).decode json = .ok x) : Q x := by
  cases json with
  | object members => exact Field.readMembers_keeps keeps read start
  | array items => exact Field.readItems_keeps keeps read start
  | _ => cases read

end Reading

/-! ### Parts -/

/-- A part of a record. -/
structure Part (α : Type) : Type 1 where
  Value : Type
  name : String
  codec : Codec Value
  get : α → Value
  set : Value → α → α

namespace Part

variable {α : Type}

/-- A part that is an attribute. -/
abbrev attr {β : Type} (codec : Codec β) {name : String} {get : α → Attr β}
    {set : Attr β → α → α} : Part α :=
  ⟨_, name, .attr codec, get, set⟩

/-- The field for the part. -/
def field (p : Part α) : Field α :=
  .of p.name p.codec p.get p.set

/-- The value of the part in a record is read back. -/
def Faithful (p : Part α) (x : α) : Prop :=
  p.codec.Faithful (p.get x)

/-- Setting one of the parts leaves the other one. -/
def Independent (p q : Part α) : Prop :=
  (∀ v x, q.get (p.set v x) = q.get x) ∧ ∀ v x, p.get (q.set v x) = p.get x

@[simp]
theorem faithful_iff {p : Part α} {x : α} : p.Faithful x ↔ p.codec.Faithful (p.get x) :=
  Iff.rfl

@[simp]
theorem independent_iff {p q : Part α} : p.Independent q ↔
    (∀ v x, q.get (p.set v x) = q.get x) ∧ ∀ v x, p.get (q.set v x) = p.get x :=
  Iff.rfl

instance : Std.Symm (@Independent α) :=
  ⟨fun _ _ => And.symm⟩

end Part

/-- A record that is made of independent parts, with a blank record to start from. -/
structure Composed {α : Type} (parts : List (Part α)) (blank : α) : Prop where
  names : (parts.map Part.name).Nodup
  sound : ∀ p ∈ parts, p.codec.Sound
  faithful_blank : ∀ p ∈ parts, p.Faithful blank
  get_set : ∀ p ∈ parts, ∀ v x, p.get (p.set v x) = v
  independent : parts.Pairwise Part.Independent
  /-- The parts make up the record. -/
  rebuilt : ∀ x, parts.foldl (fun y p => p.set (p.get x) y) blank = x

namespace Composed

variable {α : Type} {parts : List (Part α)} {blank : α}

/-- A part that is set is read back, and the others are as they were. -/
theorem faithful_set (h : Composed parts blank) {p : Part α} (mem : p ∈ parts) {v : p.Value}
    {x : α} (value : p.codec.Faithful v) (all : ∀ q ∈ parts, q.Faithful x) :
    ∀ q ∈ parts, q.Faithful (p.set v x) := by
  intro q mem_q
  rcases eq_or_ne p q with rfl | ne
  · rw [Part.faithful_iff, h.get_set p mem]
    exact value
  · have apart : p.Independent q := h.independent.forall mem mem_q ne
    rw [Part.faithful_iff, apart.1]
    exact all q mem_q

/-- Reading one field keeps the record one that is read back. -/
theorem faithful_decode (h : Composed parts blank) {p : Part α} (mem : p ∈ parts) {json : Json}
    {x y : α} (read : p.field.decode json x = .ok y) (all : ∀ q ∈ parts, q.Faithful x) :
    ∀ q ∈ parts, q.Faithful y := by
  obtain ⟨v, value, rfl⟩ := map_eq_ok read
  exact h.faithful_set mem ((h.sound p mem).faithful json v value) all

/-! ### Reading back a record -/

/-- A field is found by its name. -/
theorem find?_field (names : (parts.map Part.name).Nodup) {p : Part α} (mem : p ∈ parts) :
    (parts.map Part.field).find? (·.name == p.field.name) = some p.field := by
  induction parts with
  | nil => cases mem
  | cons q rest ih =>
      obtain ⟨fresh, later⟩ := List.nodup_cons.1 names
      rcases List.mem_cons.1 mem with rfl | mem
      · exact List.find?_cons_of_pos (beq_self_eq_true _)
      · have other : q.field.name ≠ p.field.name := fun same =>
          fresh ((show q.name = p.name from same) ▸ List.mem_map_of_mem mem)
        rw [List.map_cons, List.find?_cons_of_neg (by simpa using other)]
        exact ih later mem

/-- The members that are written for some parts are read into these parts. -/
theorem readMembers_encode (names : (parts.map Part.name).Nodup) {x : α}
    {some_parts : List (Part α)} (sub : some_parts ⊆ parts)
    (distinct : (some_parts.map Part.name).Nodup) (all : ∀ p ∈ some_parts, p.Faithful x)
    {seen : List String} (fresh : ∀ p ∈ some_parts, p.name ∉ seen) (y : α) :
    Field.readMembers (parts.map Part.field)
        ((some_parts.map Part.field).map fun field => (field.name, field.encode x)) seen y =
      .ok (some_parts.foldl (fun y p => p.set (p.get x) y) y) := by
  induction some_parts generalizing seen y with
  | nil => rfl
  | cons p rest ih =>
      obtain ⟨mem, sub⟩ := List.cons_subset.1 sub
      obtain ⟨other, distinct⟩ := List.nodup_cons.1 distinct
      obtain ⟨faithful, all⟩ := List.forall_mem_cons.1 all
      obtain ⟨unseen, fresh⟩ := List.forall_mem_cons.1 fresh
      have read : p.field.decode (p.field.encode x) y = .ok (p.set (p.get x) y) := by
        change (p.set · y) <$> p.codec.decode (p.codec.encode (p.get x)) = _
        rw [faithful.decode_encode]
        rfl
      have still_fresh : ∀ q ∈ rest, q.name ∉ p.name :: seen := by
        intro q mem_q found
        rcases List.mem_cons.1 found with same | found
        · exact other (same ▸ List.mem_map_of_mem mem_q)
        · exact fresh q mem_q found
      rw [List.map_cons, List.map_cons, Field.readMembers, find?_field names mem]
      change (if p.name ∈ seen then _ else _) = _
      rw [if_neg unseen, read]
      exact ih sub distinct all still_fresh _

end Composed

/-- A record whose parts are read back is read back, if they make it up. -/
theorem Codec.faithful_record {α : Type} (parts : List (Part α)) {blank x : α} {name : String}
    (names : (parts.map Part.name).Nodup)
    (rebuilt : parts.foldl (fun y p => p.set (p.get x) y) blank = x)
    (all : ∀ p ∈ parts, p.Faithful x) :
    (Codec.record name (parts.map Part.field) blank).Faithful x where
  decode_encode := by
    have read := Composed.readMembers_encode names (List.Subset.refl _) names all
      (fun _ _ => List.not_mem_nil) blank
    rw [rebuilt] at read
    exact read
  writable scalar mem := by
    obtain ⟨member, written, inside⟩ := Json.mem_memberScalars.1 mem
    simp only [List.mem_map] at written
    obtain ⟨_, ⟨p, mem, rfl⟩, rfl⟩ := written
    exact (all p mem).writable scalar inside

/-- The codec of a record that is made of independent parts is sound. -/
theorem Codec.sound_record {α : Type} (parts : List (Part α)) {blank : α} {name : String}
    (h : Composed parts blank) :
    (Codec.record name (parts.map Part.field) blank).Sound where
  faithful json x read := by
    have keeps : ∀ f ∈ parts.map Part.field, ∀ json x y, f.decode json x = .ok y →
        (∀ p ∈ parts, p.Faithful x) → ∀ p ∈ parts, p.Faithful y :=
      List.forall_mem_map.2 fun p mem _ _ _ step all => h.faithful_decode mem step all
    exact faithful_record parts h.names (h.rebuilt x) (record_keeps keeps h.faithful_blank read)
  plain _ _ _ _ := trivial

end CloudProvision
