import CloudProvision.Proofs.Changes

/-!
# Which entry of a name is found

A look-up by name finds the first entry that has the name, whether or not names tell entries apart.
A later entry is not found as long as the first one stands before it. This outlasts changes of the
list: entries may be appended, and all but the first one may be removed.

## Main definitions

* `Precedes`: one key stands in a list before another one.
* `Hidden`: no planned entry finds an object by name.

## Main results

* `IdentityIndex.findByName?_ne`: a look-up by name does not find what is preceded.
* `Changes.exists_precedes_of_removed`: what precedes an entry that is left over.
* `Hidden.of_removed`: objects that are left over are hidden.
* `Hidden.findByName?_ne`: objects that are hidden are not found.
-/

namespace CloudProvision

/-! ### Precedence -/

/-- A list starts with keys among which the first one is, and the late one is not. -/
def Precedes {κ : Type} (first late : κ) (keys : List κ) : Prop :=
  ∃ front, front <+: keys ∧ first ∈ front ∧ late ∉ front

namespace Precedes

variable {κ : Type} {first late : κ} {keys : List κ}

theorem ne (h : Precedes first late keys) : first ≠ late := by
  obtain ⟨front, -, there, new⟩ := h
  rintro rfl
  exact new there

/-- More keys may follow. -/
theorem append (h : Precedes first late keys) (more : List κ) :
    Precedes first late (keys ++ more) := by
  obtain ⟨front, starts, there, new⟩ := h
  exact ⟨front, starts.trans (List.prefix_append _ _), there, new⟩

/-- Other keys may be removed. -/
theorem filter (h : Precedes first late keys) {p : κ → Bool} (kept : p first = true) :
    Precedes first late (keys.filter p) := by
  obtain ⟨front, starts, there, new⟩ := h
  refine ⟨front.filter p, starts.filter p, List.mem_filter.2 ⟨there, kept⟩, fun mem => ?_⟩
  exact new (List.mem_filter.1 mem).1

end Precedes

/-! ### Looking up by name -/

section Lookup

variable {α ρ : Type} [Identified α] [Identified ρ]

/-- A look-up by name does not find an entry if another one with the name precedes it. -/
theorem IdentityIndex.findByName?_ne {objects : List ρ} {name : String} {p : Placed ρ}
    (found : (ofList objects).findByName? name = some p) {κ : Type} {key : ρ → κ} {first late : κ}
    (precedes : Precedes first late (objects.map key))
    (named : ∀ x ∈ objects, key x = first → (Identified.name x).key? = some name) :
    key p.entry ≠ late := by
  obtain ⟨front, ⟨back, split⟩, there, new⟩ := precedes
  obtain ⟨before, after, rfl, rfl, -⟩ := List.map_eq_append_iff.1 split.symm
  obtain ⟨x, hx, same⟩ := List.mem_map.1 there
  have hit : ((before.find? fun x => (Identified.name x).key? = some name).isSome) = true :=
    List.find?_isSome.2
      ⟨x, hx, decide_eq_true (named x (List.mem_append_left _ hx) same)⟩
  have first : (before ++ after).find? (fun x => (Identified.name x).key? = some name) =
      some p.entry := by
    rw [← Placed.map_entry_first?, ← findByName?_ofList, found, Option.map_some]
  rw [List.find?_append, Option.or_of_isSome hit] at first
  rintro rfl
  exact new (List.mem_map_of_mem (List.mem_of_find?_eq_some first))

/-- If a planned entry has the name of an entry that is left over, one in a pair with the name
stands before that. -/
theorem Changes.exists_precedes_of_removed {plan state : List α} (found : FoundByLabel plan state)
    {κ : Type} (key : α → κ) (distinct : (state.map key).Nodup) {p : Placed α}
    (hp : p ∈ (between plan state).removed) {q : α} (hq : q ∈ plan) {name : String}
    (left : (Identified.name p.entry).key? = some name)
    (planned : (Identified.name q).key? = some name) :
    ∃ m ∈ (between plan state).matched, (Identified.name m.state.entry).key? = some name ∧
      Precedes (key m.state.entry) (key p.entry) (state.map key) := by
  obtain ⟨mem, alone⟩ := mem_removed.1 hp
  obtain ⟨placed, hplaced, rfl⟩ := Placed.exists_mem_ofList hq
  obtain ⟨m, located, label⟩ := found.exists_located hq (Placed.entry_mem mem)
    (IdentityIndex.label?_eq_name.2 planned) (IdentityIndex.label?_eq_name.2 left)
  have matched : ⟨placed, m⟩ ∈ (between plan state).matched := mem_matched.2 ⟨hplaced, located⟩
  refine ⟨⟨placed, m⟩, matched, IdentityIndex.label?_eq_name.1 label, ?_⟩
  rw [found _ hq, IdentityIndex.label?_eq_name.2 planned, Option.bind_some,
    Placed.first?] at located
  obtain ⟨-, before, after, split, others⟩ := List.find?_eq_some_iff_append.1 located
  have starts : before ++ [m] <+: Placed.ofList state :=
    ⟨after, by rw [split, List.append_assoc]; rfl⟩
  refine ⟨(before ++ [m]).map fun placed => key placed.entry, ?_, by simp, ?_⟩
  · conv => rhs; rw [← Placed.map_entry_ofList state, List.map_map]
    exact starts.map _
  · intro early
    obtain ⟨other, there, same⟩ := List.mem_map.1 early
    obtain rfl := Placed.eq_of_nodup_map distinct (starts.subset there) mem same
    -- What stands before the entry of the pair has other names.
    rcases List.mem_append.1 there with early | last
    · simpa [IdentityIndex.label?_eq_name.2 left] using others other early
    · exact alone _ matched (List.mem_singleton.1 last).symm

end Lookup

/-! ### Hidden objects -/

section Objects

variable {α ρ : Type} [Identified α] [Identified ρ] {getId : ρ → String} {plan : List α}
  {objects current : List ρ} {spared : ρ → Prop} {r : ρ}

/-- No planned entry finds an object by name among the current ones: none has its name, or an object
with the name that is spared stands before it. -/
def Hidden (getId : ρ → String) (plan : List α) (objects : List ρ) (spared : ρ → Prop) (r : ρ)
    (current : List ρ) : Prop :=
  (∀ q ∈ plan, ∀ name, (Identified.name q).key? = some name →
    (Identified.name r).key? ≠ some name) ∨
  ∃ x ∈ objects, spared x ∧ Identified.name x = Identified.name r ∧
    Precedes (getId x) (getId r) (current.map getId)

/-- An object that is left over is hidden if those in a pair that share its name are spared. -/
theorem Hidden.of_removed {f : ρ → α} (ids : ∀ x, Identified.id (f x) = .known (getId x))
    (names : ∀ x, Identified.name (f x) = Identified.name x)
    (found : Changes.FoundByLabel plan (objects.map f)) (distinct : (objects.map getId).Nodup)
    {p : Placed α} (hp : p ∈ (Changes.between plan (objects.map f)).removed) (same : p.entry = f r)
    (spare : ∀ m ∈ (Changes.between plan (objects.map f)).matched, ∀ x ∈ objects,
      m.state.entry = f x → getId x ≠ getId r → Identified.name x = Identified.name r →
      spared x) : Hidden getId plan objects spared r objects := by
  refine Classical.or_iff_not_imp_left.2 fun named => ?_
  simp only [not_forall, not_not] at named
  obtain ⟨q, hq, name, planned, left⟩ := named
  have text (x : ρ) : (Identified.id (f x)).text = getId x := congrArg Attr.text (ids x)
  have keys : (objects.map f).map (fun e => (Identified.id e).text) = objects.map getId := by
    rw [List.map_map]
    exact List.map_congr_left fun x _ => text x
  obtain ⟨m, hm, key, precedes⟩ := Changes.exists_precedes_of_removed found
    (fun e => (Identified.id e).text) (keys ▸ distinct) hp hq
    (by rw [same, names, left]) planned
  obtain ⟨x, hx, entry⟩ := List.mem_map.1 (Placed.entry_mem (Changes.state_mem_of_mem_matched hm))
  rw [← entry, names] at key
  rw [← entry, same, text, text, keys] at precedes
  have known := (Attr.key?_eq_some_iff.1 key).1.trans (Attr.key?_eq_some_iff.1 left).1.symm
  exact ⟨x, hx, spare m hm x hx entry.symm precedes.ne known, known, precedes⟩

namespace Hidden

variable (h : Hidden getId plan objects spared r current)

include h

/-- Objects stay hidden as long as those that are spared keep their place. -/
theorem mono {next : List ρ}
    (kept : ∀ x ∈ objects, spared x → Precedes (getId x) (getId r) (current.map getId) →
      Precedes (getId x) (getId r) (next.map getId)) :
    Hidden getId plan objects spared r next := by
  rcases h with unnamed | ⟨x, hx, spare, same, precedes⟩
  · exact .inl unnamed
  · exact .inr ⟨x, hx, spare, same, kept x hx spare precedes⟩

/-- No planned entry has the name of a hidden object, if no other object has it. -/
theorem name_ne
    (own : ∀ y ∈ objects, Identified.name y = Identified.name r → getId y = getId r) {q : α}
    (hq : q ∈ plan) {name : String} (planned : (Identified.name q).key? = some name) :
    (Identified.name r).key? ≠ some name := by
  rcases h with unnamed | ⟨x, hx, -, same, precedes⟩
  · exact unnamed q hq name planned
  · exact absurd (own x hx same) precedes.ne

/-- A planned name does not find a hidden object, where objects have kept their names. -/
theorem findByName?_ne (hr : r ∈ objects)
    (names : ∀ y ∈ current, ∀ x ∈ objects, getId y = getId x →
      Identified.name y = Identified.name x) {q : α} (hq : q ∈ plan) {name : String}
    (planned : (Identified.name q).key? = some name) {p : Placed ρ}
    (found : (IdentityIndex.ofList current).findByName? name = some p) :
    getId p.entry ≠ getId r := by
  intro same
  obtain ⟨mem, key⟩ := IdentityIndex.of_findByName? found
  have left : (Identified.name r).key? = some name := by
    rw [← names _ (Placed.entry_mem mem) r hr same, key]
  rcases h with unnamed | ⟨x, hx, -, shared, precedes⟩
  · exact unnamed q hq name planned left
  · refine IdentityIndex.findByName?_ne found precedes (fun y hy first => ?_) same
    rw [names y hy x hx first, shared, left]

end Hidden

end Objects

end CloudProvision
