import CloudProvision.Changes
import CloudProvision.Proofs.Identity
import Mathlib.Data.List.Nodup
import Mathlib.Data.List.Perm.Subperm

/-!
# The split of a planned list

## Main results

* `Changes.mem_added`, `Changes.mem_matched`, `Changes.mem_removed`: the parts of the split.
* `Changes.exists_added_or_matched`, `Changes.mem_removed_or_matched`: nothing is forgotten.
* `Changes.length_state_add_added_le`: how large they are.
* `Changes.isEmpty_of_counterparts`, `Changes.isEmpty_of_covered`: when there is nothing to do.
-/

namespace CloudProvision

namespace Changes

variable {α : Type} [Identified α] {plan state : List α}

/-- New entries are those that correspond to none of the state. -/
theorem mem_added {p : Placed α} : p ∈ (between plan state).added ↔
    p ∈ Placed.ofList plan ∧ (IdentityIndex.ofList state).locate? p.entry = none := by
  simp [between, pair?]

/-- A pair is a planned entry with the entry of the state that it corresponds to. -/
theorem mem_matched {m : Pairing α} : m ∈ (between plan state).matched ↔
    m.plan ∈ Placed.ofList plan ∧
      (IdentityIndex.ofList state).locate? m.plan.entry = some m.state := by
  simp only [between, List.mem_filterMap, pair?, Option.map_eq_some_iff]
  constructor
  · rintro ⟨p, hp, q, hq, rfl⟩
    exact ⟨hp, hq⟩
  · rintro ⟨hp, hq⟩
    exact ⟨m.plan, hp, m.state, hq, rfl⟩

/-- The state's entry of a pair stands in the state. -/
theorem state_mem_of_mem_matched {m : Pairing α} (h : m ∈ (between plan state).matched) :
    m.state ∈ Placed.ofList state :=
  IdentityIndex.mem_of_locate? (mem_matched.1 h).2

/-- Entries that are left over are those in no pair. -/
theorem mem_removed {p : Placed α} : p ∈ (between plan state).removed ↔
    p ∈ Placed.ofList state ∧ ∀ m ∈ (between plan state).matched, m.state ≠ p := by
  have matched : (between plan state).matched =
      (Placed.ofList plan).filterMap (pair? (.ofList state)) := rfl
  simp only [between, List.mem_filter, List.all_eq_true, bne_iff_ne]
  refine and_congr_right fun hp => forall₂_congr fun m hm => not_congr ?_
  rw [← matched] at hm
  constructor
  · intro same
    exact Placed.eq_of_position_eq (state_mem_of_mem_matched hm) hp same
  · rintro rfl
    rfl

/-- A planned entry is new or in a pair. -/
theorem exists_added_or_matched (state : List α) {p : α} (hp : p ∈ plan) :
    (∃ q ∈ (between plan state).added, q.entry = p) ∨
      ∃ m ∈ (between plan state).matched, m.plan.entry = p := by
  obtain ⟨q, hq, rfl⟩ := Placed.exists_mem_ofList hp
  rcases found : (IdentityIndex.ofList state).locate? q.entry with - | r
  · exact .inl ⟨q, mem_added.2 ⟨hq, found⟩, rfl⟩
  · exact .inr ⟨⟨q, r⟩, mem_matched.2 ⟨hq, found⟩, rfl⟩

/-- An entry of the state is left over or in a pair. -/
theorem mem_removed_or_matched (plan : List α) {p : Placed α} (hp : p ∈ Placed.ofList state) :
    p ∈ (between plan state).removed ∨ ∃ m ∈ (between plan state).matched, m.state = p := by
  by_cases paired : ∃ m ∈ (between plan state).matched, m.state = p
  · exact .inr paired
  · refine .inl (mem_removed.2 ⟨hp, ?_⟩)
    intro m hm same
    exact paired ⟨m, hm, same⟩

/-- Beside nothing every entry is new. -/
theorem between_nil (plan : List α) : between plan [] = ⟨Placed.ofList plan, [], []⟩ := by
  have unpaired (p : Placed α) : pair? (.ofList []) p = none := by
    rw [pair?, IdentityIndex.locate?_nil]
    rfl
  simp [between, unpaired, Placed.ofList]

section Empty

variable {α : Type} [Reconcilable α] {plan state : List α}

/-- There is nothing to do if nothing is new, left over or changed. -/
theorem isEmpty_iff : (between plan state).isEmpty = true ↔
    (between plan state).added = [] ∧ (between plan state).removed = [] ∧
      ∀ m ∈ (between plan state).matched,
        Reconcilable.changedFrom m.plan.entry m.state.entry = false := by
  simp only [isEmpty, membershipChanged, changed, Bool.and_eq_true, Bool.not_eq_true',
    Bool.or_eq_false_iff, Bool.not_eq_false', List.isEmpty_iff, List.filter_eq_nil_iff,
    Bool.not_eq_true, and_assoc]

/-- If there is nothing to do, an entry of the state has an unchanged counterpart in the plan. -/
theorem exists_unchanged (h : (between plan state).isEmpty = true) {x : α} (hx : x ∈ state) :
    ∃ p ∈ plan, Reconcilable.changedFrom p x = false := by
  obtain ⟨-, removed, unchanged⟩ := isEmpty_iff.1 h
  obtain ⟨p, hp, rfl⟩ := Placed.exists_mem_ofList hx
  rcases mem_removed_or_matched plan hp with left | ⟨m, hm, rfl⟩
  · rw [removed] at left
    cases left
  · exact ⟨m.plan.entry, Placed.entry_mem (mem_matched.1 hm).1, unchanged m hm⟩

/-- If there is nothing to do, an entry of the plan has an unchanged counterpart in the state. -/
theorem exists_unchanged_state (h : (between plan state).isEmpty = true) {p : α} (hp : p ∈ plan) :
    ∃ x ∈ state, Reconcilable.changedFrom p x = false := by
  obtain ⟨added, -, unchanged⟩ := isEmpty_iff.1 h
  rcases exists_added_or_matched state hp with ⟨q, hq, rfl⟩ | ⟨m, hm, rfl⟩
  · rw [added] at hq
    cases hq
  · exact ⟨m.state.entry, Placed.entry_mem (state_mem_of_mem_matched hm), unchanged m hm⟩

/-- There is nothing to do if every entry of the plan and every entry of the state has a counterpart
in the other, by which it is found and left unchanged. -/
theorem isEmpty_of_counterparts {R : α → α → Prop}
    (located : ∀ {p : α} {q : Placed α}, q ∈ Placed.ofList state → R p q.entry →
      (IdentityIndex.ofList state).locate? p = some q)
    (unchanged : ∀ {p x : α}, R p x → Reconcilable.changedFrom p x = false)
    (planned : ∀ p ∈ plan, ∃ x ∈ state, R p x) (kept : ∀ x ∈ state, ∃ p ∈ plan, R p x) :
    (between plan state).isEmpty = true := by
  have counterpart {p : Placed α} (hp : p ∈ Placed.ofList plan) :
      ∃ q, (IdentityIndex.ofList state).locate? p.entry = some q ∧ R p.entry q.entry := by
    obtain ⟨x, hx, hR⟩ := planned p.entry (Placed.entry_mem hp)
    obtain ⟨q, hq, rfl⟩ := Placed.exists_mem_ofList hx
    exact ⟨q, located hq hR, hR⟩
  refine isEmpty_iff.2 ⟨List.eq_nil_iff_forall_not_mem.2 fun p hp => ?_,
    List.eq_nil_iff_forall_not_mem.2 fun q hq => ?_, fun m hm => ?_⟩
  · obtain ⟨mem, none⟩ := mem_added.1 hp
    obtain ⟨q, found, -⟩ := counterpart mem
    cases none.symm.trans found
  · obtain ⟨mem, alone⟩ := mem_removed.1 hq
    obtain ⟨p, hp, hR⟩ := kept q.entry (Placed.entry_mem mem)
    obtain ⟨placed, hplaced, rfl⟩ := Placed.exists_mem_ofList hp
    exact alone ⟨placed, q⟩ (mem_matched.2 ⟨hplaced, located mem hR⟩) rfl
  · obtain ⟨mem, found⟩ := mem_matched.1 hm
    obtain ⟨q, found', hR⟩ := counterpart mem
    cases found'.symm.trans found
    exact unchanged hR

end Empty

/-! ### Sizes -/

/-- Every planned entry is new or in a pair. -/
theorem length_added_matched :
    (between plan state).added.length + (between plan state).matched.length = plan.length := by
  rw [← Placed.length_ofList plan]
  simp only [between, List.length_filterMap_eq_countP, ← List.countP_eq_length_filter]
  rw [Nat.add_comm, List.length_eq_countP_add_countP fun p => (pair? (.ofList state) p).isSome]
  congr 2
  funext p
  cases pair? (.ofList state) p <;> rfl

/-- Every entry of the state is in a pair or left over. -/
theorem length_state_le :
    state.length ≤ (between plan state).removed.length + (between plan state).matched.length := by
  let paired := (Placed.ofList state).filter fun placed =>
    !(between plan state).matched.all fun m => m.state.position != placed.position
  have split : state.length = (between plan state).removed.length + paired.length := by
    rw [← Placed.length_ofList state]
    exact List.length_eq_length_filter_add _
  have sub : paired.map Placed.position ⊆
      (between plan state).matched.map fun m => m.state.position := by
    intro position mem
    obtain ⟨p, hp, rfl⟩ := List.mem_map.1 mem
    obtain ⟨m, hm, same⟩ : ∃ m ∈ (between plan state).matched,
        m.state.position = p.position := by
      simpa using (List.mem_filter.1 hp).2
    exact List.mem_map.2 ⟨m, hm, same⟩
  have distinct : (paired.map Placed.position).Nodup :=
    Placed.nodup_position_ofList.sublist (List.filter_sublist.map _)
  have le := (distinct.subperm sub).length_le
  rw [List.length_map, List.length_map] at le
  omega

/-- With the new entries and without those that are left over, a state is no larger than its plan.
-/
theorem length_state_add_added_le (plan state : List α) :
    state.length + (between plan state).added.length ≤
      plan.length + (between plan state).removed.length := by
  have planned := @length_added_matched _ _ plan state
  have there := @length_state_le _ _ plan state
  omega

/-- A state without entries that are left over is no larger than the plan. -/
theorem length_state_le_of_removed (h : (between plan state).removed = []) :
    state.length ≤ plan.length := by
  have sizes := length_state_add_added_le plan state
  rw [h, List.length_nil] at sizes
  omega

/-! ### Entries found by label -/

/-- The entries of a plan are found in the state by their labels. -/
def FoundByLabel (plan state : List α) : Prop :=
  ∀ p ∈ plan, (IdentityIndex.ofList state).locate? p =
    (IdentityIndex.label? p).bind fun label =>
      Placed.first? state fun x => IdentityIndex.label? x = some label

/-- The entries of a plan have labels of their own, by which they are found in the state. -/
structure ByLabel (plan state : List α) : Prop where
  distinct : (plan.map IdentityIndex.label?).Nodup
  labelled : ∀ p ∈ plan, (IdentityIndex.label? p).isSome
  found : FoundByLabel plan state

/-- The entries of a pair have the same label. -/
theorem FoundByLabel.label?_eq (h : FoundByLabel plan state) {m : Pairing α}
    (hm : m ∈ (between plan state).matched) :
    ∃ label, IdentityIndex.label? m.plan.entry = some label ∧
      IdentityIndex.label? m.state.entry = some label := by
  obtain ⟨mem, located⟩ := mem_matched.1 hm
  rw [h _ (Placed.entry_mem mem)] at located
  obtain ⟨label, hlabel, hfirst⟩ := Option.bind_eq_some_iff.1 located
  exact ⟨label, hlabel, of_decide_eq_true (Placed.of_first?_eq_some hfirst).2⟩

/-- The entries of a pair have the same name, if only names tell entries apart. -/
theorem FoundByLabel.name_eq (h : FoundByLabel plan state)
    (unkeyed : ∀ x : α, Identified.naturalKey x = none) {m : Pairing α}
    (hm : m ∈ (between plan state).matched) :
    Identified.name m.plan.entry = Identified.name m.state.entry := by
  have named {x : α} {label : String ⊕ String} (hx : IdentityIndex.label? x = some label) :
      ∃ name, label = .inl name ∧ Identified.name x = .known name := by
    rcases label with name | key
    · exact ⟨name, rfl, (Attr.key?_eq_some_iff.1 (IdentityIndex.label?_eq_name.1 hx)).1⟩
    · have := IdentityIndex.label?_eq_naturalKey.1 hx
      rw [IdentityIndex.unnamedKey?, unkeyed] at this
      split at this <;> cases this
  obtain ⟨label, hp, hs⟩ := h.label?_eq hm
  obtain ⟨name, rfl, planned⟩ := named hp
  obtain ⟨name', same, there⟩ := named hs
  rw [planned, there, Sum.inl.inj same]

/-- The entries of a pair have the same label. -/
theorem ByLabel.label?_eq (h : ByLabel plan state) {m : Pairing α}
    (hm : m ∈ (between plan state).matched) :
    IdentityIndex.label? m.plan.entry = IdentityIndex.label? m.state.entry := by
  obtain ⟨label, hp, hs⟩ := h.found.label?_eq hm
  rw [hp, hs]

/-- A pair is known by the label of its entry of the state. -/
theorem ByLabel.plan_eq (h : ByLabel plan state) {m m' : Pairing α}
    (hm : m ∈ (between plan state).matched) (hm' : m' ∈ (between plan state).matched)
    (same : IdentityIndex.label? m.state.entry = IdentityIndex.label? m'.state.entry) :
    m.plan = m'.plan :=
  Placed.eq_of_nodup_map h.distinct (mem_matched.1 hm).1 (mem_matched.1 hm').1
    ((h.label?_eq hm).trans (same.trans (h.label?_eq hm').symm))

/-- A planned entry is in a pair if an entry of the state has its label. -/
theorem FoundByLabel.exists_located (h : FoundByLabel plan state) {p x : α} (hp : p ∈ plan)
    (hx : x ∈ state) {label : String ⊕ String} (planned : IdentityIndex.label? p = some label)
    (same : IdentityIndex.label? x = some label) :
    ∃ q, (IdentityIndex.ofList state).locate? p = some q ∧
      IdentityIndex.label? q.entry = some label := by
  rw [h p hp, planned, Option.bind_some]
  obtain ⟨q, hq⟩ := Placed.exists_first?_eq_some (q := fun x => IdentityIndex.label? x = some label)
    hx (decide_eq_true same)
  exact ⟨q, hq, of_decide_eq_true (Placed.of_first?_eq_some hq).2⟩

/-- There is nothing to do if every planned entry has its unchanged counterpart in the state, and
the state has no more entries than the plan. -/
theorem isEmpty_of_covered {α : Type} [Reconcilable α] {plan state : List α}
    (h : ByLabel plan state)
    (covered : ∀ p ∈ plan, ∃ x ∈ state, IdentityIndex.label? x = IdentityIndex.label? p ∧
      Reconcilable.changedFrom p x = false)
    (size : state.length ≤ plan.length) : (between plan state).isEmpty = true := by
  have sub : plan.map IdentityIndex.label? ⊆ state.map IdentityIndex.label? := by
    intro label mem
    obtain ⟨p, hp, rfl⟩ := List.mem_map.1 mem
    obtain ⟨x, hx, same, -⟩ := covered p hp
    exact List.mem_map.2 ⟨x, hx, same⟩
  have perm : (plan.map IdentityIndex.label?).Perm (state.map IdentityIndex.label?) :=
    (h.distinct.subperm sub).perm_of_length_le (by simpa using size)
  have distinct : (state.map IdentityIndex.label?).Nodup := perm.nodup_iff.1 h.distinct
  refine isEmpty_of_counterparts (R := fun p x => p ∈ plan ∧
    IdentityIndex.label? x = IdentityIndex.label? p ∧ Reconcilable.changedFrom p x = false)
    ?_ (fun hR => hR.2.2) ?_ ?_
  · rintro p q hq ⟨hp, same, -⟩
    obtain ⟨label, hlabel⟩ := Option.isSome_iff_exists.1 (h.labelled p hp)
    obtain ⟨q', found, there⟩ :=
      h.found.exists_located hp (Placed.entry_mem hq) hlabel (same.trans hlabel)
    rw [found, Placed.eq_of_nodup_map distinct (IdentityIndex.mem_of_locate? found) hq
      (there.trans (same.trans hlabel).symm)]
  · intro p hp
    obtain ⟨x, hx, same, unchanged⟩ := covered p hp
    exact ⟨x, hx, hp, same, unchanged⟩
  · intro x hx
    obtain ⟨p, hp, label⟩ := List.mem_map.1 (perm.mem_iff.2 (List.mem_map_of_mem hx))
    obtain ⟨x', hx', same, unchanged⟩ := covered p hp
    obtain rfl := List.inj_on_of_nodup_map distinct hx' hx (same.trans label)
    exact ⟨p, hp, hp, same, unchanged⟩

end Changes

end CloudProvision
