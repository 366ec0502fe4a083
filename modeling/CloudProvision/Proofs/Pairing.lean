import CloudProvision.Proofs.Changes
import Mathlib.Data.List.Forall2
import Mathlib.Data.List.Nodup

/-!
# Pairs that share an entry of the state

Every planned entry looks for its entry of the state on its own. Two of them can only find the same
one if the first finds it by its identifier and the second, which has none, by its label. Where this
is excluded the pairs are a partial bijection, and a plan that asks for no change lists the entries
of the state.

## Main definitions

* `Pairing.Rivals`: the pair of an identifier beside the pair of a label.
* `Contested`: a plan with such pairs of one entry of the state.
* `SameUpToOrder`: lists whose entries are related in some order.

## Main results

* `Changes.eq_or_rivals`: pairs of one entry of the state are the same, or rivals.
* `Changes.map_state_matched_append_perm`: with what is left over, pairs with entries of their own
  account for the state.
* `Changes.nodup_state_iff`: the pairs have entries of the state of their own exactly if none is
  contested.
* `Changes.sameUpToOrder_of_isEmpty`: what a plan that asks for no change lists.
-/

namespace CloudProvision

open IdentityIndex (label?)

/-- Two lists have related entries, up to the order of the second one. -/
def SameUpToOrder {α : Type} (R : α → α → Prop) (plan state : List α) : Prop :=
  ∃ order, order.Perm state ∧ List.Forall₂ R plan order

/-- Such lists have the same length. -/
theorem SameUpToOrder.length_eq {α : Type} {R : α → α → Prop} {plan state : List α}
    (h : SameUpToOrder R plan state) : plan.length = state.length := by
  obtain ⟨order, perm, related⟩ := h
  rw [related.length_eq, perm.length_eq]

variable {α : Type} [Identified α]

/-- The identifiers of a list are given once. Blank ones do not count. -/
def DistinctIds (entries : List α) : Prop :=
  (entries.filterMap fun x => (Identified.id x).key?).Nodup

/-- The labels of a list are given once, where entries have one. -/
def DistinctLabels (entries : List α) : Prop :=
  (entries.filterMap label?).Nodup

instance (entries : List α) : Decidable (DistinctIds entries) :=
  inferInstanceAs (Decidable (List.Nodup _))

instance (entries : List α) : Decidable (DistinctLabels entries) :=
  inferInstanceAs (Decidable (List.Nodup _))

/-- Labels that are given once are given once to the entries, if each has one. -/
theorem DistinctLabels.nodup_map {entries : List α} (h : DistinctLabels entries)
    (labelled : ∀ x ∈ entries, (label? x).isSome) : (entries.map label?).Nodup := by
  have all : (entries.filterMap label?).map some = entries.map label? := by
    rw [List.map_filterMap, ← List.filterMap_eq_map]
    refine List.filterMap_congr fun x hx => ?_
    obtain ⟨label, hlabel⟩ := Option.isSome_iff_exists.1 (labelled x hx)
    rw [Function.comp_apply, hlabel]
    rfl
  rw [← all]
  exact List.Nodup.map (fun _ _ same => Option.some.inj same) h

/-- The planned entry of the first pair has the identifier of its entry of the state, and the one of
the second has no identifier and this entry's label. -/
structure Pairing.Rivals (m m' : Pairing α) : Prop where
  id : ∃ id, (Identified.id m.plan.entry).key? = some id ∧
    (Identified.id m.state.entry).key? = some id
  bare : (Identified.id m'.plan.entry).key? = none
  label : ∃ label, label? m'.plan.entry = some label ∧ label? m.state.entry = some label

/-- A planned entry without an identifier corresponds to the entry of the state whose identifier
another planned entry has. -/
def Contested (plan state : List α) : Prop :=
  ∃ p ∈ plan, ∃ q ∈ plan, (Identified.id p).key?.isSome ∧ (Identified.id q).key? = none ∧
    ((IdentityIndex.ofList state).find? q).map (fun x => (Identified.id x).key?) =
      some (Identified.id p).key?

instance (plan state : List α) : Decidable (Contested plan state) :=
  inferInstanceAs (Decidable (∃ p ∈ plan, ∃ q ∈ plan, _))

namespace Changes

variable {plan state : List α}

/-- Pairs of one entry of the state are the same, or one of them is made by the identifier and the
other by the label. -/
theorem eq_or_rivals (ids : DistinctIds plan) (labels : DistinctLabels plan) {m m' : Pairing α}
    (hm : m ∈ (between plan state).matched) (hm' : m' ∈ (between plan state).matched)
    (same : m.state = m'.state) : m = m' ∨ m.Rivals m' ∨ m'.Rivals m := by
  obtain ⟨hp, found⟩ := mem_matched.1 hm
  obtain ⟨hp', found'⟩ := mem_matched.1 hm'
  have eq_of_plan (h : m.plan = m'.plan) : m = m' := by
    cases m
    cases m'
    exact congr (congrArg Pairing.mk h) same
  rcases IdentityIndex.id_or_label_of_locate? found with
    ⟨id, key, there⟩ | ⟨⟨label, planned, there⟩, absent⟩ <;>
  rcases IdentityIndex.id_or_label_of_locate? found' with
    ⟨id', key', there'⟩ | ⟨⟨label', planned', there'⟩, absent'⟩
  · -- Both by the identifier of the entry.
    rw [← same, there] at there'
    exact .inl (eq_of_plan (Placed.eq_of_nodup_filterMap ids hp hp' key (key'.trans there'.symm)))
  · rw [← same] at there' absent'
    exact .inr (.inl ⟨⟨id, key, there⟩, absent'.resolve_right (by simp [there]),
      ⟨label', planned', there'⟩⟩)
  · rw [same] at there absent
    exact .inr (.inr ⟨⟨id', key', there'⟩, absent.resolve_right (by simp [there']),
      ⟨label, planned, there⟩⟩)
  · -- Both by the label of the entry.
    rw [← same, there] at there'
    exact .inl (eq_of_plan
      (Placed.eq_of_nodup_filterMap labels hp hp' planned (planned'.trans there'.symm)))

/-- The pairs of a plan are pairwise distinct. -/
theorem nodup_matched : (between plan state).matched.Nodup := by
  have planned : (between plan state).matched =
      (Placed.ofList plan).filterMap (pair? (.ofList state)) := rfl
  rw [planned]
  refine (Placed.nodup_position_ofList.of_map _).filterMap ?_
  intro p q m hp hq
  obtain ⟨_, -, rfl⟩ := Option.map_eq_some_iff.1 hp
  obtain ⟨_, -, same⟩ := Option.map_eq_some_iff.1 hq
  exact (congrArg Pairing.plan same).symm

/-- The pairs have entries of the state of their own if they are never rivals. -/
theorem nodup_state (ids : DistinctIds plan) (labels : DistinctLabels plan)
    (peace : ∀ m ∈ (between plan state).matched, ∀ m' ∈ (between plan state).matched,
      m.state = m'.state → ¬m.Rivals m') :
    ((between plan state).matched.map Pairing.state).Nodup := by
  refine List.Nodup.map_on (fun m hm m' hm' same => ?_) nodup_matched
  rcases eq_or_rivals ids labels hm hm' same with eq | rivals | rivals
  · exact eq
  · exact absurd rivals (peace m hm m' hm' same)
  · exact absurd rivals (peace m' hm' m hm same.symm)

/-- The pairs have entries of the state of their own exactly if none is contested. -/
theorem nodup_state_iff (ids : DistinctIds plan) (labels : DistinctLabels plan)
    (stateIds : DistinctIds state) :
    ((between plan state).matched.map Pairing.state).Nodup ↔ ¬Contested plan state := by
  constructor
  · rintro distinct ⟨p, hp, q, hq, present, bare, found⟩
    obtain ⟨id, key⟩ := Option.isSome_iff_exists.1 present
    obtain ⟨x, hx, there⟩ := Option.map_eq_some_iff.1 found
    obtain ⟨r, hr, rfl⟩ := Option.map_eq_some_iff.1 hx
    obtain ⟨p, placed, rfl⟩ := Placed.exists_mem_ofList hp
    obtain ⟨q, placed', rfl⟩ := Placed.exists_mem_ofList hq
    have mem := IdentityIndex.mem_of_locate? hr
    obtain ⟨r', hr', there'⟩ :=
      IdentityIndex.locate?_of_key? (Placed.entry_mem mem) key (there.trans key)
    obtain rfl : r' = r := Placed.eq_of_nodup_filterMap stateIds (IdentityIndex.mem_of_locate? hr')
      mem there' (there.trans key)
    have same := List.inj_on_of_nodup_map distinct
      (mem_matched.2 ⟨placed, hr'⟩ : (⟨p, r'⟩ : Pairing α) ∈ _)
      (mem_matched.2 ⟨placed', hr⟩ : (⟨q, r'⟩ : Pairing α) ∈ _) rfl
    cases (congrArg Pairing.plan same : p = q)
    cases key.symm.trans bare
  · refine fun free => nodup_state ids labels fun m hm m' hm' same rivals => free ?_
    obtain ⟨id, key, there⟩ := rivals.id
    obtain ⟨hp, -⟩ := mem_matched.1 hm
    obtain ⟨hq, found⟩ := mem_matched.1 hm'
    refine ⟨m.plan.entry, Placed.entry_mem hp, m'.plan.entry, Placed.entry_mem hq,
      Option.isSome_iff_exists.2 ⟨id, key⟩, rivals.bare, ?_⟩
    rw [IdentityIndex.find?, found, ← same, Option.map_some, Option.map_some, there, key]

/-- The entries of the state that planned entries correspond to, in the order of the plan. -/
theorem map_state_matched (plan state : List α) :
    (between plan state).matched.map Pairing.state =
      plan.filterMap (IdentityIndex.ofList state).locate? := by
  have planned : (between plan state).matched =
      (Placed.ofList plan).filterMap (pair? (.ofList state)) := rfl
  rw [planned, List.map_filterMap]
  conv_rhs => rw [← Placed.map_entry_ofList plan, List.filterMap_map]
  refine List.filterMap_congr fun p _ => ?_
  rw [pair?, Option.map_map]
  exact Option.map_id'

/-- The planned entries of the pairs are those that correspond to an entry of the state. -/
theorem map_plan_matched_eq_filter (plan state : List α) :
    (between plan state).matched.map Pairing.plan =
      (Placed.ofList plan).filter fun p => (pair? (.ofList state) p).isSome := by
  have planned : (between plan state).matched =
      (Placed.ofList plan).filterMap (pair? (.ofList state)) := rfl
  rw [planned, List.map_filterMap, ← List.filterMap_eq_filter]
  refine List.filterMap_congr fun p _ => ?_
  cases located : (IdentityIndex.ofList state).locate? p.entry <;>
    simp [pair?, located, Option.guard]

/-- If nothing is new, every planned entry has its pair. -/
theorem map_plan_matched (added : (between plan state).added = []) :
    (between plan state).matched.map Pairing.plan = Placed.ofList plan := by
  rw [map_plan_matched_eq_filter, List.filter_eq_self]
  intro p hp
  have old : p ∉ (between plan state).added := by simp [added]
  simpa [between, hp, Option.isSome_iff_ne_none] using old

/-- The pairs are in the order of the plan. -/
theorem ascending_matched (plan state : List α) : (between plan state).matched.Pairwise
    fun m m' => m.plan.position < m'.plan.position := by
  have planned : ((between plan state).matched.map Pairing.plan).Pairwise
      fun p q => p.position < q.position := by
    rw [map_plan_matched_eq_filter]
    exact Placed.ascending_ofList.sublist List.filter_sublist
  exact List.Pairwise.of_map Pairing.plan (fun _ _ earlier => earlier) planned

/-- The entries of the state are those of the pairs and those that are left over, if the pairs have
entries of their own. -/
theorem map_state_matched_append_perm
    (distinct : ((between plan state).matched.map Pairing.state).Nodup) :
    ((between plan state).matched.map Pairing.state ++ (between plan state).removed).Perm
      (Placed.ofList state) := by
  have unpaired : ((between plan state).matched.map Pairing.state).Disjoint
      (between plan state).removed := by
    intro q paired left
    obtain ⟨m, hm, rfl⟩ := List.mem_map.1 paired
    exact (mem_removed.1 left).2 m hm rfl
  have leftOver : (between plan state).removed.Nodup :=
    (Placed.nodup_position_ofList.of_map _).sublist List.filter_sublist
  refine (List.perm_ext_iff_of_nodup (List.nodup_append'.2 ⟨distinct, leftOver, unpaired⟩)
    (Placed.nodup_position_ofList.of_map _)).2 fun q => ?_
  rw [List.mem_append]
  constructor
  · rintro (paired | left)
    · obtain ⟨m, hm, rfl⟩ := List.mem_map.1 paired
      exact state_mem_of_mem_matched hm
    · exact (mem_removed.1 left).1
  · intro hq
    rcases mem_removed_or_matched plan hq with left | ⟨m, hm, rfl⟩
    · exact .inr left
    · exact .inl (List.mem_map_of_mem hm)

/-- If nothing is left over, the pairs are those of the entries of the state. -/
theorem map_state_matched_perm (removed : (between plan state).removed = [])
    (distinct : ((between plan state).matched.map Pairing.state).Nodup) :
    ((between plan state).matched.map Pairing.state).Perm (Placed.ofList state) := by
  simpa [removed] using map_state_matched_append_perm distinct

/-- A plan that asks for no change lists the entries of the state, in some order and up to what does
not count as a change, if its own entries are told apart. -/
theorem sameUpToOrder_of_isEmpty {α : Type} [Reconcilable α] {plan state : List α}
    {R : α → α → Prop} (ids : DistinctIds plan) (labels : DistinctLabels plan)
    (unchanged : ∀ p ∈ plan, ∀ x ∈ state, Reconcilable.changedFrom p x = false → R p x)
    (sameLabel : ∀ p x, R p x → label? p = label? x)
    (h : (between plan state).isEmpty = true) : SameUpToOrder R plan state := by
  obtain ⟨added, removed, same⟩ := isEmpty_iff.1 h
  have related (m : Pairing α) (hm : m ∈ (between plan state).matched) :
      R m.plan.entry m.state.entry :=
    unchanged _ (Placed.entry_mem (mem_matched.1 hm).1) _
      (Placed.entry_mem (state_mem_of_mem_matched hm)) (same m hm)
  -- Rivals are no two planned entries: unchanged, the first one has the label of the second.
  have distinct : ((between plan state).matched.map Pairing.state).Nodup := by
    refine nodup_state ids labels fun m hm m' hm' _ rivals => ?_
    obtain ⟨id, key, -⟩ := rivals.id
    obtain ⟨label, planned', there⟩ := rivals.label
    have planned : label? m.plan.entry = some label := (sameLabel _ _ (related m hm)).trans there
    have eq : m.plan = m'.plan := Placed.eq_of_nodup_filterMap labels (mem_matched.1 hm).1
      (mem_matched.1 hm').1 planned planned'
    cases key.symm.trans (eq ▸ rivals.bare)
  have planned : plan = (between plan state).matched.map fun m => m.plan.entry := by
    have entries := congrArg (List.map Placed.entry) (map_plan_matched added)
    rw [List.map_map, Placed.map_entry_ofList] at entries
    exact entries.symm
  have perm : ((between plan state).matched.map fun m => m.state.entry).Perm state := by
    have entries := (map_state_matched_perm removed distinct).map Placed.entry
    rwa [List.map_map, Placed.map_entry_ofList] at entries
  refine ⟨_, perm, ?_⟩
  conv_lhs => rw [planned]
  rw [List.forall₂_map_left_iff, List.forall₂_map_right_iff, List.forall₂_same]
  exact related

end Changes

end CloudProvision
