import CloudProvision.Proofs.Pairing

/-!
# Reordered lists

A list may be reordered before it is compared. If the identifiers and the labels of the state tell
its entries apart, it does not matter in which order the state lists them: a planned entry finds the
same one wherever it stands. Planned entries find theirs one by one, so a reordered plan has the
same pairs, in its own order.

`former` tells where an entry of the reordered list stood before, and `R` how the two are related:
entries may differ in what plays no part in the comparison.

## Main definitions

* `Placed.MovedFrom`, `Reordered`: an entry that was moved, and a list whose entries were.
* `Alike`: a relation under which entries are looked up alike.
* `Changes.SameForState`, `Changes.SameForPlan`: changes that are the same but for the order of the
  state, or of the plan.

## Main results

* `exists_reordered`: every permutation of a list is a reordering.
* `IdentityIndex.locate?_reordered`: what is found in a reordered list.
* `Changes.sameForState`, `Changes.sameForPlan`: the changes of a reordered state and of a reordered
  plan.
-/

namespace CloudProvision

open IdentityIndex (label? locate?_ofList)

/-! ### Lists in another order -/

/-- Related lists stay related if related elements are kept alike. -/
theorem forall₂_filter {α β : Type} {R : α → β → Prop} {xs : List α} {ys : List β} {p : α → Bool}
    {q : β → Bool} (h : List.Forall₂ R xs ys) (same : ∀ x y, R x y → p x = q y) :
    List.Forall₂ R (xs.filter p) (ys.filter q) :=
  List.rel_filter (fun x y hxy => by simp only [same x y hxy]) h

/-- Values that are related are both absent or both present. -/
theorem isNone_eq_of_rel {α β : Type} {R : α → β → Prop} {x : Option α} {y : Option β}
    (h : Option.Rel R x y) : x.isNone = y.isNone := by
  cases h <;> rfl

namespace SameUpToOrder

variable {α β : Type} {R : α → α → Prop} {S : β → β → Prop} {after before : List α}

/-- What is kept of related entries, in lists that are the same up to order. -/
theorem filterMap {f g : α → Option β} (h : SameUpToOrder R after before)
    (related : ∀ x y, R x y → Option.Rel S (f x) (g y)) :
    SameUpToOrder S (after.filterMap f) (before.filterMap g) := by
  obtain ⟨order, perm, entries⟩ := h
  exact ⟨order.filterMap g, perm.filterMap g,
    List.rel_filterMap (fun x y hxy => related x y hxy) entries⟩

/-- The same for entries that satisfy a predicate. -/
theorem filter {p q : α → Bool} (h : SameUpToOrder R after before)
    (same : ∀ x y, R x y → p x = q y) : SameUpToOrder R (after.filter p) (before.filter q) := by
  obtain ⟨order, perm, entries⟩ := h
  exact ⟨order.filter q, perm.filter q, forall₂_filter entries same⟩

/-- Whether all entries satisfy a predicate does not depend on the order. -/
theorem all_eq {p q : α → Bool} (h : SameUpToOrder R after before)
    (same : ∀ x y, R x y → p x = q y) : after.all p = before.all q := by
  obtain ⟨order, perm, entries⟩ := h
  have related : after.all p = order.all q := by
    clear perm
    induction entries with
    | nil => rfl
    | cons first _ ih => rw [List.all_cons, List.all_cons, same _ _ first, ih]
  rw [related, perm.all_eq]

/-- Whether there is no entry does not depend on the order. -/
theorem isEmpty_eq (h : SameUpToOrder R after before) : after.isEmpty = before.isEmpty := by
  rw [Bool.eq_iff_iff, List.isEmpty_iff_length_eq_zero, List.isEmpty_iff_length_eq_zero,
    h.length_eq]

end SameUpToOrder

section Reordered

variable {α : Type}

/-- The entry stood at its former place before, as one that is related to it. -/
structure Placed.MovedFrom (former : Nat → Nat) (R : α → α → Prop) (after before : Placed α) :
    Prop where
  position : former after.position = before.position
  entry : R after.entry before.entry

/-- The entries of a list are those of another one in another order, each related to the one at its
former place. -/
def Reordered (former : Nat → Nat) (R : α → α → Prop) (after before : List α) : Prop :=
  SameUpToOrder (Placed.MovedFrom former R) (Placed.ofList after) (Placed.ofList before)

variable {former : Nat → Nat} {R : α → α → Prop} {after before : List α}

/-- A list that is the same up to order is reordered. -/
theorem exists_reordered (h : SameUpToOrder R after before) :
    ∃ former, Reordered former R after before := by
  obtain ⟨order, perm, entries⟩ := h
  -- The order of the entries is one of the placed entries, which tell where each one stood.
  have placed : List.Forall₂ (fun x p => p.entry = x) before (Placed.ofList before) := by
    have same : List.Forall₂ (fun x p => p.entry = x) ((Placed.ofList before).map Placed.entry)
        (Placed.ofList before) := by
      rw [List.forall₂_map_left_iff, List.forall₂_same]
      exact fun _ _ => rfl
    rwa [Placed.map_entry_ofList] at same
  obtain ⟨moved, named, perm'⟩ := List.perm_comp_forall₂ perm placed
  have related : List.Forall₂ (fun x p => R x p.entry) after moved := by
    rw [List.forall₂_iff_get] at entries named ⊢
    obtain ⟨length, entries⟩ := entries
    obtain ⟨length', named⟩ := named
    refine ⟨length.trans length', fun i hi hi' => ?_⟩
    rw [named i (length ▸ hi) hi']
    exact entries i hi (length ▸ hi)
  refine ⟨fun i => (moved[i]?.map Placed.position).getD 0, moved, perm', ?_⟩
  rw [List.forall₂_iff_get] at related ⊢
  obtain ⟨length, related⟩ := related
  refine ⟨by rw [Placed.length_ofList, length], fun i hi hi' => ?_⟩
  have there : (Placed.ofList after).get ⟨i, hi⟩ =
      ⟨i, after.get ⟨i, by simpa using hi⟩⟩ := by
    simp [Placed.ofList]
  rw [there]
  exact ⟨by simp [List.getElem?_eq_getElem hi'], related i (by simpa using hi) hi'⟩

/-- No two entries of a reordered list stood at the same place. -/
theorem Reordered.position_eq_of_former_eq (h : Reordered former R after before) {p q : Placed α}
    (hp : p ∈ Placed.ofList after) (hq : q ∈ Placed.ofList after)
    (same : former p.position = former q.position) : p = q := by
  obtain ⟨order, perm, moved⟩ := h
  have positions : (Placed.ofList after).map (fun p => former p.position) =
      order.map Placed.position := by
    rw [← List.forall₂_eq_eq_eq, List.forall₂_map_left_iff, List.forall₂_map_right_iff]
    exact moved.imp fun _ _ hm => hm.position
  have distinct : ((Placed.ofList after).map fun p => former p.position).Nodup := by
    rw [positions]
    exact ((perm.map Placed.position).nodup_iff).2 Placed.nodup_position_ofList
  exact List.inj_on_of_nodup_map distinct hp hq same

end Reordered

/-- Attributes in the same state, whose values are related if they are known. -/
inductive Attr.Related {α : Type} (R : α → α → Prop) : Attr α → Attr α → Prop where
  | known {x y : α} (value : R x y) : Related R (.known x) (.known y)
  | null : Related R .null .null
  | unknown : Related R .unknown .unknown

/-! ### What is found -/

/-- Related entries are looked up alike, and found alike: they have the same identifier and the same
label. -/
structure Alike {α : Type} [Identified α] (R : α → α → Prop) : Prop where
  id : ∀ {x y : α}, R x y → (Identified.id x).key? = (Identified.id y).key?
  label : ∀ {x y : α}, R x y → label? x = label? y

/-- Equal entries are looked up alike. -/
theorem alike_eq {α : Type} [Identified α] : Alike (@Eq α) :=
  ⟨fun h => h ▸ rfl, fun h => h ▸ rfl⟩

namespace Placed

variable {α : Type} {former : Nat → Nat} {R : α → α → Prop} {after before : List α}

/-- A search finds the same entry in a reordered list, if no other one satisfies the predicate. -/
theorem first?_reordered (h : Reordered former R after before) {q : α → Bool}
    (same : ∀ x y, R x y → q x = q y)
    (single : ∀ p ∈ Placed.ofList before, ∀ p' ∈ Placed.ofList before,
      q p.entry = true → q p'.entry = true → p = p') :
    Option.Rel (Placed.MovedFrom former R) (first? after q) (first? before q) := by
  obtain ⟨order, perm, moved⟩ := h
  have found : Option.Rel (Placed.MovedFrom former R) (first? after q)
      (order.find? fun p => q p.entry) := by
    rw [first?]
    clear perm
    generalize Placed.ofList after = entries at moved
    induction moved with
    | nil => exact .none
    | @cons p p' _ _ first _ ih =>
        rw [List.find?_cons, List.find?_cons, same _ _ first.entry]
        cases q p'.entry with
        | true => exact .some first
        | false => exact ih
  have unmoved : order.find? (fun p => q p.entry) = first? before q := by
    rw [first?]
    cases there : (Placed.ofList before).find? fun p => q p.entry with
    | none =>
        rw [List.find?_eq_none] at there ⊢
        exact fun p hp => there p (perm.mem_iff.1 hp)
    | some p =>
        have mem := List.mem_of_find?_eq_some there
        have holds : q p.entry = true := by simpa using List.find?_some there
        obtain ⟨p', hp'⟩ : ∃ p', order.find? (fun p => q p.entry) = some p' :=
          Option.isSome_iff_exists.1 (List.find?_isSome.2 ⟨p, perm.mem_iff.2 mem, holds⟩)
        have holds' : q p'.entry = true := by simpa using List.find?_some hp'
        rw [hp', single p' (perm.mem_iff.1 (List.mem_of_find?_eq_some hp')) p mem holds' holds]
  rwa [unmoved] at found

end Placed

namespace IdentityIndex

open Placed (first? first?_reordered)

variable {α β : Type} [Identified α] [Identified β] {former : Nat → Nat} {R : α → α → Prop}
  {after before : List α}

/-- Entries with the same identifier and the same label find the same. -/
theorem locate?_congr {entries : List α} {x y : β}
    (id : (Identified.id x).key? = (Identified.id y).key?) (label : label? x = label? y) :
    (ofList entries).locate? x = (ofList entries).locate? y := by
  rw [locate?_ofList, locate?_ofList, id, label]

/-- In a reordered list the same entry is found, if identifiers and labels tell the entries
apart. -/
theorem locate?_reordered (h : Reordered former R after before) (alike : Alike R)
    (ids : DistinctIds before) (labels : DistinctLabels before) (probe : β) :
    Option.Rel (Placed.MovedFrom former R) ((ofList after).locate? probe)
      ((ofList before).locate? probe) := by
  have byId (id : String) := first?_reordered h
    (q := fun x => (Identified.id x).key? = some id)
    (fun x y hxy => by rw [alike.id hxy])
    fun p hp p' hp' key key' => Placed.eq_of_nodup_filterMap ids hp hp'
      (of_decide_eq_true key) (of_decide_eq_true key')
  have byLabel (label : String ⊕ String) := first?_reordered h
    (q := fun x => label? x = some label)
    (fun x y hxy => by rw [alike.label hxy])
    fun p hp p' hp' key key' => Placed.eq_of_nodup_filterMap labels hp hp'
      (of_decide_eq_true key) (of_decide_eq_true key')
  rw [locate?_ofList, locate?_ofList]
  have found : Option.Rel (Placed.MovedFrom former R)
      ((Identified.id probe).key?.bind fun id =>
        first? after fun x => (Identified.id x).key? = some id)
      ((Identified.id probe).key?.bind fun id =>
        first? before fun x => (Identified.id x).key? = some id) := by
    cases (Identified.id probe).key? with
    | none => exact .none
    | some id => exact byId id
  have named : Option.Rel (Placed.MovedFrom former R)
      ((label? probe).bind fun label => first? after fun x => label? x = some label)
      ((label? probe).bind fun label => first? before fun x => label? x = some label) := by
    cases label? probe with
    | none => exact .none
    | some label => exact byLabel label
  generalize ((Identified.id probe).key?.bind fun id => first? after _) = x at found ⊢
  generalize ((Identified.id probe).key?.bind fun id => first? before _) = y at found ⊢
  generalize ((label? probe).bind fun label => first? after _) = x' at named ⊢
  generalize ((label? probe).bind fun label => first? before _) = y' at named ⊢
  cases found with
  | some moved => exact .some moved
  | none =>
      cases named with
      | none => exact .none
      | @some p p' moved =>
          rw [Option.none_or, Option.none_or, Option.filter_some, Option.filter_some,
            alike.id moved.entry]
          split
          · exact .some moved
          · exact .none

end IdentityIndex

/-! ### What changes -/

/-- Related entries are the same to a comparison. -/
structure Interchangeable {α : Type} [Reconcilable α] (R : α → α → Prop) : Prop
    extends Alike R where
  refl : ∀ x : α, R x x
  changed : ∀ {p q x y : α}, R p q → R x y →
    Reconcilable.changedFrom p x = Reconcilable.changedFrom q y

/-- Equal entries are the same to a comparison. -/
theorem interchangeable_eq {α : Type} [Reconcilable α] : Interchangeable (@Eq α) where
  toAlike := alike_eq
  refl _ := rfl
  changed hp hx := by rw [hp, hx]

/-- Pairs of one planned entry, whose entry of the state was moved. -/
structure Pairing.StateMoved {α : Type} (former : Nat → Nat) (R : α → α → Prop)
    (after before : Pairing α) : Prop where
  plan : after.plan = before.plan
  state : after.state.MovedFrom former R before.state

/-- Pairs of one entry of the state, whose planned entry was moved. -/
structure Pairing.PlanMoved {α : Type} (former : Nat → Nat) (R : α → α → Prop)
    (after before : Pairing α) : Prop where
  plan : after.plan.MovedFrom former R before.plan
  state : after.state = before.state

/-- A list in the order of its positions whose elements are related to those of another one. -/
structure InOrder {β : Type} (position : β → Nat) (R : β → β → Prop) (after before : List β) :
    Prop where
  related : SameUpToOrder R after before
  ascending : after.Pairwise fun x y => position x < position y

/-- A part of such lists. -/
theorem InOrder.filter {β : Type} {position : β → Nat} {R : β → β → Prop} {after before : List β}
    {p q : β → Bool} (h : InOrder position R after before) (same : ∀ x y, R x y → p x = q y) :
    InOrder position R (after.filter p) (before.filter q) :=
  ⟨h.related.filter same, h.ascending.filter p⟩

namespace Changes

variable {α : Type}

section Reconcilable

variable [Reconcilable α] (former : Nat → Nat) (R : α → α → Prop)

/-- What the order of the state leaves of changes: the new entries, and the planned entries with
their partners. What is left over is the same in another order. -/
structure SameForState (after before : Changes α) : Prop where
  added : after.added = before.added
  matched : List.Forall₂ (Pairing.StateMoved former R) after.matched before.matched
  changed : List.Forall₂ (Pairing.StateMoved former R) after.changed before.changed
  removed : SameUpToOrder (Placed.MovedFrom former R) after.removed before.removed

/-- What the order of the plan leaves of changes: what is left over. The new entries and the pairs
are the same in the order of the plan. -/
structure SameForPlan (after before : Changes α) : Prop where
  added : InOrder Placed.position (Placed.MovedFrom former R) after.added before.added
  matched : InOrder (·.plan.position) (Pairing.PlanMoved former R) after.matched before.matched
  changed : InOrder (·.plan.position) (Pairing.PlanMoved former R) after.changed before.changed
  removed : after.removed = before.removed

end Reconcilable

variable {former : Nat → Nat} {R : α → α → Prop} {plan plan' state state' : List α}

/-- A planned entry has the same partner in a reordered state. -/
theorem pair?_of_state_reordered [Identified α] (alike : Alike R)
    (h : Reordered former R state' state) (ids : DistinctIds state)
    (labels : DistinctLabels state) (p : Placed α) :
    Option.Rel (Pairing.StateMoved former R) (pair? (.ofList state') p)
      (pair? (.ofList state) p) := by
  rw [pair?, pair?]
  have found := IdentityIndex.locate?_reordered h alike ids labels p.entry
  generalize (IdentityIndex.ofList state').locate? p.entry = x' at found ⊢
  generalize (IdentityIndex.ofList state).locate? p.entry = x at found ⊢
  cases found with
  | none => exact .none
  | some moved => exact .some ⟨rfl, moved⟩

/-- A moved planned entry has the same partner. -/
theorem pair?_of_plan_moved [Identified α] (alike : Alike R) {p q : Placed α}
    (moved : p.MovedFrom former R q) :
    Option.Rel (Pairing.PlanMoved former R) (pair? (.ofList state) p)
      (pair? (.ofList state) q) := by
  rw [pair?, pair?, IdentityIndex.locate?_congr (alike.id moved.entry) (alike.label moved.entry)]
  cases (IdentityIndex.ofList state).locate? q.entry with
  | none => exact .none
  | some x => exact .some ⟨moved, rfl⟩

/-- Pairs of a reordered state and of the state it was take the same entries. -/
theorem all_ne_of_state_moved {matched' matched : List (Pairing α)} {x' x : Placed α}
    (h : Reordered former R state' state) (mem' : x' ∈ Placed.ofList state')
    (moved : x'.MovedFrom former R x) (listed : ∀ m ∈ matched', m.state ∈ Placed.ofList state')
    (pairs : List.Forall₂ (Pairing.StateMoved former R) matched' matched) :
    (matched'.all fun m => m.state.position != x'.position) =
      matched.all fun m => m.state.position != x.position := by
  induction pairs with
  | nil => rfl
  | @cons m' m _ _ first _ ih =>
      obtain ⟨here, later⟩ := List.forall_mem_cons.1 listed
      have taken : m'.state.position = x'.position ↔ m.state.position = x.position := by
        rw [← first.state.position, ← moved.position]
        exact ⟨congrArg former, fun same =>
          congrArg Placed.position (h.position_eq_of_former_eq here mem' same)⟩
      have same : (m'.state.position != x'.position) = (m.state.position != x.position) := by
        rw [Bool.eq_iff_iff, bne_iff_ne, bne_iff_ne, Ne, Ne, taken]
      rw [List.all_cons, List.all_cons, same, ih later]

/-- The order of the state does not matter, if identifiers and labels tell its entries apart. -/
theorem sameForState [Reconcilable α] (interchangeable : Interchangeable R)
    (h : Reordered former R state' state) (ids : DistinctIds state)
    (labels : DistinctLabels state) :
    SameForState former R (between plan state') (between plan state) := by
  have pairs := pair?_of_state_reordered interchangeable.toAlike h ids labels
  have matched : List.Forall₂ (Pairing.StateMoved former R) (between plan state').matched
      (between plan state).matched := by
    refine List.rel_filterMap (R := Eq) ?_ (List.forall₂_same.2 fun _ _ => rfl)
    rintro p _ rfl
    exact pairs p
  refine ⟨List.filter_congr fun p _ => isNone_eq_of_rel (pairs p), matched, ?_, ?_⟩
  · refine forall₂_filter matched fun m' m moved => ?_
    rw [moved.plan, interchangeable.changed (interchangeable.refl _) moved.state.entry]
  · obtain ⟨order, perm, moved⟩ := h
    have listed : List.Forall₂ (fun x' x => x' ∈ Placed.ofList state' ∧ x'.MovedFrom former R x)
        (Placed.ofList state') order :=
      (List.forall₂_and_left _ _).2 ⟨fun _ hx => hx, moved⟩
    refine ⟨_, perm.filter _, (forall₂_filter listed fun x' x hx => ?_).imp fun _ _ hx => hx.2⟩
    exact all_ne_of_state_moved ⟨order, perm, moved⟩ hx.1 hx.2
      (fun m hm => state_mem_of_mem_matched hm) matched

/-- A reordered plan has the same pairs, in its own order. -/
theorem sameForPlan [Reconcilable α] (interchangeable : Interchangeable R)
    (h : Reordered former R plan' plan) :
    SameForPlan former R (between plan' state) (between plan state) := by
  have pairs (p q : Placed α) (moved : p.MovedFrom former R q) :
      Option.Rel (Pairing.PlanMoved former R) (pair? (.ofList state) p)
        (pair? (.ofList state) q) :=
    pair?_of_plan_moved interchangeable.toAlike moved
  have matched : InOrder (·.plan.position) (Pairing.PlanMoved former R)
      (between plan' state).matched (between plan state).matched := by
    refine ⟨h.filterMap pairs, List.pairwise_filterMap.2 ?_⟩
    refine Placed.ascending_ofList.imp fun {p q} later m hm m' hm' => ?_
    obtain ⟨_, -, rfl⟩ := Option.map_eq_some_iff.1 hm
    obtain ⟨_, -, rfl⟩ := Option.map_eq_some_iff.1 hm'
    exact later
  refine ⟨⟨h.filter fun _ _ moved => isNone_eq_of_rel (pairs _ _ moved),
    Placed.ascending_ofList.filter _⟩, matched, matched.filter fun m' m moved => ?_, ?_⟩
  · rw [moved.state, interchangeable.changed moved.plan.entry (interchangeable.refl _)]
  · -- What is left over depends on the pairs only by their entries of the state.
    refine List.filter_congr fun x _ => ?_
    exact matched.related.all_eq fun m' m moved => by rw [moved.state]

/-- Whether there is nothing to do does not depend on the order of the state. -/
theorem SameForState.isEmpty_eq [Reconcilable α] {after before : Changes α}
    (h : SameForState former R after before) : after.isEmpty = before.isEmpty := by
  have changed : after.changed.isEmpty = before.changed.isEmpty := by
    rw [Bool.eq_iff_iff, List.isEmpty_iff_length_eq_zero, List.isEmpty_iff_length_eq_zero,
      h.changed.length_eq]
  rw [isEmpty, isEmpty, membershipChanged, membershipChanged, h.added, h.removed.isEmpty_eq,
    changed]

/-- Whether there is nothing to do does not depend on the order of the plan. -/
theorem SameForPlan.isEmpty_eq [Reconcilable α] {after before : Changes α}
    (h : SameForPlan former R after before) : after.isEmpty = before.isEmpty := by
  rw [isEmpty, isEmpty, membershipChanged, membershipChanged, h.added.related.isEmpty_eq,
    h.removed, h.changed.related.isEmpty_eq]

end Changes

end CloudProvision
