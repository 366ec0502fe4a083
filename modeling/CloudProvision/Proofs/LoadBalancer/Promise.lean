import CloudProvision.Proofs.LoadBalancer.Update

/-!
# Identifiers that a plan promises

A planned entry with a known identifier promises that its object has it once the plan has been
applied. The identifier is that of the entry of the state that the planned one corresponds to.

## Main definitions

* `Delivered`: a state keeps what a plan promised.
* `Promising`: what the plan of a collection promises is carried over from the state.

## Main results

* `Promising.delivered`: a promise is kept if the object of the entry stays, and others with its
  label go.
* `Promising.delivered_iff_of_renumbered`: no promise is kept by objects with new identifiers.
* `healthChecks_promising` and its siblings: the collections of a plan.
* `isKnown_of_recreated`: a backend that will be created again has no known identifier.
-/

namespace CloudProvision.LoadBalancer

open IdentityIndex (label?)
open Remote (Unissued numberedId)

/-- For every planned entry with a known identifier, a state has entries with the same label, and
all of them have this identifier. -/
def Delivered {α : Type} [Identified α] (plan state : List α) : Prop :=
  ∀ p ∈ plan, (Identified.id p).isKnown = true →
    (∃ x ∈ state, label? x = label? p) ∧
      ∀ x ∈ state, label? x = label? p → Identified.id x = Identified.id p

instance {α : Type} [Identified α] (plan state : List α) : Decidable (Delivered plan state) :=
  inferInstanceAs (Decidable (∀ p ∈ plan, _ → _ ∧ _))

/-- The entries of a plan are found in the state by their labels, which are their own, and those
with known identifiers have them from the entries that they correspond to. -/
structure Promising {α : Type} [Identified α] (plan state : List α) : Prop where
  found : Changes.FoundByLabel plan state
  distinct : (plan.filterMap label?).Nodup
  carried : ∀ p ∈ plan, (Identified.id p).isKnown = true →
    ∃ m ∈ (Changes.between plan state).matched,
      m.plan.entry = p ∧ Identified.id m.state.entry = Identified.id p

namespace Promising

variable {α : Type} [Identified α] {plan state : List α}

/-- Planned entries with the same label are the same. -/
theorem placed_eq (h : Promising plan state) {p q : Placed α} (hp : p ∈ Placed.ofList plan)
    (hq : q ∈ Placed.ofList plan) {label : String ⊕ String} (labelled : label? p.entry = some label)
    (same : label? q.entry = label? p.entry) : q = p :=
  Placed.eq_of_nodup_filterMap h.distinct hq hp (same.trans labelled) labelled

/-- Pairs whose entries of the state have the same label are the same. -/
theorem pairing_eq (h : Promising plan state) {m n : Pairing α}
    (hm : m ∈ (Changes.between plan state).matched)
    (hn : n ∈ (Changes.between plan state).matched)
    (same : label? n.state.entry = label? m.state.entry) : n = m := by
  obtain ⟨label, planned, there⟩ := h.found.label?_eq hm
  obtain ⟨label', planned', there'⟩ := h.found.label?_eq hn
  have labels : label? n.plan.entry = label? m.plan.entry := by
    rw [planned, planned', ← there, ← there', same]
  have plan_eq : n.plan = m.plan :=
    h.placed_eq (Changes.mem_matched.1 hm).1 (Changes.mem_matched.1 hn).1 planned labels
  have located := (Changes.mem_matched.1 hn).2
  rw [plan_eq, (Changes.mem_matched.1 hm).2] at located
  cases m
  cases n
  exact congrArg₂ _ plan_eq (Option.some.inj located).symm

/-- A new entry has no known identifier. -/
theorem isKnown_of_added (h : Promising plan state) {p : Placed α}
    (hp : p ∈ (Changes.between plan state).added) : (Identified.id p.entry).isKnown = false := by
  obtain ⟨mem, absent⟩ := Changes.mem_added.1 hp
  refine Bool.eq_false_iff.2 fun known => ?_
  obtain ⟨m, hm, same, -⟩ := h.carried p.entry (Placed.entry_mem mem) known
  have located := (Changes.mem_matched.1 hm).2
  rw [same, absent] at located
  cases located

section Objects

variable {ρ : Type} {objects after : List ρ} {f g : ρ → α} (getId : ρ → String)

/-- What a plan of objects promises is kept if the objects of its pairs stay, those left over go,
old objects keep their labels, and new ones are made for entries without a known identifier. -/
theorem delivered (h : Promising plan (objects.map f))
    (before : ∀ r, Identified.id (f r) = .known (getId r))
    (read : ∀ r, Identified.id (g r) = .known (getId r))
    (stays : ∀ m ∈ (Changes.between plan (objects.map f)).matched,
      (Identified.id m.plan.entry).isKnown = true →
        ∀ r ∈ objects, m.state.entry = f r → getId r ∈ after.map getId)
    (gone : ∀ q ∈ (Changes.between plan (objects.map f)).removed,
      ∀ r ∈ objects, q.entry = f r → getId r ∉ after.map getId)
    (label : ∀ y ∈ after, ∀ r ∈ objects, getId y = getId r → label? (g y) = label? (f r))
    (origin : ∀ y ∈ after, getId y ∈ objects.map getId ∨
      ∃ q ∈ plan, (Identified.id q).isKnown = false ∧ label? q = label? (g y)) :
    Delivered plan (after.map g) := by
  intro p hp known
  obtain ⟨m, hm, rfl, carried⟩ := h.carried p hp known
  obtain ⟨r, hr, state⟩ := List.mem_map.1 (Placed.entry_mem (Changes.state_mem_of_mem_matched hm))
  obtain ⟨l, planned, there⟩ := h.found.label?_eq hm
  constructor
  · obtain ⟨y, hy, same⟩ := List.mem_map.1 (stays m hm known r hr state.symm)
    refine ⟨g y, List.mem_map_of_mem hy, ?_⟩
    rw [label y hy r hr same, state, there, planned]
  · intro x hx same
    obtain ⟨y, hy, rfl⟩ := List.mem_map.1 hx
    rcases origin y hy with old | ⟨q, hq, unpromised, made⟩
    · obtain ⟨r', hr', about⟩ := List.mem_map.1 old
      obtain ⟨place, hplace, entry⟩ := Placed.exists_mem_ofList (List.mem_map_of_mem (f := f) hr')
      rcases Changes.mem_removed_or_matched plan hplace with left | ⟨n, hn, rfl⟩
      · exact absurd (about ▸ List.mem_map_of_mem hy) (gone place left r' hr' entry)
      · have labels : label? n.state.entry = label? m.state.entry := by
          rw [entry, ← label y hy r' hr' about.symm, same, planned, there]
        rw [read, ← about, ← before, ← entry, h.pairing_eq hm hn labels, carried]
    · obtain ⟨place, hplace, rfl⟩ := Placed.exists_mem_ofList hq
      have eq := h.placed_eq (Changes.mem_matched.1 hm).1 hplace planned (made.trans same)
      rw [eq, known] at unpromised
      cases unpromised

/-- Objects that all have newly issued identifiers keep what a plan promises exactly if it promises
nothing. -/
theorem delivered_iff_of_renumbered (h : Promising plan (objects.map f))
    (before : ∀ r, Identified.id (f r) = .known (getId r))
    (read : ∀ r, Identified.id (g r) = .known (getId r)) {stem : String} {start : Nat}
    (unissued : Unissued stem start (objects.map getId))
    (renumbered : ∀ y ∈ after, ∃ number, start < number ∧ getId y = numberedId stem number) :
    Delivered plan (after.map g) ↔ ∀ p ∈ plan, (Identified.id p).isKnown = false := by
  constructor
  · intro delivered p hp
    refine Bool.eq_false_iff.2 fun known => ?_
    obtain ⟨m, hm, rfl, carried⟩ := h.carried p hp known
    obtain ⟨r, hr, state⟩ := List.mem_map.1 (Placed.entry_mem (Changes.state_mem_of_mem_matched hm))
    obtain ⟨⟨x, hx, same⟩, kept⟩ := delivered _ hp known
    have id := kept x hx same
    obtain ⟨y, hy, rfl⟩ := List.mem_map.1 hx
    obtain ⟨number, later, new⟩ := renumbered y hy
    rw [← carried, ← state, read, before, new] at id
    exact unissued number later (Attr.known.inj id ▸ List.mem_map_of_mem hr)
  · intro unpromised p hp known
    cases (unpromised p hp).symm.trans known

end Objects

end Promising

/-! ### The collections of a plan -/

/-- What is planned from a configuration without identifiers promises those of the state. -/
theorem PlannedFrom.promising {α : Type} [Reconcilable α] {setId : α → Attr String → α}
    {config state plan : List α} (h : PlannedFrom setId config state plan) (lawful : SetsId setId)
    (ids : OwnIds state) (bare : ∀ c ∈ config, (Identified.id c).key? = none)
    (distinct : (config.filterMap label?).Nodup) : Promising plan state := by
  refine ⟨h.found lawful ids bare, ?_, ?_⟩
  · have labels {entries : List α} :
        entries.filterMap label? = (entries.map label?).filterMap id := by
      rw [List.filterMap_map]
      rfl
    rw [labels, h.map_label? lawful, ← labels]
    exact distinct
  · obtain ⟨a, rfl, carried⟩ := h
    intro p hp known
    obtain ⟨c, hc, rfl⟩ := List.mem_map.1 hp
    have located := locate?_setId_of_bare lawful ids.distinctIds (bare c hc) (carried c)
    rw [lawful.id] at known ⊢
    obtain ⟨place, hplace, entry⟩ := Placed.exists_mem_ofList hp
    rcases carried c with unknown | carries
    · rw [unknown] at known
      cases known
    · rcases found : (IdentityIndex.ofList state).locate? c with - | q
      · simp [carries, carriedId, IdentityIndex.find?, found, Attr.isKnown] at known
      · have present := ids.present _ (Placed.entry_mem (IdentityIndex.mem_of_locate? found))
        refine ⟨⟨place, q⟩, Changes.mem_matched.2 ⟨hplace, entry ▸ located.trans found⟩, entry, ?_⟩
        simp [carries, carriedId, IdentityIndex.find?, found, Attr.isPresent_eq, present]

section Collections

variable {remote : Remote.LoadBalancer} {config : State} (updatable : Updatable remote config)
  (accepted : config.Accepted)

include updatable accepted

theorem listeners_promising : Promising (updatePlan remote config).listeners.entries
    (State.ofRemote remote).listeners.entries :=
  planUpdate_listeners.promising setsId_listener updatable.listeners_ownIds
    updatable.bare_entries.1 accepted.distinctLabels.listeners

theorem acls_promising : Promising (updatePlan remote config).acls.entries
    (State.ofRemote remote).acls.entries :=
  planUpdate_acls.promising setsId_acl updatable.acls_ownIds updatable.bare_entries.2.1
    accepted.distinctLabels.acls

theorem healthChecks_promising : Promising (updatePlan remote config).healthChecks.entries
    (State.ofRemote remote).healthChecks.entries := by
  refine planUpdate_healthChecks.promising setsId_healthCheck updatable.healthChecks_ownIds
    updatable.bare_entries.2.2.1 ?_
  rw [List.filterMap_map]
  exact accepted.distinctLabels.healthChecks

theorem backends_promising : Promising (updatePlan remote config).backends.entries
    (State.ofRemote remote).backends.entries := by
  refine planUpdate_backends.promising setsId_backend updatable.backends_ownIds
    updatable.bare_entries.2.2.2 ?_
  rw [List.filterMap_map]
  exact accepted.distinctLabels.backends

end Collections

/-- A backend that will be created again has no known identifier. -/
theorem isKnown_of_recreated {prior config : State} {m : Pairing Backend}
    (hm : m ∈ (Changes.between (prior.planUpdate config).backends.entries
      prior.backends.entries).matched)
    (retyped : m.plan.entry.targetsTypeChanged m.state.entry = true) :
    m.plan.entry.id.isKnown = false := by
  obtain ⟨mem, located⟩ := Changes.mem_matched.1 hm
  have entries : (prior.planUpdate config).backends.entries =
      ((carryIds (fun (b : Backend) id => { b with id := id }) config.withDefaults.backends
        prior.backends).entries).map (Backend.renew (.ofList prior.backends.entries)) :=
    entries_map _ _
  have planned := Placed.entry_mem mem
  rw [entries] at planned
  obtain ⟨b, -, renewed⟩ := List.mem_map.1 planned
  rw [Backend.renew] at renewed
  split at renewed
  · rw [← renewed]
    rfl
  · next kept =>
      refine absurd ?_ kept
      rw [renewed, IdentityIndex.find?, located]
      exact retyped

end CloudProvision.LoadBalancer
