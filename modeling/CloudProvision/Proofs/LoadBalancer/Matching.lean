import CloudProvision.Proofs.LoadBalancer.Plan

/-!
# Accepted collections are matched one to one

The check for duplicates tells the entries of a configuration apart by their names and, without a
name, by their natural keys. An index finds entries by the same labels, and keeps names and natural
keys in tables of their own. So no two entries of an accepted list without identifiers find the same
entry of a state, whatever duplicates the state holds, and the split of the list accounts for every
entry of both sides once.

## Main definitions

* `Changes.OneToOne`: a split that accounts for every entry of both sides once.

## Main results

* `Changes.oneToOne_of_duplicates`: the split of an accepted list does so.
-/

namespace CloudProvision.Changes

open LoadBalancer (duplicates)

variable {α : Type} [Identified α] {plan state : List α}

/-- A split of a planned list that accounts for every entry of the plan and of the state once. -/
structure OneToOne (changes : Changes α) (plan state : List α) : Prop where
  /-- An entry of the state is in one pair at most. -/
  once : (changes.matched.map Pairing.state).Nodup
  state_mem : ∀ m ∈ changes.matched, m.state ∈ Placed.ofList state
  /-- A planned entry is new or in a pair, and not both. -/
  planned : ∀ p ∈ Placed.ofList plan,
    Xor (p ∈ changes.added) (p ∈ changes.matched.map Pairing.plan)
  /-- New entries are in the order of the plan. -/
  added : changes.added.Sublist (Placed.ofList plan)
  /-- Pairs are in the order of the plan. -/
  matched : (changes.matched.map Pairing.plan).Sublist (Placed.ofList plan)
  /-- What is left over is in the order of the state. -/
  removed : changes.removed.Sublist (Placed.ofList state)
  mem_removed : ∀ q, q ∈ changes.removed ↔
    q ∈ Placed.ofList state ∧ q ∉ changes.matched.map Pairing.state
  length_eq : changes.matched.length + changes.removed.length = state.length

/-- Identifiers that are left out are distinct. -/
theorem distinctIds_of_bare (bare : ∀ p ∈ plan, (Identified.id p).key? = none) :
    DistinctIds plan := by
  rw [DistinctIds, List.filterMap_eq_nil_iff.2 bare]
  exact List.nodup_nil

/-- Entries without identifiers and with labels of their own find entries of the state of their
own. -/
theorem nodup_state_of_bare (labels : DistinctLabels plan)
    (bare : ∀ p ∈ plan, (Identified.id p).key? = none) :
    ((between plan state).matched.map Pairing.state).Nodup := by
  refine nodup_state (distinctIds_of_bare bare) labels fun m hm m' _ _ rivals => ?_
  obtain ⟨id, key, -⟩ := rivals.id
  cases key.symm.trans (bare _ (Placed.entry_mem (mem_matched.1 hm).1))

/-- A planned entry is new exactly if it is in no pair. -/
theorem xor_added_matched {p : Placed α} (hp : p ∈ Placed.ofList plan) :
    Xor (p ∈ (between plan state).added) (p ∈ (between plan state).matched.map Pairing.plan) := by
  rcases located : (IdentityIndex.ofList state).locate? p.entry with - | q
  · refine .inl ⟨mem_added.2 ⟨hp, located⟩, fun paired => ?_⟩
    obtain ⟨m, hm, rfl⟩ := List.mem_map.1 paired
    cases located.symm.trans (mem_matched.1 hm).2
  · refine .inr ⟨List.mem_map.2 ⟨⟨p, q⟩, mem_matched.2 ⟨hp, located⟩, rfl⟩, fun new => ?_⟩
    cases located.symm.trans (mem_added.1 new).2

/-- The split of a list that the check for duplicates accepts, with decided names and without
identifiers, accounts for every entry of both sides once. -/
theorem oneToOne_of_duplicates {collection : String} (accepted : duplicates collection plan = [])
    (decided : ∀ p ∈ plan, (Identified.name p).isUnknown = false)
    (bare : ∀ p ∈ plan, (Identified.id p).key? = none) (state : List α) :
    (between plan state).OneToOne plan state := by
  have labels := LoadBalancer.distinctLabels_of_duplicates accepted decided
  have once : ((between plan state).matched.map Pairing.state).Nodup :=
    nodup_state_of_bare labels bare
  have all := (map_state_matched_append_perm once).length_eq
  rw [List.length_append, List.length_map, Placed.length_ofList] at all
  exact {
    once
    state_mem := fun m hm => state_mem_of_mem_matched hm
    planned := fun p hp => xor_added_matched hp
    added := List.filter_sublist
    matched := by
      rw [map_plan_matched_eq_filter]
      exact List.filter_sublist
    removed := List.filter_sublist
    mem_removed := fun q => mem_removed.trans (by simp)
    length_eq := all }

/-- A listener without an identifier, of a backend. -/
def sampleListener (name : Attr String) (port : Int) (protocol : Attr String) :
    LoadBalancer.Listener :=
  ⟨.null, name, .known port, protocol, .known "web", .null⟩

/-- Listeners of which one has for a name what another one has for a natural key. -/
def samplePlan : List LoadBalancer.Listener := [
  sampleListener (.known "80/http") 8080 (.known "http"),
  sampleListener .null 80 (.known "http"),
  sampleListener (.known "") 443 .null,
  { sampleListener (.known "edge") 80 (.known "http") with id := .unknown }]

/-- Listeners of which two have the same port and protocol, and two the same name. -/
def sampleState : List LoadBalancer.Listener := [
  { sampleListener .null 80 (.known "http") with id := .known "ls-1" },
  { sampleListener .unknown 80 (.known "http") with id := .known "ls-2" },
  { sampleListener (.known "80/http") 8080 (.known "http") with id := .known "ls-3" },
  { sampleListener (.known "80/http") 81 (.known "http") with id := .known "ls-3" }]

/-- Two of these listeners are paired, two are new and two are left over. -/
theorem oneToOne_of_duplicates_sample :
    duplicates "listeners" samplePlan = [] ∧
      (∀ p ∈ samplePlan, (Identified.name p).isUnknown = false) ∧
      (∀ p ∈ samplePlan, (Identified.id p).key? = none) ∧
      (between samplePlan sampleState).OneToOne samplePlan sampleState ∧
      (between samplePlan sampleState).matched.length = 2 := by
  have accepted : duplicates "listeners" samplePlan = [] := by decide +kernel
  have decided : ∀ p ∈ samplePlan, (Identified.name p).isUnknown = false := by decide +kernel
  have bare : ∀ p ∈ samplePlan, (Identified.id p).key? = none := by decide +kernel
  exact ⟨accepted, decided, bare, oneToOne_of_duplicates accepted decided bare sampleState,
    by decide +kernel⟩

end CloudProvision.Changes
