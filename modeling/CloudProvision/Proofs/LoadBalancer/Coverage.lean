import CloudProvision.Proofs.LoadBalancer.Complete
import CloudProvision.Proofs.LoadBalancer.Progress

/-!
# Objects that an update makes

Each planned entry stands for an object in the end, from which it does not differ. The object is
new, or it is the one that the entry corresponded to when the update began: no other step touches
it.

## Main results

* `healthChecks_made`, `backends_made`: planned entries stand for objects.
-/

namespace CloudProvision.LoadBalancer

open Remote (WellFormed numberedId)

/-! ### Slots -/

/-- An identifier that the object of a planned entry can have: one that the state does not have, or
that of its counterpart, if their pair satisfies `keeps`. -/
def Slot {α : Type} [Identified α] (plan state : List α) (keeps : Pairing α → Prop) (p : α)
    (id : String) : Prop :=
  (∀ x ∈ state, Identified.id x ≠ .known id) ∨
    ∃ m ∈ (Changes.between plan state).matched, keeps m ∧ m.plan.entry = p ∧
      Identified.id m.state.entry = .known id

namespace Slot

variable {α : Type} [Identified α] {plan state : List α} {keeps : Pairing α → Prop} {p : α}
  {id : String} (slot : Slot plan state keeps p id) (ids : OwnIds state)

include slot ids

/-- A pair about the identifier of a slot is that of its entry. -/
theorem pair (labels : Changes.ByLabel plan state) {m : Pairing α}
    (hm : m ∈ (Changes.between plan state).matched)
    (same : Identified.id m.state.entry = .known id) : keeps m ∧ m.plan.entry = p := by
  have there := Changes.state_mem_of_mem_matched hm
  rcases slot with new | ⟨m', hm', kept, planned, same'⟩
  · have ne := new _ (Placed.entry_mem there)
    exact absurd same ne
  · have there' := Changes.state_mem_of_mem_matched hm'
    have state_eq : m.state = m'.state :=
      Placed.eq_of_nodup_map ids.distinct there there' (same.trans same'.symm)
    have label_eq : IdentityIndex.label? m.state.entry = IdentityIndex.label? m'.state.entry := by
      rw [state_eq]
    have plan_eq : m.plan = m'.plan := labels.plan_eq hm hm' label_eq
    obtain rfl : m = m' := by
      cases m
      cases m'
      exact congrArg₂ _ plan_eq state_eq
    exact ⟨kept, planned⟩

/-- What is left over has no identifier of a slot. -/
theorem not_removed {q : Placed α} (hq : q ∈ (Changes.between plan state).removed) :
    Identified.id q.entry ≠ .known id := by
  intro same
  obtain ⟨mem, alone⟩ := Changes.mem_removed.1 hq
  rcases slot with new | ⟨m, hm, -, -, same'⟩
  · exact new _ (Placed.entry_mem mem) same
  · have there := Changes.state_mem_of_mem_matched hm
    have state_eq : m.state = q :=
      Placed.eq_of_nodup_map ids.distinct there mem (same'.trans same.symm)
    exact alone m hm state_eq

end Slot

/-! ### Entries that are made -/

/-- A planned entry stands for an object in a slot, from which it does not differ. The object is
read as `f` does. -/
def Made {α ρ : Type} [Reconcilable α] (getId : ρ → String) (f : ρ → α) (plan state : List α)
    (p : α) (objects : List ρ) : Prop :=
  ∃ r ∈ objects, Slot plan state (fun _ => True) p (getId r) ∧
    Reconcilable.changedFrom p (f r) = false

namespace Made

variable {α ρ : Type} [Reconcilable α] {getId : ρ → String} {f : ρ → α} {plan state : List α}
  {p : α}
  {objects : List ρ}

/-- More objects take none away. -/
theorem append (made : Made getId f plan state p objects) (new : List ρ) :
    Made getId f plan state p (objects ++ new) := by
  obtain ⟨r, hr, slot, same⟩ := made
  exact ⟨r, List.mem_append_left _ hr, slot, same⟩

/-- An object from which the entry does not differ takes the place of one in a slot. -/
theorem of_update {r : ρ} {id : String} (there : id ∈ objects.map getId) (own : getId r = id)
    (slot : Slot plan state (fun _ => True) p id)
    (same : Reconcilable.changedFrom p (f r) = false) :
    Made getId f plan state p (objects.map fun z => if getId z = id then r else z) := by
  obtain ⟨z, hz, about⟩ := List.mem_map.1 there
  exact ⟨r, List.mem_map.2 ⟨z, hz, if_pos about⟩, own ▸ slot, same⟩

/-- An entry of whose own slot the object is keeps an object when one is updated. -/
theorem update (made : Made getId f plan state p objects) {r : ρ} {id : String} (own : getId r = id)
    (about : Slot plan state (fun _ => True) p id → Reconcilable.changedFrom p (f r) = false) :
    Made getId f plan state p (objects.map fun z => if getId z = id then r else z) := by
  obtain ⟨z, hz, slot, same⟩ := made
  by_cases changed : getId z = id
  · have there : id ∈ objects.map getId := changed ▸ List.mem_map_of_mem hz
    have slot' := changed ▸ slot
    exact of_update there own slot' (about slot')
  · exact ⟨z, List.mem_map.2 ⟨z, hz, if_neg changed⟩, slot, same⟩

/-- An object without a slot can be taken away. -/
theorem filter (made : Made getId f plan state p objects) {id : String}
    (free : ¬ Slot plan state (fun _ => True) p id) :
    Made getId f plan state p (objects.filter (getId · != id)) := by
  obtain ⟨r, hr, slot, same⟩ := made
  have ne : getId r ≠ id := fun eq => free (eq ▸ slot)
  exact ⟨r, List.mem_filter.2 ⟨hr, by simpa using ne⟩, slot, same⟩

end Made

variable {remote : Remote.LoadBalancer} {config : State} {start : Nat} {step : Step} {u v x : Stage}

/-! ### Health checks -/

/-- A health check of the plan stands for one of the load balancer. -/
abbrev HealthCheckMade (remote : Remote.LoadBalancer) (config : State) (p : HealthCheck)
    (u : Stage) : Prop :=
  Made Remote.HealthCheck.id HealthCheck.ofRemote (updatePlan remote config).healthChecks.entries
    (State.ofRemote remote).healthChecks.entries p u.1.healthChecks

section HealthChecks

variable (updatable : Updatable remote config) (complete : config.Complete) {p : HealthCheck}
  (planned : p ∈ (updatePlan remote config).healthChecks.entries)

include complete planned

/-- A health check of the plan stands for the one that was made from it. -/
theorem HealthCheckMade.of_updated {entry : HealthCheck} {id : String}
    (effect : Effect remote (updatePlan remote config) (.updateHealthCheck entry p) u v)
    (known : entry.id = .known id)
    (slot : Slot (updatePlan remote config).healthChecks.entries
      (State.ofRemote remote).healthChecks.entries (fun _ => True) p id) :
    HealthCheckMade remote config p v := by
  cases effect with
  | updateHealthCheck hr hp name there =>
      obtain rfl := Attr.known.inj known
      have same := HealthCheck.changedFrom_spec (planned_healthCheck complete planned).2
      exact Made.of_update there rfl slot (same _)

/-- A health check of the plan stands for the one that was created for it. -/
theorem HealthCheckMade.of_created (wf : WellFormed remote start) (settled : Settled remote start u)
    (effect : Effect remote (updatePlan remote config) (.createHealthCheck p) u v) :
    HealthCheckMade remote config p v := by
  cases effect with
  | createHealthCheck =>
      have unchanged := HealthCheck.changedFrom_spec (planned_healthCheck complete planned).2
      have new : ∀ y ∈ (State.ofRemote remote).healthChecks.entries,
          Identified.id y ≠ .known (numberedId "hc" (u.2 + 1)) := by
        intro y hy same
        obtain ⟨r, hr, rfl⟩ := List.mem_map.1 hy
        have eq := Attr.known.inj same
        exact settled.new_healthCheck wf hr eq.symm
      exact ⟨p.spec.withId (numberedId "hc" (u.2 + 1)), List.mem_append_right _ List.mem_cons_self,
        .inl new, unchanged _⟩

include updatable

/-- No step takes its object from a health check of the plan. -/
theorem HealthCheckMade.kept (accepted : config.Accepted) (mem : step ∈ updateSteps remote config)
    (effect : Effect remote (updatePlan remote config) step u v)
    (made : HealthCheckMade remote config p u) : HealthCheckMade remote config p v := by
  cases effect with
  | createHealthCheck => exact made.append _
  | @updateHealthCheck _ r q hr _ name there =>
      obtain ⟨m, hm, -, entry, rfl⟩ := (updateHealthCheck_mem_iff updatable.decided).1 mem
      refine made.update rfl fun slot => ?_
      have about : Identified.id m.state.entry = .known r.id := by rw [entry]; rfl
      obtain ⟨-, rfl⟩ := slot.pair updatable.healthChecks_ownIds
        (healthChecks_byLabel updatable accepted complete) hm about
      exact HealthCheck.changedFrom_spec (planned_healthCheck complete planned).2 _
  | @deleteHealthCheck _ r hr there unused =>
      obtain ⟨q, hq, entry⟩ := (deleteHealthCheck_mem_iff updatable.decided).1 mem
      refine made.filter fun slot => ?_
      exact slot.not_removed updatable.healthChecks_ownIds hq (by rw [entry]; rfl)
  | _ => exact made

end HealthChecks

/-- In the end all health checks of the plan stand for one. -/
theorem healthChecks_made (progress : Progress remote config start (updateSteps remote config) x)
    (accepted : config.Accepted) (complete : config.Complete) :
    ∀ p ∈ (updatePlan remote config).healthChecks.entries, HealthCheckMade remote config p x := by
  intro p planned
  have updatable := progress.updatable
  have kept : Kept remote config start (updateSteps remote config)
      (HealthCheckMade remote config p) := by
    intro s hs u v _ _ made effect
    exact made.kept updatable complete planned accepted hs effect
  rcases Changes.exists_added_or_matched (State.ofRemote remote).healthChecks.entries planned with
    ⟨q, hq, rfl⟩ | ⟨m, hm, rfl⟩
  · have mem := (createHealthCheck_mem_iff updatable.decided).2 ⟨q, hq, rfl⟩
    refine progress.eventually mem ?_ kept
    intro u v hu _ effect
    exact .of_created complete planned progress.wellFormed hu effect
  · obtain ⟨-, r, hr, entry, -⟩ := of_mem_matched updatable.healthChecks_found (fun _ => rfl) hm
    have known : m.state.entry.id = .known r.id := by rw [entry]; rfl
    have slot : Slot (updatePlan remote config).healthChecks.entries
        (State.ofRemote remote).healthChecks.entries (fun _ => True) m.plan.entry r.id :=
      .inr ⟨m, hm, trivial, rfl, known⟩
    rcases changed : m.plan.entry.changedFrom m.state.entry
    · exact progress.invariant kept ⟨r, hr, slot, entry ▸ changed⟩
    · have mem := (updateHealthCheck_mem_iff updatable.decided).2 ⟨m, hm, changed, rfl, rfl⟩
      refine progress.eventually mem ?_ kept
      intro u v _ _ effect
      exact .of_updated complete planned effect known slot

/-! ### Backends -/

/-- A reference to a health check is read as before, found or not. -/
theorem healthCheckName_kept {plan : State} (settled : Settled remote start u)
    (effect : Effect remote plan step u v) {b : Remote.Backend} (hb : b ∈ u.1.backends) :
    healthCheckName v.1 b.healthCheckId = healthCheckName u.1 b.healthCheckId := by
  rcases reference : b.healthCheckId with - | id
  · rfl
  · have read (lb : Remote.LoadBalancer) : healthCheckName lb (some id) =
        .ofOption ((lb.healthChecks.find? (·.id == id)).map (·.name)) := by
      rw [healthCheckName, Option.bind_eq_bind, Option.bind_some]
      cases lb.healthChecks.find? (·.id == id) <;> rfl
    rw [read, read]
    congr 1
    cases effect with
    | @createHealthCheck _ p planned =>
        have other : numberedId "hc" (u.2 + 1) ≠ id := by
          intro same
          have used : id ∈ u.1.backends.filterMap (·.healthCheckId) :=
            List.mem_filterMap.2 ⟨b, hb, reference⟩
          exact settled.wellFormed.references _ (Nat.lt_succ_self _) (same ▸ used)
        have absent : [p.spec.withId (numberedId "hc" (u.2 + 1))].find? (·.id == id) = none :=
          List.find?_cons_of_neg (by simpa [Remote.HealthCheckSpec.withId] using other)
        rw [List.find?_append, absent, Option.or_none]
    | @updateHealthCheck _ r p hr _ name there =>
        have same : ((Remote.HealthCheck.id · == id) ∘ fun h =>
            if h.id = r.id then p.spec.withId r.id else h) = (Remote.HealthCheck.id · == id) := by
          funext h
          by_cases changed : h.id = r.id
          · simp [changed, Remote.HealthCheckSpec.withId]
          · simp [changed]
        rw [List.find?_map, same, Option.map_map]
        refine Option.map_congr fun h found => ?_
        by_cases changed : h.id = r.id
        · have known : p.name.text = h.name := by
            rw [settled.healthCheckNames h (List.mem_of_find?_eq_some found) r hr changed]
            exact congrArg Attr.text name
          rw [Function.comp_apply, if_pos changed]
          exact known
        · rw [Function.comp_apply, if_neg changed]
    | @deleteHealthCheck _ r hr there unused =>
        have ne : id ≠ r.id := by
          intro same
          have other := List.any_eq_false.1 unused b hb
          simp [reference, same] at other
        rw [List.find?_filter]
        congr 2
        funext h
        by_cases same : h.id = id
        · simp [same, ne]
        · simp [same]
    | _ => rfl

/-- A backend that is not touched is read as before. -/
theorem ofRemote_kept {plan : State} (settled : Settled remote start u)
    (effect : Effect remote plan step u v) {b : Remote.Backend} (hb : b ∈ u.1.backends) :
    Backend.ofRemote v.1 b = Backend.ofRemote u.1 b := by
  rw [Backend.ofRemote, healthCheckName_kept settled effect hb, ← Backend.ofRemote]

/-- What is compared of a backend. -/
inductive Aspect where
  | targetsType
  | fields
  | targets

/-- Whether an aspect of a backend differs. -/
def Aspect.changed (plan state : Backend) : Aspect → Bool
  | targetsType => plan.targetsTypeChanged state
  | fields => plan.fieldsChanged state
  | targets => targetsChanged plan.targets state.targets

/-- A backend differs exactly if one of its aspects does. -/
theorem Backend.changedFrom_eq_false_iff {plan state : Backend} :
    plan.changedFrom state = false ↔ ∀ a : Aspect, a.changed plan state = false := by
  rw [changedFrom, Bool.or_eq_false_iff, Bool.or_eq_false_iff]
  constructor
  · rintro ⟨⟨targetsType, fields⟩, targets⟩ a
    cases a with
    | targetsType => exact targetsType
    | fields => exact fields
    | targets => exact targets
  · intro h
    exact ⟨⟨h .targetsType, h .fields⟩, h .targets⟩

/-- A slot of a backend: its counterpart is not made again. -/
abbrev BackendSlot (remote : Remote.LoadBalancer) (config : State) (p : Backend) (id : String) :
    Prop :=
  Slot (updatePlan remote config).backends.entries (State.ofRemote remote).backends.entries
    (fun m => m.plan.entry.targetsTypeChanged m.state.entry = false) p id

/-- The backend with an identifier does not differ in an aspect from one of the plan. -/
def BackendAgrees (p : Backend) (id : String) (a : Aspect) (u : Stage) : Prop :=
  ∃ b ∈ u.1.backends, b.id = id ∧ a.changed p (.ofRemote u.1 b) = false

/-- An update of a backend makes its fields agree and keeps its other aspects. -/
theorem Aspect.changed_update {p : Backend} {lb lb' : Remote.LoadBalancer}
    {reference : Option String} (close : p.closeConnections.isNull = false)
    (ids : (lb.healthChecks.map (·.id)).Nodup) (sent : healthCheckId lb p = .ok reference)
    (same : lb'.healthChecks = lb.healthChecks) {b : Remote.Backend} {a : Aspect}
    (agrees : a = .fields ∨ a.changed p (.ofRemote lb b) = false) :
    a.changed p (.ofRemote lb' ((p.update reference).applyTo b)) = false := by
  have read : healthCheckName lb' reference = healthCheckName lb reference := by
    rw [healthCheckName, same, ← healthCheckName]
  cases a with
  | targetsType => exact agrees.resolve_left Aspect.noConfusion
  | fields =>
      have same := healthCheckName_of_sent ids sent
      exact Backend.fieldsChanged_update close (read ▸ same) b
  | targets => exact agrees.resolve_left Aspect.noConfusion

/-- A replacement of targets makes them agree and keeps the other aspects. -/
theorem Aspect.changed_replaceTargets {p : Backend} (decided : p.targets.isUnknown = false)
    (targets : ∀ t ∈ p.targets.entries, t.port.isNull = false ∧ t.hasUnknown = false)
    {lb lb' : Remote.LoadBalancer} (same : lb'.healthChecks = lb.healthChecks) {b : Remote.Backend}
    {a : Aspect} (agrees : a = .targets ∨ a.changed p (.ofRemote lb b) = false) :
    a.changed p (.ofRemote lb' { b with targets := p.remoteTargets }) = false := by
  cases a with
  | targetsType => exact agrees.resolve_left Aspect.noConfusion
  | fields =>
      have fields := agrees.resolve_left Aspect.noConfusion
      have read : healthCheckName lb' b.healthCheckId = healthCheckName lb b.healthCheckId := by
        rw [healthCheckName, same, ← healthCheckName]
      simpa [changed, Backend.fieldsChanged, Backend.ofRemote, read] using fields
  | targets => exact targetsChanged_toRemote decided targets

section Backends

variable (updatable : Updatable remote config) (accepted : config.Accepted)
  (complete : config.Complete) {p : Backend}
  (planned : p ∈ (updatePlan remote config).backends.entries) {id : String} {a : Aspect}

include accepted complete planned

/-- A backend agrees in its fields when it has been updated. -/
theorem BackendAgrees.of_updated (settled : Settled remote start u) {entry : Backend}
    (effect : Effect remote (updatePlan remote config) (.updateBackend entry p) u v)
    (known : entry.id = .known id) : BackendAgrees p id .fields v := by
  obtain ⟨-, -, close, -, -⟩ := planned_backend accepted complete planned
  cases effect with
  | @updateBackend _ r _ reference hr _ name there sent =>
      obtain rfl := Attr.known.inj known
      obtain ⟨b, hb, same⟩ := List.mem_map.1 there
      have ids := settled.wellFormed.healthCheckIds.nodup
      refine ⟨(p.update reference).applyTo b, List.mem_map.2 ⟨b, hb, if_pos same⟩, same, ?_⟩
      exact Aspect.changed_update close ids sent rfl (.inl rfl)

/-- A backend agrees in its targets when they have been replaced. -/
theorem BackendAgrees.of_replaced {entry : Backend}
    (effect : Effect remote (updatePlan remote config) (.replaceTargets entry p) u v)
    (known : entry.id = .known id) : BackendAgrees p id .targets v := by
  obtain ⟨-, -, -, decided, targets⟩ := planned_backend accepted complete planned
  cases effect with
  | @replaceTargets _ r _ hr _ name there =>
      obtain rfl := Attr.known.inj known
      obtain ⟨b, hb, same⟩ := List.mem_map.1 there
      refine ⟨{ b with targets := p.remoteTargets }, List.mem_map.2 ⟨b, hb, if_pos same⟩, same, ?_⟩
      exact Aspect.changed_replaceTargets decided targets rfl (.inl rfl)

/-- A new backend agrees in all aspects. -/
theorem BackendAgrees.of_created (wf : WellFormed remote start) (settled : Settled remote start u)
    (effect : Effect remote (updatePlan remote config) (.createBackend p) u v) :
    ∃ id, BackendSlot remote config p id ∧ ∀ a, BackendAgrees p id a v := by
  obtain ⟨-, typed, close, decided, targets⟩ := planned_backend accepted complete planned
  cases effect with
  | @createBackend _ _ reference _ sent =>
      have new : ∀ y ∈ (State.ofRemote remote).backends.entries,
          Identified.id y ≠ .known (numberedId "be" (u.2 + 1)) := by
        intro y hy same
        obtain ⟨r, hr, rfl⟩ := List.mem_map.1 hy
        have eq := Attr.known.inj same
        exact settled.new_backend wf hr eq.symm
      refine ⟨numberedId "be" (u.2 + 1), .inl new, ?_⟩
      intro a
      refine ⟨(p.spec reference).withId _, List.mem_append_right _ List.mem_cons_self, rfl, ?_⟩
      cases a with
      | targetsType => exact Backend.targetsTypeChanged_spec typed _
      | fields =>
          have same := healthCheckName_of_sent settled.wellFormed.healthCheckIds.nodup sent
          exact Backend.fieldsChanged_spec close same _
      | targets => exact targetsChanged_toRemote decided targets

include updatable

/-- No step makes a backend in a slot disagree. -/
theorem BackendAgrees.kept (settled : Settled remote start u)
    (mem : step ∈ updateSteps remote config)
    (effect : Effect remote (updatePlan remote config) step u v)
    (slot : BackendSlot remote config p id) (agrees : BackendAgrees p id a u) :
    BackendAgrees p id a v := by
  obtain ⟨-, -, close, decided, targets⟩ := planned_backend accepted complete planned
  obtain ⟨b, hb, rfl, same⟩ := agrees
  have untouched := ofRemote_kept settled effect hb ▸ same
  have pair {m : Pairing Backend} (hm : m ∈ (backendChanges remote config).matched)
      (about : m.state.entry.id = .known b.id) :=
    slot.pair updatable.backends_ownIds (backends_byLabel updatable accepted complete) hm about
  cases effect with
  | createBackend => exact ⟨b, List.mem_append_left _ hb, rfl, untouched⟩
  | @updateBackend _ r q reference hr _ name there sent =>
      obtain ⟨m, hm, -, -, entry, rfl⟩ := (updateBackend_mem_iff updatable.decided).1 mem
      by_cases changed : b.id = r.id
      · have about : m.state.entry.id = .known b.id := by rw [entry, changed]; rfl
        obtain ⟨-, rfl⟩ := pair hm about
        have ids := settled.wellFormed.healthCheckIds.nodup
        refine ⟨_, List.mem_map.2 ⟨b, hb, if_pos changed⟩, rfl, ?_⟩
        exact Aspect.changed_update close ids sent rfl (.inr same)
      · exact ⟨b, List.mem_map.2 ⟨b, hb, if_neg changed⟩, rfl, untouched⟩
  | @deleteBackend _ r hr there unused =>
      have ne : b.id ≠ r.id := by
        intro eq
        rcases (deleteBackend_mem_iff updatable.decided).1 mem with
          ⟨m, hm, retyped, entry⟩ | ⟨q, hq, entry⟩
        · have about : m.state.entry.id = .known b.id := by rw [entry, eq]; rfl
          obtain ⟨kept, -⟩ := pair hm about
          cases retyped.symm.trans kept
        · have about : Identified.id q.entry = .known b.id := by rw [entry, eq]; rfl
          exact slot.not_removed updatable.backends_ownIds hq about
      exact ⟨b, List.mem_filter.2 ⟨hb, by simpa using ne⟩, rfl, untouched⟩
  | @replaceTargets _ r q hr _ name there =>
      obtain ⟨m, hm, -, -, entry, rfl⟩ := (replaceTargets_mem_iff updatable.decided).1 mem
      by_cases changed : b.id = r.id
      · have about : m.state.entry.id = .known b.id := by rw [entry, changed]; rfl
        obtain ⟨-, rfl⟩ := pair hm about
        refine ⟨_, List.mem_map.2 ⟨b, hb, if_pos changed⟩, rfl, ?_⟩
        exact Aspect.changed_replaceTargets decided targets rfl (.inr same)
      · exact ⟨b, List.mem_map.2 ⟨b, hb, if_neg changed⟩, rfl, untouched⟩
  | _ => exact ⟨b, hb, rfl, untouched⟩

end Backends

/-- In the end all backends of the plan have a slot, and its backend agrees in all aspects. -/
theorem backends_agree (progress : Progress remote config start (updateSteps remote config) x)
    (accepted : config.Accepted) (complete : config.Complete) :
    ∀ p ∈ (updatePlan remote config).backends.entries,
      ∃ id, BackendSlot remote config p id ∧ ∀ a, BackendAgrees p id a x := by
  intro p planned
  have updatable := progress.updatable
  have decided := updatable.decided
  have created (mem : .createBackend p ∈ updateSteps remote config) :
      ∃ id, BackendSlot remote config p id ∧ ∀ a, BackendAgrees p id a x := by
    refine progress.eventually
      (Q := fun u => ∃ id, BackendSlot remote config p id ∧ ∀ a, BackendAgrees p id a u) mem ?_ ?_
    · intro u v hu _ effect
      exact BackendAgrees.of_created accepted complete planned progress.wellFormed hu effect
    · rintro s hs u v hu _ ⟨id, slot, agrees⟩ effect
      refine ⟨id, slot, fun a => ?_⟩
      exact (agrees a).kept updatable accepted complete planned hu hs effect slot
  rcases Changes.exists_added_or_matched (State.ofRemote remote).backends.entries planned with
    ⟨q, hq, rfl⟩ | ⟨m, hm, rfl⟩
  · exact created ((createBackend_mem_iff decided).2 (.inr ⟨q, hq, rfl⟩))
  · rcases retyped : m.plan.entry.targetsTypeChanged m.state.entry
    · obtain ⟨-, r, hr, entry, -⟩ := of_mem_matched updatable.backends_found (fun _ => rfl) hm
      have known : m.state.entry.id = .known r.id := by rw [entry]; rfl
      have slot : BackendSlot remote config m.plan.entry r.id := .inr ⟨m, hm, retyped, rfl, known⟩
      have kept (a : Aspect) : Kept remote config start (updateSteps remote config)
          (BackendAgrees m.plan.entry r.id a) := by
        intro s hs u v hu _ agrees effect
        exact agrees.kept updatable accepted complete planned hu hs effect slot
      refine ⟨r.id, slot, ?_⟩
      intro a
      rcases differs : a.changed m.plan.entry m.state.entry
      · exact progress.invariant (kept a) ⟨r, hr, rfl, entry ▸ differs⟩
      · cases a with
        | targetsType => cases retyped.symm.trans differs
        | fields =>
            have mem := (updateBackend_mem_iff decided).2 ⟨m, hm, retyped, differs, rfl, rfl⟩
            refine progress.eventually mem ?_ (kept .fields)
            intro u v hu _ effect
            exact .of_updated accepted complete planned hu effect known
        | targets =>
            have mem := (replaceTargets_mem_iff decided).2 ⟨m, hm, retyped, differs, rfl, rfl⟩
            refine progress.eventually mem ?_ (kept .targets)
            intro u v _ _ effect
            exact .of_replaced accepted complete planned effect known
    · exact created ((createBackend_mem_iff decided).2 (.inl ⟨m, hm, retyped, rfl⟩))

/-- In the end all backends of the plan stand for one. -/
theorem backends_made (progress : Progress remote config start (updateSteps remote config) x)
    (accepted : config.Accepted) (complete : config.Complete) :
    ∀ p ∈ (updatePlan remote config).backends.entries,
      ∃ b ∈ x.1.backends, p.changedFrom (.ofRemote x.1 b) = false := by
  intro p planned
  obtain ⟨id, -, agrees⟩ := backends_agree progress accepted complete p planned
  obtain ⟨b, hb, rfl, -⟩ := agrees .fields
  refine ⟨b, hb, Backend.changedFrom_eq_false_iff.2 fun a => ?_⟩
  obtain ⟨c, hc, same, agree⟩ := agrees a
  rwa [← List.inj_on_of_nodup_map progress.settled.wellFormed.backendIds.nodup hc hb same]

end CloudProvision.LoadBalancer
