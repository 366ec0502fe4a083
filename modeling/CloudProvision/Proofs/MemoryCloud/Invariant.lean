import CloudProvision.Proofs.MemoryCloud.Change

/-!
# What every accepted change keeps

The nested objects of a load balancer have identifiers of their own, and those that the cloud will
issue are not used yet, neither by an object nor as a reference. `WellFormed` says this, and every
accepted change keeps it.

## Main results

* `Applied.wellFormed`: the invariant.
* `Applied.issued_le`: identifiers are never taken back.
-/

namespace CloudProvision.Remote

open Changing

/-- Identifiers that are present and distinct. -/
structure Distinct (ids : List String) : Prop where
  nodup : ids.Nodup
  present : ∀ id ∈ ids, id.isEmpty = false

instance (ids : List String) : Decidable (Distinct ids) :=
  decidable_of_iff (ids.Nodup ∧ ∀ id ∈ ids, id.isEmpty = false)
    ⟨fun h => ⟨h.1, h.2⟩, fun h => ⟨h.nodup, h.present⟩⟩

/-- Identifiers that will be issued are not among `ids`. -/
def Unissued (stem : String) (issued : Nat) (ids : List String) : Prop :=
  ∀ number, issued < number → numberedId stem number ∉ ids

/-- Identifiers with a number that has been issued. -/
def Numbered (stem : String) (issued : Nat) (ids : List String) : Prop :=
  ∀ id ∈ ids, ∃ number, number < issued + 1 ∧ id = numberedId stem number

instance (stem : String) (issued : Nat) (ids : List String) :
    Decidable (Numbered stem issued ids) :=
  inferInstanceAs (Decidable
    (∀ id ∈ ids, ∃ number, number < issued + 1 ∧ id = numberedId stem number))

/-- A load balancer whose objects have identifiers of their own, in a cloud that has issued a number
of them. -/
structure WellFormed (lb : LoadBalancer) (issued : Nat) : Prop where
  healthCheckIds : Distinct (lb.healthChecks.map (·.id))
  backendIds : Distinct (lb.backends.map (·.id))
  aclIds : Distinct (lb.acls.map (·.id))
  listenerIds : Distinct (lb.listeners.map (·.id))
  healthChecks : Unissued "hc" issued (lb.healthChecks.map (·.id))
  backends : Unissued "be" issued (lb.backends.map (·.id))
  references : Unissued "hc" issued (lb.backends.filterMap (·.healthCheckId))

/-! ### Lists of identifiers -/

section Ids

variable {ids : List String} {stem : String} {issued issued' : Nat}

theorem Unissued.mono (h : Unissued stem issued ids) (le : issued ≤ issued') :
    Unissued stem issued' ids :=
  fun number lt => h number (Nat.lt_of_le_of_lt le lt)

theorem Unissued.subset {ids' : List String} (h : Unissued stem issued ids) (sub : ids' ⊆ ids) :
    Unissued stem issued ids' :=
  fun number lt mem => h number lt (sub mem)

/-- References to health checks that are there are not to identifiers that will be issued. -/
theorem Unissued.references {lb : LoadBalancer}
    (h : Unissued "hc" issued (lb.healthChecks.map (·.id)))
    (valid : ∀ b ∈ lb.backends, ∀ id ∈ b.healthCheckId, lb.hasHealthCheck id = true) :
    Unissued "hc" issued (lb.backends.filterMap (·.healthCheckId)) := by
  refine h.subset fun id mem => ?_
  obtain ⟨b, hb, reference⟩ := List.mem_filterMap.1 mem
  obtain ⟨healthCheck, there, same⟩ := List.any_eq_true.1 (valid b hb id reference)
  exact List.mem_map.2 ⟨healthCheck, there, beq_iff_eq.1 same⟩

/-- What has been issued will not be issued again. -/
theorem Numbered.unissued (h : Numbered stem issued ids) : Unissued stem issued ids := by
  intro number lt mem
  obtain ⟨number', lt', same⟩ := h _ mem
  have := numberedId_inj.1 same
  omega

/-- The next identifier is used up when it is given to an object. -/
theorem Unissued.issue (h : Unissued stem issued ids) :
    Unissued stem (issued + 1) (ids ++ [numberedId stem (issued + 1)]) := by
  intro number lt mem
  rcases List.mem_append.1 mem with mem | mem
  · exact h number (by omega) mem
  · have := numberedId_inj.1 (List.mem_singleton.1 mem)
    omega

/-- The next identifier is a new one. -/
theorem Distinct.issue (h : Distinct ids) (new : Unissued stem issued ids) :
    Distinct (ids ++ [numberedId stem (issued + 1)]) := by
  constructor
  · refine List.nodup_append.2 ⟨h.nodup, by simp, ?_⟩
    rintro id mem other hother same
    obtain rfl := List.mem_singleton.1 hother
    exact new _ (Nat.lt_succ_self _) (same ▸ mem)
  · intro id mem
    rcases List.mem_append.1 mem with mem | mem
    · exact h.present id mem
    · exact List.mem_singleton.1 mem ▸ numberedId_not_isEmpty stem _

theorem Distinct.sublist {ids' : List String} (h : Distinct ids) (sub : ids'.Sublist ids) :
    Distinct ids' :=
  ⟨h.nodup.sublist sub, fun id mem => h.present id (sub.subset mem)⟩

/-- Objects that are issued together have identifiers of their own. -/
theorem distinct_issueAll {α ρ : Type} {withId : ρ → String → α} {getId : α → String}
    {requests : List ρ} (get : ∀ r id, getId (withId r id) = id) :
    Distinct ((issueAll stem withId issued requests).map getId) := by
  constructor
  · exact issueAll_ids_nodup get
  · intro id mem
    obtain ⟨x, hx, rfl⟩ := List.mem_map.1 mem
    obtain ⟨request, -, number, -, rfl⟩ := mem_issueAll hx
    rw [get]
    exact numberedId_not_isEmpty stem number

/-- A change of one object does not touch identifiers. -/
theorem updateFirst?_map_id {α : Type} {getId : α → String} {id : String} {f : α → α}
    {objects changed : List α} (h : updateFirst? (getId · == id) f objects = some changed)
    (keep : ∀ x, getId x = id → getId (f x) = id) :
    changed.map getId = objects.map getId := by
  induction objects generalizing changed with
  | nil => cases h
  | cons x rest ih =>
      rw [updateFirst?] at h
      by_cases same : getId x = id
      · rw [if_pos (beq_iff_eq.2 same)] at h
        obtain rfl := Option.some.inj h
        rw [List.map_cons, keep x same, List.map_cons, same]
      · rw [if_neg (by simpa using same)] at h
        obtain ⟨rest', found, rfl⟩ := Option.map_eq_some_iff.1 h
        rw [List.map_cons, ih found, List.map_cons]

/-- An object after a change of one is an old one or the one that was changed. -/
theorem mem_of_updateFirst? {α : Type} {p : α → Bool} {f : α → α} {objects changed : List α} {x : α}
    (h : updateFirst? p f objects = some changed) (mem : x ∈ changed) :
    x ∈ objects ∨ ∃ y ∈ objects, p y = true ∧ x = f y := by
  induction objects generalizing changed with
  | nil => cases h
  | cons first rest ih =>
      rw [updateFirst?] at h
      by_cases same : p first
      · rw [if_pos same] at h
        obtain rfl := Option.some.inj h
        rcases List.mem_cons.1 mem with rfl | mem
        · exact .inr ⟨first, List.mem_cons_self, same, rfl⟩
        · exact .inl (List.mem_cons_of_mem _ mem)
      · rw [if_neg same] at h
        obtain ⟨rest', found, rfl⟩ := Option.map_eq_some_iff.1 h
        rcases List.mem_cons.1 mem with rfl | mem
        · exact .inl List.mem_cons_self
        · rcases ih found mem with mem | ⟨y, hy, same, eq⟩
          · exact .inl (List.mem_cons_of_mem _ mem)
          · exact .inr ⟨y, List.mem_cons_of_mem _ hy, same, eq⟩

end Ids

/-! ### The invariant -/

variable {lb lb' : LoadBalancer} {issued issued' : Nat} {change : Change}

/-- Identifiers are never taken back. -/
theorem Applied.issued_le (h : Applied lb issued change lb' issued') : issued ≤ issued' := by
  cases h <;> omega

theorem LoadBalancer.hasHealthCheck_iff {id : String} :
    lb.hasHealthCheck id = true ↔ id ∈ lb.healthChecks.map (·.id) := by
  simp [hasHealthCheck]

theorem LoadBalancer.hasBackend_iff {id : String} :
    lb.hasBackend id = true ↔ id ∈ lb.backends.map (·.id) := by
  simp [hasBackend]

/-- References that are unissued stay so when one is added to a health check that exists. -/
theorem WellFormed.references_of (wf : WellFormed lb issued) {backends : List Backend}
    (old : ∀ b ∈ backends, (∃ x ∈ lb.backends, x.healthCheckId = b.healthCheckId) ∨
      ∀ id, b.healthCheckId = some id → lb.hasHealthCheck id = true) :
    Unissued "hc" issued (backends.filterMap (·.healthCheckId)) := by
  intro number lt mem
  obtain ⟨b, hb, reference⟩ := List.mem_filterMap.1 mem
  rcases old b hb with ⟨x, hx, same⟩ | required
  · have used := List.mem_filterMap.2 ⟨x, hx, same.trans reference⟩
    exact wf.references number lt used
  · have there := LoadBalancer.hasHealthCheck_iff.1 (required _ reference)
    exact wf.healthChecks number lt there

/-- Every accepted change keeps the identifiers of objects their own, and those to come unused. -/
theorem Applied.wellFormed (h : Applied lb issued change lb' issued') (wf : WellFormed lb issued) :
    WellFormed lb' issued' := by
  have le := h.issued_le
  have grown : WellFormed lb issued' :=
    { wf with
      healthChecks := wf.healthChecks.mono le
      backends := wf.backends.mono le
      references := wf.references.mono le }
  cases h with
  | update => exact { grown with }
  | createHealthCheck =>
      refine { grown with healthCheckIds := ?_, healthChecks := ?_ }
      · rw [List.map_append]
        exact wf.healthCheckIds.issue wf.healthChecks
      · rw [List.map_append]
        exact wf.healthChecks.issue
  | @updateHealthCheck id request healthChecks found =>
      have same : healthChecks.map (·.id) = lb.healthChecks.map (·.id) :=
        updateFirst?_map_id found fun _ _ => rfl
      exact { grown with
        healthCheckIds := same ▸ wf.healthCheckIds
        healthChecks := same ▸ grown.healthChecks }
  | @deleteHealthCheck id unused =>
      have sub := (@List.filter_sublist _ (·.id != id) lb.healthChecks).map (·.id)
      exact { grown with
        healthCheckIds := wf.healthCheckIds.sublist sub
        healthChecks := wf.healthChecks.subset sub.subset }
  | createBackend required =>
      refine { grown with backendIds := ?_, backends := ?_, references := ?_ }
      · rw [List.map_append]
        exact wf.backendIds.issue wf.backends
      · rw [List.map_append]
        exact wf.backends.issue
      · refine grown.references_of ?_
        intro b hb
        rcases List.mem_append.1 hb with hb | hb
        · exact .inl ⟨b, hb, rfl⟩
        · obtain rfl := List.mem_singleton.1 hb
          exact .inr required
  | @updateBackend id request backends required found =>
      have same : backends.map (·.id) = lb.backends.map (·.id) :=
        updateFirst?_map_id found fun _ h => h
      refine { grown with
        backendIds := same ▸ wf.backendIds
        backends := same ▸ grown.backends
        references := grown.references_of fun b hb => ?_ }
      rcases mem_of_updateFirst? found hb with hb | ⟨y, -, -, rfl⟩
      · exact .inl ⟨b, hb, rfl⟩
      · exact .inr required
  | @deleteBackend id unused =>
      have sub := @List.filter_sublist _ (·.id != id) lb.backends
      exact { grown with
        backendIds := wf.backendIds.sublist (sub.map _)
        backends := grown.backends.subset (sub.map _).subset
        references := grown.references.subset (sub.filterMap _).subset }
  | @replaceTargets id targets backends found =>
      have same : backends.map (·.id) = lb.backends.map (·.id) :=
        updateFirst?_map_id found fun _ h => h
      refine { grown with
        backendIds := same ▸ wf.backendIds
        backends := same ▸ grown.backends
        references := grown.references_of fun b hb => ?_ }
      rcases mem_of_updateFirst? found hb with hb | ⟨y, hy, -, rfl⟩
      · exact .inl ⟨b, hb, rfl⟩
      · exact .inl ⟨y, hy, rfl⟩
  | @updateAcl id request acls found =>
      have same : acls.map (·.id) = lb.acls.map (·.id) :=
        updateFirst?_map_id found fun _ _ => rfl
      exact { grown with aclIds := same ▸ wf.aclIds }
  | replaceAcls => exact { grown with aclIds := distinct_issueAll fun _ _ => rfl }
  | replaceListeners => exact { grown with listenerIds := distinct_issueAll fun _ _ => rfl }

end CloudProvision.Remote
