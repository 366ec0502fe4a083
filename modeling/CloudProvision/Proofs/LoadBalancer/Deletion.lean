import CloudProvision.Proofs.Identity.Precedence
import CloudProvision.Proofs.LoadBalancer.Mapping
import CloudProvision.Proofs.LoadBalancer.Progress
import CloudProvision.Proofs.LoadBalancer.Serial

/-!
# Objects are deleted once they are unused

An update deletes backends and health checks that are left over last, when listeners and backends
refer to what the plan refers to. References go by name. A name that is sent finds the first object
that has it, which is never one that is left over, unless the first one is a backend that has been
made again and now stands last. A reference that does not change may mean an object that is left
over if this has no name of its own. And a backend that is made again is deleted early, before
listeners are replaced. In these cases an object may be in use when it is deleted, and the cloud
refuses.

## Main definitions

* `LacksOwnName`: the name of an object is blank, or that of another object too.
* `MayBeInUse`: the backends that may be in use when they are deleted.

## Main results

* `unreferencing_of_finished`: no backend refers to a health check that is left over in the end.
* `away_of_progress`: no listener refers to a backend that is left over once listeners are replaced.
* `update_deletes_unused`: which objects an update deletes only while they are unused.
* `update_refused_in_use`: deletions of objects in use.
-/

namespace CloudProvision.LoadBalancer

open Remote (Distinct Numbered WellFormed numberedId)

/-! ### Exceptions -/

/-- The object with an identifier has a blank name, or one that another object has too. -/
def LacksOwnName {ρ : Type} [Identified ρ] (objects : List ρ) (id : String) : Prop :=
  ∃ x ∈ objects, Identified.id x = .known id ∧ ((Identified.name x).key? = none ∨
    ∃ y ∈ objects, Identified.name y = Identified.name x ∧ Identified.id y ≠ .known id)

/-- A backend is made again with another type of targets. -/
def Recreated (remote : Remote.LoadBalancer) (config : State) (id : String) : Prop :=
  ∃ m ∈ (backendChanges remote config).matched,
    m.plan.entry.targetsTypeChanged m.state.entry = true ∧ m.state.entry.id = .known id

/-- Another backend with the name of a backend is made again. -/
def Displaced (remote : Remote.LoadBalancer) (config : State) (id : String) : Prop :=
  ∃ r ∈ remote.backends, r.id = id ∧
    ∃ x ∈ remote.backends, x.id ≠ id ∧ x.name = r.name ∧ Recreated remote config x.id

/-- The backends that may be in use when an update deletes them. -/
inductive MayBeInUse (remote : Remote.LoadBalancer) (config : State) (id : String) : Prop
  /-- The backend is deleted and made again before listeners are replaced. -/
  | recreated : Recreated remote config id → remote.usesBackend id = true →
      MayBeInUse remote config id
  /-- A listener that stays as it is refers to the backend by a name that does not mean it. -/
  | unnamed : LacksOwnName remote.backends id → remote.usesBackend id = true →
      MayBeInUse remote config id
  /-- The backend that was meant by the name stands last once it is made again. -/
  | displaced : Displaced remote config id → MayBeInUse remote config id

/-- An object that has a name of its own is the only one with this name, which is not blank. -/
theorem own_of_not_lacksOwnName {ρ : Type} [Identified ρ] {objects : List ρ} {id : String}
    (own : ¬ LacksOwnName objects id) {x : ρ} (hx : x ∈ objects)
    (known : Identified.id x = .known id) :
    (∃ name, (Identified.name x).key? = some name) ∧
      ∀ y ∈ objects, Identified.name y = Identified.name x → Identified.id y = .known id := by
  constructor
  · refine Option.ne_none_iff_exists'.1 fun blank => ?_
    exact own ⟨x, hx, known, .inl blank⟩
  · intro y hy same
    by_contra other
    exact own ⟨x, hx, known, .inr ⟨y, hy, same, other⟩⟩

/-! ### What is left over -/

/-- A health check corresponds to none of the plan. -/
def HealthCheckLeftOver (remote : Remote.LoadBalancer) (config : State) (r : Remote.HealthCheck) :
    Prop :=
  ∃ p ∈ (healthCheckChanges remote config).removed, p.entry = .ofRemote r

/-- A backend corresponds to none of the plan. -/
def BackendLeftOver (remote : Remote.LoadBalancer) (config : State) (r : Remote.Backend) : Prop :=
  ∃ p ∈ (backendChanges remote config).removed, p.entry = .ofRemote remote r

/-- No planned name finds a health check. -/
abbrev HealthCheckHidden (remote : Remote.LoadBalancer) (config : State) (r : Remote.HealthCheck)
    (lb : Remote.LoadBalancer) : Prop :=
  Hidden (·.id) (updatePlan remote config).healthChecks.entries remote.healthChecks
    (fun x => .deleteHealthCheck (.ofRemote x) ∉ updateSteps remote config) r lb.healthChecks

/-- No planned name finds a backend. -/
abbrev BackendHidden (remote : Remote.LoadBalancer) (config : State) (r : Remote.Backend)
    (lb : Remote.LoadBalancer) : Prop :=
  Hidden (·.id) (updatePlan remote config).backends.entries remote.backends
    (fun x => .deleteBackend (.ofRemote remote x) ∉ updateSteps remote config) r lb.backends

variable {remote : Remote.LoadBalancer} {config : State} {start : Nat} {step : Step} {x y : Stage}

/-- What stands before an identifier goes on doing so unless it is deleted. -/
theorem IdsAfter.precedes {stem : String} {issued : Nat} {deleted : String → Prop}
    {ids after : List String} {first late : String} (h : IdsAfter stem issued deleted ids after)
    (precedes : Precedes first late ids) (kept : ¬ deleted first) : Precedes first late after := by
  cases h with
  | same eq => exact eq ▸ precedes
  | created eq => exact eq ▸ precedes.append _
  | @deleted id gone eq =>
      have other : first ≠ id := fun same => kept (same ▸ gone)
      exact eq ▸ precedes.filter (bne_iff_ne.2 other)

/-- A health check that is left over is hidden at the start. -/
theorem HealthCheckLeftOver.hidden (updatable : Updatable remote config) {r : Remote.HealthCheck}
    (left : HealthCheckLeftOver remote config r) : HealthCheckHidden remote config r remote := by
  obtain ⟨p, hp, same⟩ := left
  refine Hidden.of_removed (f := HealthCheck.ofRemote) (fun _ => rfl) (fun _ => rfl)
    updatable.healthChecks_found updatable.healthCheckIds.nodup hp same ?_
  intro m hm z _ entry _ _ mem
  obtain ⟨q, hq, twice⟩ := (deleteHealthCheck_mem_iff updatable.decided).1 mem
  obtain ⟨there, alone⟩ := Changes.mem_removed.1 hq
  refine alone m hm (Placed.eq_of_nodup_map updatable.healthChecks_ownIds.distinct
    (Changes.state_mem_of_mem_matched hm) there ?_)
  rw [entry, twice]

/-- A backend that is left over is hidden at the start unless it is displaced. -/
theorem BackendLeftOver.hidden (updatable : Updatable remote config) {r : Remote.Backend}
    (hr : r ∈ remote.backends) (left : BackendLeftOver remote config r)
    (placed : ¬ Displaced remote config r.id) : BackendHidden remote config r remote := by
  obtain ⟨p, hp, same⟩ := left
  refine Hidden.of_removed (f := Backend.ofRemote remote) (fun _ => rfl) (fun _ => rfl)
    updatable.backends_found updatable.backendIds.nodup hp same ?_
  intro m hm z hz entry other name mem
  rcases (deleteBackend_mem_iff updatable.decided).1 mem with
    ⟨m', hm', retyped, twice⟩ | ⟨q, hq, twice⟩
  · refine placed ⟨r, hr, rfl, z, hz, other, Attr.known.inj name, m', hm', retyped, ?_⟩
    rw [twice]
    rfl
  · obtain ⟨there, alone⟩ := Changes.mem_removed.1 hq
    refine alone m hm (Placed.eq_of_nodup_map updatable.backends_ownIds.distinct
      (Changes.state_mem_of_mem_matched hm) there ?_)
    rw [entry, twice]

/-- Health checks stay hidden. -/
theorem HealthCheckHidden.kept (updatable : Updatable remote config)
    (mem : step ∈ updateSteps remote config)
    (effect : Effect remote (updatePlan remote config) step x y) {r : Remote.HealthCheck}
    (hidden : HealthCheckHidden remote config r x.1) : HealthCheckHidden remote config r y.1 := by
  refine hidden.mono fun z hz spared precedes => effect.healthCheckIds.precedes precedes ?_
  rintro ⟨entry, rfl, known⟩
  obtain ⟨q, hq, rfl⟩ := (deleteHealthCheck_mem_iff updatable.decided).1 mem
  obtain ⟨r', hr', same⟩ := of_mem_removed hq
  rw [same] at known mem
  obtain rfl :=
    List.inj_on_of_nodup_map updatable.healthCheckIds.nodup hr' hz (Attr.known.inj known)
  exact spared mem

/-- Backends stay hidden. -/
theorem BackendHidden.kept (updatable : Updatable remote config)
    (mem : step ∈ updateSteps remote config)
    (effect : Effect remote (updatePlan remote config) step x y) {r : Remote.Backend}
    (hidden : BackendHidden remote config r x.1) : BackendHidden remote config r y.1 := by
  refine hidden.mono fun z hz spared precedes => effect.backendIds.precedes precedes ?_
  rintro ⟨entry, rfl, known⟩
  obtain ⟨r', hr', rfl⟩ := of_deleteBackend_mem updatable.decided mem
  obtain rfl := List.inj_on_of_nodup_map updatable.backendIds.nodup hr' hz (Attr.known.inj known)
  exact spared mem

/-! ### References to health checks -/

section HealthChecks

variable {r : Remote.HealthCheck} (hr : r ∈ remote.healthChecks)

include hr

/-- What the update sends as the health check of a backend is not hidden. -/
theorem ne_of_sent (accepted : config.Accepted) (settled : Settled remote start x)
    (hidden : HealthCheckHidden remote config r x.1) {p : Backend}
    (planned : p ∈ (updatePlan remote config).backends.entries) {reference : Option String}
    (sent : healthCheckId x.1 p = .ok reference) : reference ≠ some r.id := by
  rintro rfl
  rcases healthCheckId_found sent with ⟨-, nothing⟩ | ⟨name, place, key, same, found⟩
  · cases nothing
  · obtain ⟨q, hq, known⟩ := planned_backend_reference accepted.decided accepted.valid planned key
    have filled := (Attr.key?_eq_some_iff.1 key).2
    have names : ∀ y ∈ x.1.healthChecks, ∀ z ∈ remote.healthChecks, y.id = z.id →
        Identified.name y = Identified.name z := fun y hy z hz eq =>
      congrArg Attr.known (settled.healthCheckNames y hy z hz eq)
    exact hidden.findByName?_ne hr names hq (Attr.key?_eq_some_iff.2 ⟨known, filled⟩) found
      (Option.some.inj same).symm

/-- Backends that do not refer to a hidden health check, among those with some identifiers, keep not
doing so. -/
theorem unreferencing_kept (accepted : config.Accepted) (settled : Settled remote start x)
    (hidden : HealthCheckHidden remote config r x.1)
    (effect : Effect remote (updatePlan remote config) step x y) {S : String → Prop}
    (h : ∀ b ∈ x.1.backends, S b.id → b.healthCheckId ≠ some r.id) :
    ∀ b ∈ y.1.backends, S b.id → b.healthCheckId ≠ some r.id := by
  intro b hb hS
  cases effect.backend_origin hb with
  | kept there => exact h b there hS
  | created planned sent => exact ne_of_sent hr accepted settled hidden planned sent
  | updated there _ about planned name sent =>
      exact ne_of_sent hr accepted settled hidden planned sent
  | @retargeted z targets there => exact h z there hS

/-- A backend that is updated does not refer to a hidden health check. -/
theorem unreferencing_made (accepted : config.Accepted) (settled : Settled remote start x)
    (hidden : HealthCheckHidden remote config r x.1) {entry p : Backend}
    (effect : Effect remote (updatePlan remote config) (.updateBackend entry p) x y) {id : String}
    (known : entry.id = .known id) :
    ∀ b ∈ y.1.backends, b.id = id → b.healthCheckId ≠ some r.id := by
  cases effect with
  | @updateBackend _ s p reference hs planned name there sent =>
      obtain rfl := Attr.known.inj known
      intro b hb same
      obtain ⟨z, hz, rfl⟩ := List.mem_map.1 hb
      by_cases changed : z.id = s.id
      · rw [if_pos changed]
        exact ne_of_sent hr accepted settled hidden planned sent
      · rw [if_neg changed] at same
        exact absurd same changed

/-- A backend that corresponds to one of the plan and has unchanged fields does not refer to a
hidden health check that has a name of its own. -/
theorem unreferencing_of_unchanged (updatable : Updatable remote config)
    (accepted : config.Accepted)
    (hidden : HealthCheckHidden remote config r remote)
    (own : ¬ LacksOwnName remote.healthChecks r.id) {s : Remote.Backend} {p : Backend}
    (planned : p ∈ (updatePlan remote config).backends.entries)
    (unchanged : p.fieldsChanged (.ofRemote remote s) = false) : s.healthCheckId ≠ some r.id := by
  intro reference
  obtain ⟨⟨name, key⟩, unique⟩ := own_of_not_lacksOwnName own hr rfl
  obtain ⟨same, filled⟩ := Attr.key?_eq_some_iff.1 key
  obtain rfl := Attr.known.inj same
  have read : (Backend.ofRemote remote s).healthCheck = .known r.name := by
    rw [Backend.ofRemote, reference, healthCheckName_eq updatable.healthCheckIds.nodup hr]
  simp only [Backend.fieldsChanged, Bool.or_eq_false_iff, read] at unchanged
  have known := Attr.eq_of_changed_eq_false (planned_backend_decided accepted.decided planned)
    filled unchanged.2
  obtain ⟨q, hq, there⟩ := planned_backend_reference accepted.decided accepted.valid planned
    (Attr.key?_eq_some_iff.2 ⟨known, filled⟩)
  exact hidden.name_ne (fun y hy eq => Attr.known.inj (unique y hy eq)) hq
    (Attr.key?_eq_some_iff.2 ⟨there, filled⟩) key

end HealthChecks

/-- A backend that has been deleted does not come back. -/
theorem gone_kept {plan : State} (wf : WellFormed remote start) (settled : Settled remote start x)
    (effect : Effect remote plan step x y) {r : Remote.Backend} (hr : r ∈ remote.backends)
    (h : ∀ b ∈ x.1.backends, b.id ≠ r.id) : ∀ b ∈ y.1.backends, b.id ≠ r.id := by
  intro b hb
  cases effect.backend_origin hb with
  | kept there => exact h b there
  | created planned sent => exact settled.new_backend wf hr
  | @updated z r' p reference there hr' about planned name sent => exact h z there
  | @retargeted z targets there => exact h z there

/-- The backend that a step deletes is gone. -/
theorem gone_of_deleted {plan : State} {entry : Backend}
    (effect : Effect remote plan (.deleteBackend entry) x y) {id : String}
    (known : entry.id = .known id) : ∀ b ∈ y.1.backends, b.id ≠ id := by
  cases effect with
  | deleteBackend =>
      obtain rfl := Attr.known.inj known
      intro b hb
      simpa using (List.mem_filter.1 hb).2

section Finished

variable {done : List Step} (progress : Progress remote config start done x)

include progress

/-- Backends that were deleted are gone. -/
theorem gone_of_progress {r : Remote.Backend} (hr : r ∈ remote.backends) {entry : Backend}
    (known : entry.id = .known r.id) (mem : .deleteBackend entry ∈ done) :
    ∀ b ∈ x.1.backends, b.id ≠ r.id := by
  refine progress.eventually (Q := fun u => ∀ b ∈ u.1.backends, b.id ≠ r.id) mem ?_ ?_
  · intro u v _ _ effect
    exact gone_of_deleted effect known
  · intro s _ u v hu _ gone effect
    exact gone_kept progress.wellFormed hu effect hr gone

variable {r : Remote.HealthCheck} (hr : r ∈ remote.healthChecks)
  (left : HealthCheckLeftOver remote config r) (accepted : config.Accepted)

include hr left accepted

/-- Backends that were updated do not refer to a health check that is left over. -/
theorem unreferencing_of_updated {s : Remote.Backend} {entry p : Backend}
    (known : entry.id = .known s.id) (mem : .updateBackend entry p ∈ done) :
    ∀ b ∈ x.1.backends, b.id = s.id → b.healthCheckId ≠ some r.id := by
  have updatable := progress.updatable
  refine progress.eventually_with (I := fun u => HealthCheckHidden remote config r u.1)
    (Q := fun u => ∀ b ∈ u.1.backends, b.id = s.id → b.healthCheckId ≠ some r.id)
    mem ?_ (left.hidden updatable) ?_ ?_
  · intro s hs u v _ _ hidden effect
    exact hidden.kept updatable (progress.sub hs) effect
  · intro u v hu _ hidden effect
    exact unreferencing_made hr accepted hu hidden effect known
  · intro _ _ u v hu _ hidden kept effect
    exact unreferencing_kept hr (S := (· = s.id)) accepted hu hidden effect kept

/-- Backends that did not refer to a health check that is left over still do not. -/
theorem unreferencing_of_initial {S : String → Prop}
    (initial : ∀ b ∈ remote.backends, S b.id → b.healthCheckId ≠ some r.id) :
    ∀ b ∈ x.1.backends, S b.id → b.healthCheckId ≠ some r.id := by
  have updatable := progress.updatable
  have both : HealthCheckHidden remote config r x.1 ∧
      ∀ b ∈ x.1.backends, S b.id → b.healthCheckId ≠ some r.id := by
    refine progress.invariant (I := fun u => HealthCheckHidden remote config r u.1 ∧
      ∀ b ∈ u.1.backends, S b.id → b.healthCheckId ≠ some r.id)
      ?_ ⟨left.hidden updatable, initial⟩
    rintro s hs u v hu _ ⟨hidden, kept⟩ effect
    exact ⟨hidden.kept updatable (progress.sub hs) effect,
      unreferencing_kept hr accepted hu hidden effect kept⟩
  exact both.2

variable (free : ¬ (LacksOwnName remote.healthChecks r.id ∧ remote.usesHealthCheck r.id = true))

include free

/-- A backend that corresponds to one of the plan does not refer to a health check that is left
over, once it is updated if its fields differ. -/
theorem unreferencing_of_matched {s : Remote.Backend} (hs : s ∈ remote.backends)
    {m : Pairing Backend} (hm : m ∈ (backendChanges remote config).matched)
    (entry : m.state.entry = .ofRemote remote s)
    (updated : m.plan.entry.fieldsChanged m.state.entry = true →
      .updateBackend m.state.entry m.plan.entry ∈ done) :
    ∀ b ∈ x.1.backends, b.id = s.id → b.healthCheckId ≠ some r.id := by
  have updatable := progress.updatable
  rcases changed : m.plan.entry.fieldsChanged m.state.entry
  · refine unreferencing_of_initial progress hr left accepted (S := (· = s.id)) ?_
    intro z hz eq reference
    obtain rfl := List.inj_on_of_nodup_map updatable.backendIds.nodup hz hs eq
    have used : remote.usesHealthCheck r.id = true :=
      List.any_eq_true.2 ⟨z, hz, beq_iff_eq.2 reference⟩
    have own (lacks : LacksOwnName remote.healthChecks r.id) : False := free ⟨lacks, used⟩
    have planned := Placed.entry_mem (Changes.mem_matched.1 hm).1
    exact unreferencing_of_unchanged hr updatable accepted (left.hidden updatable) own planned
      (entry ▸ changed) reference
  · have known : m.state.entry.id = .known s.id := by rw [entry, Backend.ofRemote]
    exact unreferencing_of_updated progress hr left accepted known (updated changed)

/-- When only health checks are left to delete, no backend refers to one of them, if it has a name
of its own or was not in use when the update began. -/
theorem unreferencing_of_finished
    (finished : ∀ s ∈ updateSteps remote config, (∀ h, s ≠ .deleteHealthCheck h) → s ∈ done) :
    ∀ b ∈ x.1.backends, b.healthCheckId ≠ some r.id := by
  have decided := progress.updatable.decided
  intro b hb
  by_cases old : b.id ∈ remote.backends.map (·.id)
  · obtain ⟨s, hs, same⟩ := List.mem_map.1 old
    obtain ⟨place, hplace, entry⟩ := Placed.exists_mem_ofList
      (List.mem_map_of_mem (f := Backend.ofRemote remote) hs)
    have known : place.entry.id = .known s.id := by rw [entry, Backend.ofRemote]
    have deleted (mem : .deleteBackend place.entry ∈ updateSteps remote config) : False := by
      have made := finished _ mem fun _ => by simp
      exact gone_of_progress progress hs known made b hb same.symm
    rcases Changes.mem_removed_or_matched (updatePlan remote config).backends.entries hplace with
      removed | ⟨m, hm, rfl⟩
    · exact absurd ((deleteBackend_mem_iff decided).2 (.inr ⟨place, removed, rfl⟩)) deleted
    rcases retyped : m.plan.entry.targetsTypeChanged m.state.entry
    · refine unreferencing_of_matched progress hr left accepted free hs hm entry ?_ b hb same.symm
      intro changed
      have mem := (updateBackend_mem_iff decided).2 ⟨m, hm, retyped, changed, rfl, rfl⟩
      exact finished _ mem fun _ => by simp
    · exact absurd ((deleteBackend_mem_iff decided).2 (.inl ⟨m, hm, retyped, rfl⟩)) deleted
  -- A backend that the update has created was sent with its reference.
  · refine unreferencing_of_initial progress hr left accepted
      (S := fun id => id ∉ remote.backends.map (·.id)) ?_ b hb old
    intro s hs new
    exact absurd (List.mem_map_of_mem hs) new

end Finished

/-! ### References to backends -/

section Backends

variable {r : Remote.Backend} (hr : r ∈ remote.backends)

include hr

/-- The listeners of the plan do not refer to a hidden backend. -/
theorem away_of_sent (accepted : config.Accepted) (settled : Settled remote start x)
    (hidden : BackendHidden remote config r x.1) {l : Listener}
    (planned : l ∈ (updatePlan remote config).listeners.entries) {spec : Remote.ListenerSpec}
    (sent : listenerSpec x.1 l = .ok spec) : spec.backendId ≠ r.id := by
  obtain ⟨p, found, rfl⟩ := listenerSpec_found sent
  obtain ⟨name, reference, q, hq, known⟩ :=
    planned_listener_reference accepted.decided accepted.valid planned
  have text : l.backend.text = name := by rw [reference]; rfl
  rw [text] at found
  have filled := (Attr.key?_eq_some_iff.1 (IdentityIndex.of_findByName? found).2).2
  have names : ∀ y ∈ x.1.backends, ∀ z ∈ remote.backends, y.id = z.id →
      Identified.name y = Identified.name z := fun y hy z hz eq =>
    congrArg Attr.known (settled.backendNames y hy z hz eq)
  exact hidden.findByName?_ne hr names hq (Attr.key?_eq_some_iff.2 ⟨known, filled⟩) found

/-- Replaced listeners do not refer to a hidden backend. -/
theorem away_of_replaced (accepted : config.Accepted) (settled : Settled remote start x)
    (hidden : BackendHidden remote config r x.1) {listeners : List Listener}
    (effect : Effect remote (updatePlan remote config) (.replaceListeners listeners) x y) :
    ∀ l ∈ y.1.listeners, l.backendId ≠ r.id := by
  cases effect with
  | replaceListeners sent =>
      intro l hl
      obtain ⟨spec, hspec, number, -, rfl⟩ := Remote.mem_issueAll hl
      obtain ⟨p, hp, ok⟩ := exists_of_forall₂ sent spec hspec
      exact away_of_sent hr accepted settled hidden hp ok

/-- Listeners that do not refer to a hidden backend keep not doing so. -/
theorem away_kept (accepted : config.Accepted) (settled : Settled remote start x)
    (hidden : BackendHidden remote config r x.1)
    (effect : Effect remote (updatePlan remote config) step x y)
    (away : ∀ l ∈ x.1.listeners, l.backendId ≠ r.id) :
    ∀ l ∈ y.1.listeners, l.backendId ≠ r.id := by
  cases effect with
  | replaceListeners sent =>
      exact away_of_replaced hr accepted settled hidden (.replaceListeners sent)
  | _ => exact away

/-- No listener that has not changed refers to a hidden backend that has a name of its own. -/
theorem away_of_unchanged (updatable : Updatable remote config) (accepted : config.Accepted)
    (hidden : BackendHidden remote config r remote) (own : ¬ LacksOwnName remote.backends r.id)
    (same : (listenerChanges remote config).isEmpty = true) :
    ∀ l ∈ remote.listeners, l.backendId ≠ r.id := by
  intro l hl reference
  obtain ⟨⟨name, key⟩, unique⟩ := own_of_not_lacksOwnName own hr rfl
  obtain ⟨named, filled⟩ := Attr.key?_eq_some_iff.1 key
  obtain rfl := Attr.known.inj named
  obtain ⟨p, hp, unchanged⟩ := Changes.exists_unchanged same
    (List.mem_map_of_mem (f := Listener.ofRemote remote) hl)
  obtain ⟨name, planned, q, hq, there⟩ :=
    planned_listener_reference accepted.decided accepted.valid hp
  have backend : (Listener.ofRemote remote l).backend = .known r.name := by
    rw [Listener.ofRemote, reference, backendName_eq updatable.backendIds.nodup hr]
  have fields : p.changedFrom (.ofRemote remote l) = false := unchanged
  simp only [Listener.changedFrom, Bool.or_eq_false_iff, backend] at fields
  have decided : p.backend.isUnknown = false := by rw [planned]; rfl
  have known := Attr.eq_of_changed_eq_false decided filled fields.1.2
  refine hidden.name_ne (fun y hy eq => Attr.known.inj (unique y hy eq)) hq
    (Attr.key?_eq_some_iff.2 ⟨?_, filled⟩) key
  exact there.trans (planned.symm.trans known)

end Backends

/-! ### Deletions in their order -/

/-- What is not among the first steps comes after all of them. -/
theorem after_of_not_mem {front back done rest : List Step}
    (h : front ++ back = done ++ step :: rest) (new : step ∉ front) :
    ∃ before, done = front ++ before ∧ back = before ++ step :: rest := by
  rcases append_eq_append_cons h with ⟨more, rfl, -⟩ | after
  · exact absurd (List.mem_append_right _ List.mem_cons_self) new
  · exact after

section Order

variable {done rest : List Step} (progress : Progress remote config start done x)

include progress

/-- Listeners are as at the start until they are replaced. -/
theorem listeners_eq_of_progress
    (kept : ∀ s ∈ done, ∀ listeners, s ≠ .replaceListeners listeners) :
    x.1.listeners = remote.listeners := by
  refine progress.invariant (I := fun u => u.1.listeners = remote.listeners) ?_ rfl
  intro s hs u v _ _ same effect
  exact (effect.listeners_eq (kept s hs)).trans same

variable (accepted : config.Accepted)

include accepted

/-- No listener refers to a backend that is left over once the listeners that differ are replaced,
unless it is displaced, or has no name of its own and was in use when the update began. -/
theorem away_of_progress {r : Remote.Backend} (hr : r ∈ remote.backends)
    (left : BackendLeftOver remote config r) (placed : ¬ Displaced remote config r.id)
    (free : ¬ (LacksOwnName remote.backends r.id ∧ remote.usesBackend r.id = true))
    (replaced : (listenerChanges remote config).isEmpty = false →
      .replaceListeners (updatePlan remote config).listeners.entries ∈ done) :
    ∀ l ∈ x.1.listeners, l.backendId ≠ r.id := by
  have updatable := progress.updatable
  have hidden := left.hidden updatable hr placed
  have always : Kept remote config start done fun u => BackendHidden remote config r u.1 := by
    intro s hs u v _ _ hidden effect
    exact hidden.kept updatable (progress.sub hs) effect
  rcases same : (listenerChanges remote config).isEmpty
  · refine progress.eventually_with (Q := fun u => ∀ l ∈ u.1.listeners, l.backendId ≠ r.id)
      (replaced same) always hidden ?_ ?_
    · intro u v hu _ hidden effect
      exact away_of_replaced hr accepted hu hidden effect
    · intro s _ u v hu _ hidden away effect
      exact away_kept hr accepted hu hidden effect away
  · have initial : ∀ l ∈ remote.listeners, l.backendId ≠ r.id := by
      intro l hl reference
      have used : remote.usesBackend r.id = true :=
        List.any_eq_true.2 ⟨l, hl, beq_iff_eq.2 reference⟩
      have own (lacks : LacksOwnName remote.backends r.id) : False := free ⟨lacks, used⟩
      exact away_of_unchanged hr updatable accepted hidden own same l hl reference
    have both : BackendHidden remote config r x.1 ∧ ∀ l ∈ x.1.listeners, l.backendId ≠ r.id := by
      refine progress.invariant (I := fun u => BackendHidden remote config r u.1 ∧
        ∀ l ∈ u.1.listeners, l.backendId ≠ r.id) ?_ ⟨hidden, initial⟩
      rintro s hs u v hu hv ⟨hidden, away⟩ effect
      exact ⟨always s hs u v hu hv hidden effect, away_kept hr accepted hu hidden effect away⟩
    exact both.2

/-- A health check is deleted when no backend refers to it, unless it has no name of its own and was
in use when the update began. -/
theorem usesHealthCheck_of_progress {h : HealthCheck}
    (split : updateSteps remote config = done ++ .deleteHealthCheck h :: rest) {id : String}
    (known : h.id = .known id) : x.1.usesHealthCheck id = false ∨
      LacksOwnName remote.healthChecks id ∧ remote.usesHealthCheck id = true := by
  obtain ⟨early, steps, -, never, -⟩ := updateSteps_eq progress.updatable.decided
  obtain ⟨before, rfl, last⟩ := after_of_not_mem (steps.symm.trans split) (by simp [never])
  have mem : .deleteHealthCheck h ∈ before ++ .deleteHealthCheck h :: rest :=
    List.mem_append_right _ List.mem_cons_self
  rw [← last] at mem
  obtain ⟨p, hp, same⟩ := List.mem_map.1 mem
  obtain rfl := Step.deleteHealthCheck.inj same
  obtain ⟨r, hr, entry⟩ := of_mem_removed hp
  rw [entry] at known
  obtain rfl := Attr.known.inj known
  refine Classical.or_iff_not_imp_right.2 fun free => ?_
  rw [Remote.LoadBalancer.usesHealthCheck, List.any_eq_false]
  intro b hb same
  refine unreferencing_of_finished progress hr ⟨p, hp, entry⟩ accepted free ?_ b hb
    (beq_iff_eq.1 same)
  intro s hs other
  rw [steps] at hs
  rcases List.mem_append.1 hs with first | last
  · exact List.mem_append_left _ first
  · obtain ⟨q, -, rfl⟩ := List.mem_map.1 last
    exact absurd rfl (other _)

/-- A backend is deleted when no listener refers to it, with some exceptions. -/
theorem usesBackend_of_progress {b : Backend}
    (split : updateSteps remote config = done ++ .deleteBackend b :: rest) {id : String}
    (known : b.id = .known id) :
    x.1.usesBackend id = false ∨ MayBeInUse remote config id := by
  obtain ⟨early, steps, kept, -, again⟩ := updateSteps_eq progress.updatable.decided
  have order := steps.symm.trans split
  simp only [List.append_assoc] at order
  rcases append_eq_append_cons order with ⟨more, rfl, -⟩ | ⟨before, rfl, last⟩
  -- The deletion is early: the backend is made again, and the listeners are those of the start.
  · have same := listeners_eq_of_progress progress fun s hs listeners eq =>
      kept listeners (List.mem_append_left _ (eq ▸ hs))
    obtain ⟨m, hm, retyped, rfl⟩ := again b (List.mem_append_right _ List.mem_cons_self)
    rcases used : remote.usesBackend id
    · rw [Remote.LoadBalancer.usesBackend, same]
      exact .inl used
    · exact .inr (.recreated ⟨m, hm, retyped, known⟩ used)
  -- The deletion comes after the listeners have been replaced.
  · obtain ⟨between, rfl, deletions⟩ := after_of_not_mem last (by split <;> simp)
    have mem : .deleteBackend b ∈ between ++ .deleteBackend b :: rest :=
      List.mem_append_right _ List.mem_cons_self
    rw [← deletions] at mem
    obtain ⟨p, hp, same⟩ := List.mem_map.1 ((List.mem_append.1 mem).resolve_right (by simp))
    obtain rfl := Step.deleteBackend.inj same
    obtain ⟨r, hr, entry⟩ := of_mem_removed hp
    rw [entry] at known
    obtain rfl := Attr.known.inj known
    refine Classical.or_iff_not_imp_right.2 fun free => ?_
    rw [Remote.LoadBalancer.usesBackend, List.any_eq_false]
    intro l hl same
    refine away_of_progress progress accepted hr ⟨p, hp, entry⟩
      (fun displaced => free (.displaced displaced))
      (fun unnamed => free (.unnamed unnamed.1 unnamed.2)) (fun differ => by simp [differ]) l hl
      (beq_iff_eq.1 same)

end Order

/-! ### Deletions of an update -/

/-- A change deletes nothing that the load balancer in the cloud uses, and the cloud does not answer
that an object is in use, but for the exceptions. -/
structure DeletesUnused (remote : Remote.LoadBalancer) (config : State) (cloud : MemoryCloud)
    (change : Remote.Change) : Prop where
  healthCheck : ∀ id entry, change = .deleteHealthCheck id →
    cloud.loadBalancers.get? remote.id = some entry → entry.object.usesHealthCheck id = false ∨
      LacksOwnName remote.healthChecks id ∧ remote.usesHealthCheck id = true
  backend : ∀ id entry, change = .deleteBackend id →
    cloud.loadBalancers.get? remote.id = some entry → entry.object.usesBackend id = false ∨
      MayBeInUse remote config id
  answer : ∀ kind object, kind = "backend" ∨ kind = "health check" →
    MemoryCloud.serve (.changeLoadBalancer remote.id change) cloud =
      .error (.rejected 409 (kind ++ " " ++ object ++ " is in use")) →
    (∃ id, change = .deleteHealthCheck id ∧ LacksOwnName remote.healthChecks id ∧
      remote.usesHealthCheck id = true) ∨
    ∃ id, change = .deleteBackend id ∧ MayBeInUse remote config id

/-- An object in use is no load balancer, as the answers tell. -/
theorem in_use_ne {kind object id status : String} (h : kind = "backend" ∨ kind = "health check") :
    kind ++ " " ++ object ++ " is in use" ≠ "load balancer " ++ id ++ " is " ++ status := by
  intro same
  have letters := congrArg (fun text => text.toList.head?) same
  rcases h with rfl | rfl <;> simp [String.toList_append] at letters

/-- What is said of the load balancer that the cloud holds is said of its answers. -/
theorem deletesUnused_of_holds {cloud : MemoryCloud} {lb : Remote.LoadBalancer} {issued : Nat}
    {change : Remote.Change} (holds : cloud.Holds remote.id lb issued)
    (healthCheck : ∀ id, change = .deleteHealthCheck id → lb.usesHealthCheck id = false ∨
      LacksOwnName remote.healthChecks id ∧ remote.usesHealthCheck id = true)
    (backend : ∀ id, change = .deleteBackend id → lb.usesBackend id = false ∨
      MayBeInUse remote config id) :
    DeletesUnused remote config cloud change where
  healthCheck id entry deletes there := by
    have same : entry.object.usesHealthCheck id = lb.usesHealthCheck id :=
      congrArg (·.usesHealthCheck id) (holds.object entry there)
    exact same ▸ healthCheck id deletes
  backend id entry deletes there := by
    have same : entry.object.usesBackend id = lb.usesBackend id :=
      congrArg (·.usesBackend id) (holds.object entry there)
    exact same ▸ backend id deletes
  answer kind object named served := by
    rw [MemoryCloud.serve_changeLoadBalancer] at served
    rcases found : cloud.loadBalancers.get? remote.id with - | entry
    · rw [found] at served
      cases served
    · simp only [found] at served
      by_cases runs : entry.object.status = "running"
      · have same : entry.object = lb := by
          rw [← holds.object entry found, MemoryCloud.running, ← runs]
        rw [if_pos runs, same] at served
        rcases applied : change.apply lb cloud.issued with e | ⟨lb', issued'⟩
        · rw [applied] at served
          obtain rfl := Except.error.inj served
          rcases Remote.rejected_of_apply applied with ⟨id, deletes, used⟩ | ⟨id, deletes, used⟩
          · rcases healthCheck id deletes with unused | exception
            · cases used.symm.trans unused
            · exact .inl ⟨id, deletes, exception⟩
          · rcases backend id deletes with unused | exception
            · cases used.symm.trans unused
            · exact .inr ⟨id, deletes, exception⟩
        · rw [applied] at served
          cases served
      · rw [if_neg runs] at served
        obtain ⟨-, text⟩ := Remote.ApiError.rejected.inj (Except.error.inj served)
        exact absurd text.symm (in_use_ne named)

variable {env : Environment (Faulty MemoryCloud)} {session there : Session (Faulty MemoryCloud)}
  {current : Remote.LoadBalancer}

/-- Whatever a step of an update deletes is unused when the step is reached, with some exceptions.
-/
theorem deletesUnused_of_reaches (held : Held env session remote) (accepted : config.Accepted)
    (started : converge remote.id env session = (.ok current, there))
    {here : Remote.LoadBalancer × Session (Faulty MemoryCloud)} {change : Remote.Change}
    (reached : Reaches env remote.id (updateSteps remote config) (current, there) step here)
    (resolved : step.resolve here.1 = .ok change) :
    DeletesUnused remote config here.2.cloud.cloud change := by
  obtain ⟨done, rest, issued, split, progress, holds⟩ := held.progress accepted started reached
  have mem : step ∈ updateSteps remote config :=
    split ▸ List.mem_append_right _ List.mem_cons_self
  have wf := progress.settled.wellFormed
  refine deletesUnused_of_holds holds ?_ ?_
  · rintro id rfl
    cases resolved_of_resolve resolved with
    | deleteHealthCheck found =>
        obtain ⟨q, hq, rfl⟩ := (deleteHealthCheck_mem_iff accepted.decided).1 mem
        obtain ⟨r, hr, same⟩ := of_mem_removed hq
        have present := held.wellFormed.healthCheckIds.present _ (List.mem_map_of_mem hr)
        rw [same] at found split
        obtain ⟨rfl, -⟩ :=
          remoteId_eq_of_distinct (fun _ => rfl) wf.healthCheckIds rfl present found
        exact usesHealthCheck_of_progress progress accepted split rfl
  · rintro id rfl
    cases resolved_of_resolve resolved with
    | deleteBackend found =>
        obtain ⟨r, hr, rfl⟩ := of_deleteBackend_mem accepted.decided mem
        have present := held.wellFormed.backendIds.present _ (List.mem_map_of_mem hr)
        obtain ⟨rfl, -⟩ := remoteId_eq_of_distinct (fun _ => rfl) wf.backendIds rfl present found
        exact usesBackend_of_progress progress accepted split rfl

/-- An update comes to make a change in the session `here`: it has reached a step that resolves to
it. -/
def ComesTo (env : Environment (Faulty MemoryCloud)) (session : Session (Faulty MemoryCloud))
    (remote : Remote.LoadBalancer) (config : State) (change : Remote.Change)
    (here : Session (Faulty MemoryCloud)) : Prop :=
  ∃ current there step lb, converge remote.id env session = (.ok current, there) ∧
    Reaches env remote.id (updateSteps remote config) (current, there) step (lb, here) ∧
    step.resolve lb = .ok change

/-- Every change of an update is made at a moment at which nothing in the cloud uses what it
deletes, with some exceptions: health checks and backends that were in use when the update began and
have no names of their own, backends that were in use then and are made again, and backends that
share the name of one that is made again. -/
theorem update_deletes_unused (held : Held env session remote) (accepted : config.Accepted)
    {diagnostics : Diagnostics} {answer : Option State × Diagnostics}
    {session' : Session (Faulty MemoryCloud)}
    (run : resource.update (.ofRemote remote) (updatePlan remote config) diagnostics env session =
      (answer, session')) :
    ∃ events, session'.trace = events ++ session.trace ∧
      ∀ newer e older, events = newer ++ e :: older → e.call.isRead = false →
        ∃ change here, e.call = .changeLoadBalancer remote.id change ∧
          ComesTo env session remote config change here ∧ here.trace = older ++ session.trace ∧
          DeletesUnused remote config here.cloud.cloud change := by
  rw [update_eq] at run
  obtain ⟨events, traced, issued⟩ := startAndRollout_issues run
  refine ⟨events, traced, ?_⟩
  intro newer e older split isChange
  obtain ⟨current, there, step, here, change, started, reached, resolved, call, before⟩ :=
    issued newer e older split isChange
  have comes : ComesTo env session remote config change here.2 :=
    ⟨current, there, step, here.1, started, reached, resolved⟩
  have unused := deletesUnused_of_reaches held accepted started reached resolved
  exact ⟨change, here.2, call, comes, before, unused⟩

/-! ### Deletions in a cloud in memory -/

/-- The update of the sample makes four changes, two of them deletions of unused objects. -/
theorem update_deletes_unused_sample :
    let run := resource.update (.ofRemote crowdedRemote) (updatePlan crowdedRemote sparseConfig)
      .none memoryEnvironment (memorySession crowdedRemote 2)
    (∃ events, run.2.trace = events ++ [] ∧
      ∀ newer e older, events = newer ++ e :: older → e.call.isRead = false →
        ∃ change here, e.call = .changeLoadBalancer "lb-1" change ∧
          ComesTo memoryEnvironment (memorySession crowdedRemote 2) crowdedRemote sparseConfig
            change here ∧ here.trace = older ++ [] ∧
          DeletesUnused crowdedRemote sparseConfig here.cloud.cloud change) ∧
      (run.2.trace.filter fun e => !e.call.isRead).length = 4 :=
  ⟨update_deletes_unused
    (held_memorySession (by decide) (by decide) (by decide) (by decide) (by decide)
      (by decide +kernel) (by decide +kernel) (by decide +kernel))
    (by decide +kernel) rfl, by decide +kernel⟩

/-- A load balancer with some health checks and backends, and a listener if it has a backend to send
to. -/
def pairRemote (listener : Option String) (healthChecks : List Remote.HealthCheck)
    (backends : List Remote.Backend) : Remote.LoadBalancer :=
  { crowdedRemote with
    listeners := listener.toList.map (⟨"ls-1", some "http", 80, "http", ·, none⟩)
    healthChecks
    backends }

/-- A health check with a name. -/
def remotePing (id name : String) : Remote.HealthCheck :=
  ⟨id, name, "http", 80, none, 10, 5, 3, 3⟩

/-- The health check as configured. -/
def configuredPing (name : String) : HealthCheck :=
  ⟨.null, .known name, .known "http", .known 80, .null, .null, .null, .null, .null⟩

/-- A backend with a name, and its health check. -/
def remoteBackend (id name : String) (healthCheckId : Option String) : Remote.Backend :=
  ⟨id, name, "instance", none, false, healthCheckId, []⟩

/-- An accepted configuration of a running load balancer with valid references whose update is
refused because it deletes an object in use. The cloud has issued a number of identifiers. -/
structure RefusedInUse (remote : Remote.LoadBalancer) (config : State) (issued : Nat)
    (object : String) : Prop where
  runs : remote.status = "running"
  healthCheckIds : Distinct (remote.healthChecks.map (·.id))
  backendIds : Distinct (remote.backends.map (·.id))
  aclIds : Distinct (remote.acls.map (·.id))
  listenerIds : Distinct (remote.listeners.map (·.id))
  backends : ∀ l ∈ remote.listeners, remote.hasBackend l.backendId = true
  healthChecks : ∀ b ∈ remote.backends, ∀ id ∈ b.healthCheckId, remote.hasHealthCheck id = true
  accepted : config.Accepted
  answer : (resource.update (.ofRemote remote) (updatePlan remote config) .none memoryEnvironment
    (memorySession remote issued)).1 = (none, .error .none (.onRoot "Could not update load balancer"
      s!"API error 409: {object} is in use"))

/-- A backend in use is deleted if it is made again with another type of targets, if another one has
its name, if it has no name, and if it comes to be used because the first one of its name is made
again. A health check in use is deleted if another one has its name, if it has no name, and if the
cloud gives its identifier to a new one. -/
theorem update_refused_in_use :
    RefusedInUse (pairRemote "be-1" [] [remoteBackend "be-1" "web" none])
        (pairConfig "web" "raw" .null []) 2 "backend be-1" ∧
      RefusedInUse (pairRemote "be-1" []
          [remoteBackend "be-2" "web" none, remoteBackend "be-1" "web" none])
        (pairConfig "web" "instance" .null []) 2 "backend be-1" ∧
      RefusedInUse (pairRemote "be-1" [] [remoteBackend "be-1" "" none])
        (pairConfig "" "instance" .null []) 2 "backend be-1" ∧
      RefusedInUse (pairRemote none []
          [remoteBackend "be-1" "web" none, remoteBackend "be-2" "web" none])
        (pairConfig "web" "raw" .null []) 2 "backend be-2" ∧
      RefusedInUse (pairRemote "be-1" [remotePing "hc-1" "ping", remotePing "hc-2" "ping"]
          [remoteBackend "be-1" "web" "hc-2"])
        (pairConfig "web" "instance" (.known "ping") [configuredPing "ping"]) 2
        "health check hc-2" ∧
      RefusedInUse (pairRemote "be-1" [remotePing "hc-1" ""] [remoteBackend "be-1" "web" "hc-1"])
        (pairConfig "web" "instance" .null []) 2 "health check hc-1" ∧
      RefusedInUse (pairRemote "be-1" [remotePing "hc-1" "probe"] [remoteBackend "be-1" "web" none])
        (pairConfig "web" "instance" (.known "ping") [configuredPing "ping"]) 0
        "health check hc-1" := by
  refine ⟨?_, ?_, ?_, ?_, ?_, ?_, ?_⟩ <;>
    exact ⟨by decide, by decide, by decide, by decide, by decide, by decide, by decide,
      by decide +kernel, by decide +kernel⟩

end CloudProvision.LoadBalancer
