import CloudProvision.Proofs.LoadBalancer.Coverage

/-!
# Collections that an update replaces

ACLs are replaced together if one of them is new or left over, listeners if anything about them
differs. In the end there are no more of them than planned, and each planned one stands for an
object. Listeners that are kept go on to refer to their backends: a backend in use is not deleted,
and none changes its name.

## Main results

* `acls_made`, `listeners_made`: planned entries stand for objects, and there are no others.
* `topLevel_made`: the name and the description are those of the plan.
-/

namespace CloudProvision.LoadBalancer

variable {remote : Remote.LoadBalancer} {config : State} {start : Nat} {step : Step} {u v x : Stage}

/-! ### ACLs -/

/-- An ACL of the plan stands for one of the load balancer. -/
abbrev AclMade (remote : Remote.LoadBalancer) (config : State) (p : Acl) (u : Stage) : Prop :=
  Made Remote.Acl.id Acl.ofRemote (updatePlan remote config).acls.entries
    (State.ofRemote remote).acls.entries p u.1.acls

/-- All ACLs of the plan stand for one, and there are no more of them. -/
def AclsMade (plan : List Acl) (u : Stage) : Prop :=
  (∀ p ∈ plan, ∃ a ∈ u.1.acls, p.changedFrom (.ofRemote a) = false) ∧ u.1.acls.length ≤ plan.length

section Acls

variable (complete : config.Complete)

include complete

/-- ACLs that are replaced are those of the plan. -/
theorem AclsMade.of_replaced {plan : List Acl}
    (effect : Effect remote (updatePlan remote config) (.replaceAcls plan) u v) :
    AclsMade plan v := by
  cases effect with
  | replaceAcls =>
      constructor
      · intro p planned
        have sent := List.mem_map_of_mem (f := Acl.spec) planned
        obtain ⟨id, mem⟩ := Remote.exists_mem_issueAll sent
        exact ⟨_, mem, Acl.changedFrom_spec (planned_acl complete planned).2 id⟩
      · simp

/-- No step takes its object from an ACL of the plan, as long as ACLs are not replaced. -/
theorem AclMade.kept (updatable : Updatable remote config) (accepted : config.Accepted) {p : Acl}
    (planned : p ∈ (updatePlan remote config).acls.entries)
    (mem : step ∈ updateSteps remote config)
    (kept : (aclChanges remote config).membershipChanged = false)
    (effect : Effect remote (updatePlan remote config) step u v)
    (made : AclMade remote config p u) :
    AclMade remote config p v := by
  cases effect with
  | @updateAcl _ r q hr _ name there =>
      obtain ⟨-, m, hm, -, entry, rfl⟩ := (updateAcl_mem_iff updatable.decided).1 mem
      refine made.update rfl fun slot => ?_
      have about : Identified.id m.state.entry = .known r.id := by rw [entry]; rfl
      obtain ⟨-, rfl⟩ := slot.pair updatable.acls_ownIds
        (acls_byLabel updatable accepted complete) hm about
      exact Acl.changedFrom_spec (planned_acl complete planned).2 _
  | replaceAcls =>
      obtain ⟨replaced, -⟩ := (replaceAcls_mem_iff updatable.decided).1 mem
      cases kept.symm.trans replaced
  | _ => exact made

/-- An ACL of the plan stands for the one that was made from it. -/
theorem AclMade.of_updated {p entry : Acl} {id : String}
    (planned : p ∈ (updatePlan remote config).acls.entries)
    (effect : Effect remote (updatePlan remote config) (.updateAcl entry p) u v)
    (known : entry.id = .known id)
    (slot : Slot (updatePlan remote config).acls.entries (State.ofRemote remote).acls.entries
      (fun _ => True) p id) : AclMade remote config p v := by
  cases effect with
  | updateAcl hr hp name there =>
      obtain rfl := Attr.known.inj known
      have same := Acl.changedFrom_spec (planned_acl complete planned).2
      exact Made.of_update there rfl slot (same _)

variable (progress : Progress remote config start (updateSteps remote config) x)

include progress

/-- If ACLs are not replaced, those of the plan stand for one in the end. -/
theorem aclMade_of_progress (accepted : config.Accepted)
    (same : (aclChanges remote config).membershipChanged = false) {p : Acl}
    (planned : p ∈ (updatePlan remote config).acls.entries) : AclMade remote config p x := by
  have updatable := progress.updatable
  have kept : Kept remote config start (updateSteps remote config) (AclMade remote config p) := by
    intro s hs u v _ _ made effect
    exact made.kept complete updatable accepted planned hs same effect
  rcases Changes.exists_added_or_matched (State.ofRemote remote).acls.entries planned with
    ⟨q, hq, -⟩ | ⟨m, hm, rfl⟩
  · have added : (aclChanges remote config).added = [] := by
      simp only [Changes.membershipChanged, Bool.or_eq_false_iff, Bool.not_eq_false',
        List.isEmpty_iff] at same
      exact same.1
    rw [added] at hq
    cases hq
  · obtain ⟨-, r, hr, entry, -⟩ := of_mem_matched updatable.acls_found (fun _ => rfl) hm
    have known : m.state.entry.id = .known r.id := by rw [entry]; rfl
    have slot : Slot (updatePlan remote config).acls.entries
        (State.ofRemote remote).acls.entries (fun _ => True) m.plan.entry r.id :=
      .inr ⟨m, hm, trivial, rfl, known⟩
    rcases changed : m.plan.entry.changedFrom m.state.entry
    · exact progress.invariant kept ⟨r, hr, slot, entry ▸ changed⟩
    · have mem := (updateAcl_mem_iff updatable.decided).2 ⟨same, m, hm, changed, rfl, rfl⟩
      refine progress.eventually mem ?_ kept
      intro u v _ _ effect
      exact .of_updated complete planned effect known slot

omit complete in
/-- If ACLs are not replaced, there are as many as at the start. -/
theorem length_acls_eq (same : (aclChanges remote config).membershipChanged = false) :
    x.1.acls.length = remote.acls.length := by
  refine progress.invariant (I := fun u => u.1.acls.length = remote.acls.length) ?_ rfl
  intro s hs u v _ _ size effect
  cases effect with
  | updateAcl => exact (List.length_map _).trans size
  | replaceAcls =>
      obtain ⟨replaced, -⟩ := (replaceAcls_mem_iff progress.updatable.decided).1 hs
      cases same.symm.trans replaced
  | _ => exact size

/-- In the end all ACLs of the plan stand for one, and there are no more of them. -/
theorem acls_made (accepted : config.Accepted) :
    AclsMade (updatePlan remote config).acls.entries x := by
  have decided := progress.updatable.decided
  rcases replaced : (aclChanges remote config).membershipChanged
  · constructor
    · intro p planned
      obtain ⟨a, ha, -, same⟩ := aclMade_of_progress complete progress accepted replaced planned
      exact ⟨a, ha, same⟩
    · have removed : (aclChanges remote config).removed = [] := by
        simp only [Changes.membershipChanged, Bool.or_eq_false_iff, Bool.not_eq_false',
          List.isEmpty_iff] at replaced
        exact replaced.2
      have le := Changes.length_state_le_of_removed removed
      rw [length_acls_eq progress replaced, ← List.length_map]
      exact le
  · have mem := (replaceAcls_mem_iff decided).2 ⟨replaced, rfl⟩
    refine progress.eventually mem ?_ ?_
    · intro u v _ _ effect
      exact .of_replaced complete effect
    · intro s hs u v _ _ made effect
      cases effect with
      | updateAcl =>
          obtain ⟨same, -⟩ := (updateAcl_mem_iff decided).1 hs
          cases replaced.symm.trans same
      | replaceAcls => exact .of_replaced complete (@Effect.replaceAcls remote _ u)
      | _ => exact made

end Acls

/-! ### Listeners -/

/-- A backend in use stays, with its name. -/
theorem Effect.backend_stays {plan : State} (settled : Settled remote start u)
    (effect : Effect remote plan step u v) {b : Remote.Backend} (hb : b ∈ u.1.backends)
    (used : u.1.usesBackend b.id = true) : ∃ c ∈ v.1.backends, c.id = b.id ∧ c.name = b.name := by
  cases effect with
  | createBackend => exact ⟨b, List.mem_append_left _ hb, rfl, rfl⟩
  | @updateBackend _ r p reference hr _ name there sent =>
      by_cases changed : b.id = r.id
      · refine ⟨_, List.mem_map.2 ⟨b, hb, if_pos changed⟩, rfl, ?_⟩
        rw [settled.backendNames b hb r hr changed]
        exact congrArg Attr.text name
      · exact ⟨b, List.mem_map.2 ⟨b, hb, if_neg changed⟩, rfl, rfl⟩
  | @deleteBackend _ r hr there unused =>
      have ne : b.id ≠ r.id := by
        intro same
        rw [same, unused] at used
        cases used
      exact ⟨b, List.mem_filter.2 ⟨hb, by simpa using ne⟩, rfl, rfl⟩
  | @replaceTargets _ r p hr _ name there =>
      by_cases changed : b.id = r.id
      · exact ⟨_, List.mem_map.2 ⟨b, hb, if_pos changed⟩, rfl, rfl⟩
      · exact ⟨b, List.mem_map.2 ⟨b, hb, if_neg changed⟩, rfl, rfl⟩
  | _ => exact ⟨b, hb, rfl, rfl⟩

/-- A listener whose backend is there keeps it and is read as before. -/
theorem Effect.listener_stays {plan : State} (before : Settled remote start u)
    (after : Settled remote start v) (effect : Effect remote plan step u v) {l : Remote.Listener}
    (hl : l ∈ u.1.listeners) (there : u.1.hasBackend l.backendId = true) :
    v.1.hasBackend l.backendId = true ∧ Listener.ofRemote v.1 l = .ofRemote u.1 l := by
  obtain ⟨b, hb, same⟩ := List.mem_map.1 (Remote.LoadBalancer.hasBackend_iff.1 there)
  have used : u.1.usesBackend b.id = true :=
    List.any_eq_true.2 ⟨l, hl, beq_iff_eq.2 same.symm⟩
  obtain ⟨c, hc, id, name⟩ := effect.backend_stays before hb used
  have read : backendName v.1 l.backendId = backendName u.1 l.backendId := by
    rw [← same, backendName_eq before.wellFormed.backendIds.nodup hb, ← id,
      backendName_eq after.wellFormed.backendIds.nodup hc, name]
  constructor
  · have mem : l.backendId ∈ v.1.backends.map (·.id) := List.mem_map.2 ⟨c, hc, id.trans same⟩
    exact Remote.LoadBalancer.hasBackend_iff.2 mem
  · rw [Listener.ofRemote, read, ← Listener.ofRemote]

/-- All listeners of the plan stand for one with a backend, and there are no more of them. -/
def ListenersMade (plan : List Listener) (u : Stage) : Prop :=
  (∀ p ∈ plan, ∃ l ∈ u.1.listeners, u.1.hasBackend l.backendId = true ∧
    p.changedFrom (.ofRemote u.1 l) = false) ∧ u.1.listeners.length ≤ plan.length

section Listeners

variable (accepted : config.Accepted) (complete : config.Complete)

include accepted complete

/-- Listeners that are replaced are those of the plan. -/
theorem ListenersMade.of_replaced {plan : List Listener} (settled : Settled remote start v)
    (effect : Effect remote (updatePlan remote config) (.replaceListeners plan) u v) :
    ListenersMade plan v := by
  cases effect with
  | @replaceListeners _ specs sent =>
      constructor
      · intro p planned
        obtain ⟨spec, hspec, ok⟩ := exists_of_forall₂ sent.flip p planned
        obtain ⟨b, hb, rfl, reference⟩ := listenerSpec_ok ok
        obtain ⟨id, mem⟩ := Remote.exists_mem_issueAll hspec
        have port := (planned_listener accepted complete planned).1
        have there := Remote.LoadBalancer.hasBackend_iff.2 (List.mem_map_of_mem hb)
        refine ⟨_, mem, there, Listener.changedFrom_spec port ?_ id⟩
        rw [reference, backendName_eq settled.wellFormed.backendIds.nodup hb]
      · have size : specs.length = (updatePlan remote config).listeners.entries.length :=
          sent.length_eq.symm
        exact Nat.le_of_eq ((Remote.length_issueAll ..).trans size)

/-- Listeners stand for what they did as long as they are not replaced, and for what is planned if
they are. -/
theorem ListenersMade.kept (decided : config.isDecided = true)
    (mem : step ∈ updateSteps remote config) (before : Settled remote start u)
    (after : Settled remote start v) (effect : Effect remote (updatePlan remote config) step u v)
    (made : ListenersMade (updatePlan remote config).listeners.entries u) :
    ListenersMade (updatePlan remote config).listeners.entries v := by
  by_cases replaced : ∃ listeners, step = .replaceListeners listeners
  · obtain ⟨listeners, rfl⟩ := replaced
    obtain ⟨-, rfl⟩ := (replaceListeners_mem_iff decided).1 mem
    exact .of_replaced accepted complete after effect
  · have same := effect.listeners_eq fun listeners eq => replaced ⟨listeners, eq⟩
    obtain ⟨stand, size⟩ := made
    constructor
    · intro p planned
      obtain ⟨l, hl, there, agrees⟩ := stand p planned
      obtain ⟨stays, read⟩ := effect.listener_stays before after hl there
      exact ⟨l, same ▸ hl, stays, read ▸ agrees⟩
    · rw [same]
      exact size

/-- Listeners that do not differ from the plan stand for what is planned. -/
theorem ListenersMade.of_unchanged (same : (listenerChanges remote config).isEmpty = true) :
    ListenersMade (updatePlan remote config).listeners.entries (remote, start) := by
  constructor
  · intro p planned
    obtain ⟨x, hx, agrees⟩ := Changes.exists_unchanged_state same planned
    obtain ⟨l, hl, rfl⟩ := List.mem_map.1 hx
    obtain ⟨name, reference, q, hq, named⟩ :=
      planned_listener_reference accepted.decided accepted.valid planned
    obtain ⟨key, hkey⟩ := Option.isSome_iff_exists.1 (planned_backend accepted complete hq).1
    refine ⟨l, hl, ?_, agrees⟩
    have fields : p.changedFrom (.ofRemote remote l) = false := agrees
    simp only [Listener.changedFrom, Bool.or_eq_false_iff, reference] at fields
    have keys := Attr.key?_eq_of_changed_eq_false rfl (Attr.isUnknown_ofOption _) fields.1.2
    have read : (backendName remote l.backendId).key? = some key := keys.symm.trans (named ▸ hkey)
    exact Remote.LoadBalancer.hasBackend_iff.2 (mem_of_backendName read)
  · obtain ⟨-, removed, -⟩ := Changes.isEmpty_iff.1 same
    have le := Changes.length_state_le_of_removed removed
    rw [← List.length_map (f := Listener.ofRemote remote)]
    exact le

/-- In the end all listeners of the plan stand for one with a backend, and there are no more of
them. -/
theorem listeners_made (progress : Progress remote config start (updateSteps remote config) x) :
    ListenersMade (updatePlan remote config).listeners.entries x := by
  have decided := progress.updatable.decided
  have kept : Kept remote config start (updateSteps remote config)
      (ListenersMade (updatePlan remote config).listeners.entries) := by
    intro s hs u v hu hv made effect
    exact made.kept accepted complete decided hs hu hv effect
  rcases same : (listenerChanges remote config).isEmpty
  · have mem := (replaceListeners_mem_iff decided).2 ⟨same, rfl⟩
    refine progress.eventually mem ?_ kept
    intro u v _ hv effect
    exact .of_replaced accepted complete hv effect
  · exact progress.invariant kept (.of_unchanged accepted complete same)

end Listeners

/-! ### Name and description -/

/-- The name and the description are those of the plan. -/
def TopLevelMade (plan : State) (u : Stage) : Prop :=
  plan.name.changed (.known u.1.name) = false ∧
    plan.description.changed (.ofOption u.1.description) = false

/-- An update makes the name and the description those of the plan. -/
theorem TopLevelMade.of_updated {plan : State} (named : plan.name.key?.isSome)
    (effect : Effect remote plan (.update plan) u v) : TopLevelMade plan v := by
  obtain ⟨name, key⟩ := Option.isSome_iff_exists.1 named
  cases effect with
  | update =>
      refine ⟨?_, Attr.changed_nonempty? _⟩
      rw [Attr.nonempty?_eq_key?, key, (Attr.key?_eq_some_iff.1 key).1]
      exact Attr.changed_self _

/-- In the end the name and the description are those of the plan. -/
theorem topLevel_made (progress : Progress remote config start (updateSteps remote config) x)
    (complete : config.Complete) : TopLevelMade (updatePlan remote config) x := by
  have decided := progress.updatable.decided
  have kept : Kept remote config start (updateSteps remote config)
      (TopLevelMade (updatePlan remote config)) := by
    intro s hs u v _ _ made effect
    cases effect with
    | update => exact .of_updated complete.name (@Effect.update remote _ u)
    | _ => exact made
  by_cases changed : (updatePlan remote config).name.changed (.known remote.name) = true ∨
      (updatePlan remote config).description.changed (.ofOption remote.description) = true
  · have mem := (update_mem_iff decided).2 ⟨changed, rfl⟩
    refine progress.eventually mem ?_ kept
    intro u v _ _ effect
    exact .of_updated complete.name effect
  · rw [not_or, Bool.not_eq_true, Bool.not_eq_true] at changed
    exact progress.invariant kept changed

end CloudProvision.LoadBalancer
