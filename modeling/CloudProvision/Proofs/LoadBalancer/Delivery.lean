import CloudProvision.Proofs.LoadBalancer.Deletion
import CloudProvision.Proofs.LoadBalancer.Idempotence
import CloudProvision.Proofs.LoadBalancer.Promise

/-!
# Identifiers that an update keeps

An update keeps the identifiers of health checks and backends as planned: it changes an object in
place, or the plan has no identifier for it. ACLs are replaced together when one of them is new or
left over, and listeners when anything about them differs, and then all of them get new identifiers,
also those whose entries have one in the plan.

## Main results

* `healthChecks_delivered`, `backends_delivered`: what is promised for them is kept.
* `acls_delivered_iff`, `listeners_delivered_iff`: when what is promised for them is kept.
* `update_delivers_iff`: all of this for an update in the cloud.
* `update_renumbers`: an update that breaks its promises.
-/

namespace CloudProvision.LoadBalancer

open IdentityIndex (label?)
open Remote (Unissued numberedId)

variable {remote : Remote.LoadBalancer} {config : State} {start : Nat} {done : List Step}
  {x : Stage}

/-- Objects with names of the same key, and no natural keys, have the same label. -/
theorem label?_eq_of_key? {α : Type} [Identified α] {p q : α}
    (name : (Identified.name p).key? = (Identified.name q).key?)
    (unkeyed : Identified.naturalKey p = Identified.naturalKey q) : label? p = label? q := by
  rw [label?, label?, name, unkeyed]

/-! ### Health checks -/

section HealthChecks

/-- The health check of a pair stays. -/
theorem healthCheck_stays (progress : Progress remote config start done x)
    {m : Pairing HealthCheck} (hm : m ∈ (healthCheckChanges remote config).matched)
    {r : Remote.HealthCheck} (hr : r ∈ remote.healthChecks)
    (known : m.state.entry.id = .known r.id) : r.id ∈ x.1.healthChecks.map (·.id) := by
  have updatable := progress.updatable
  refine progress.invariant (I := fun u => r.id ∈ u.1.healthChecks.map (·.id)) ?_
    (List.mem_map_of_mem hr)
  intro s hs u v _ _ there effect
  refine effect.healthCheckIds.stays there ?_
  rintro ⟨entry, rfl, about⟩
  obtain ⟨q, hq, rfl⟩ := (deleteHealthCheck_mem_iff updatable.decided).1 (progress.sub hs)
  have slot : Slot (updatePlan remote config).healthChecks.entries
      (State.ofRemote remote).healthChecks.entries (fun _ => True) m.plan.entry r.id :=
    .inr ⟨m, hm, trivial, rfl, known⟩
  exact slot.not_removed updatable.healthChecks_ownIds hq about

/-- A health check that was deleted is gone. -/
theorem healthCheck_gone (progress : Progress remote config start done x) {r : Remote.HealthCheck}
    (hr : r ∈ remote.healthChecks) (mem : .deleteHealthCheck (.ofRemote r) ∈ done) :
    r.id ∉ x.1.healthChecks.map (·.id) := by
  refine progress.eventually (Q := fun u => r.id ∉ u.1.healthChecks.map (·.id)) mem ?_ ?_
  · intro u v _ _ effect
    generalize entry : HealthCheck.ofRemote r = e at effect
    cases effect with
    | deleteHealthCheck =>
        have same := Attr.known.inj (congrArg HealthCheck.id entry)
        simp [same]
  · intro s _ u v hu _ gone effect there
    rcases effect.healthCheckIds.mem there with old | new
    · exact gone old
    · exact hu.new_healthCheck progress.wellFormed hr new.symm

/-- A health check is an old one, or made for an entry without a known identifier. -/
theorem healthCheck_made_for (progress : Progress remote config start done x)
    (accepted : config.Accepted) : ∀ h ∈ x.1.healthChecks, h.id ∈ remote.healthChecks.map (·.id) ∨
      ∃ q ∈ (updatePlan remote config).healthChecks.entries,
        (Identified.id q).isKnown = false ∧ label? q = label? (HealthCheck.ofRemote h) := by
  have updatable := progress.updatable
  refine progress.invariant (I := fun u => ∀ h ∈ u.1.healthChecks,
    h.id ∈ remote.healthChecks.map (·.id) ∨
      ∃ q ∈ (updatePlan remote config).healthChecks.entries,
        (Identified.id q).isKnown = false ∧ label? q = label? (HealthCheck.ofRemote h)) ?_
    (fun h hh => .inl (List.mem_map_of_mem hh))
  intro s hs u v _ _ made effect h hh
  cases effect with
  | createHealthCheck planned =>
      rcases List.mem_append.1 hh with old | new
      · exact made h old
      · obtain rfl := List.mem_singleton.1 new
        obtain ⟨q, hq, rfl⟩ := (createHealthCheck_mem_iff updatable.decided).1 (progress.sub hs)
        have promising := healthChecks_promising updatable accepted
        exact .inr ⟨q.entry, planned, promising.isKnown_of_added hq,
          label?_eq_of_key? (Attr.key?_known_text _).symm rfl⟩
  | @updateHealthCheck _ r p hr _ _ _ =>
      rcases exists_of_mem_update hh with ⟨z, hz, changed, rfl⟩ | old
      · exact .inl (List.mem_map.2 ⟨r, hr, rfl⟩)
      · exact made h old
  | deleteHealthCheck => exact made h (List.mem_filter.1 hh).1
  | _ => exact made h hh

/-- The identifiers that are promised for health checks are kept. -/
theorem healthChecks_delivered
    (progress : Progress remote config start (updateSteps remote config) x)
    (accepted : config.Accepted) :
    Delivered (updatePlan remote config).healthChecks.entries
      (State.ofRemote x.1).healthChecks.entries := by
  have updatable := progress.updatable
  refine (healthChecks_promising updatable accepted).delivered (·.id) (fun _ => rfl)
    (fun _ => rfl) ?_ ?_ ?_ (healthCheck_made_for progress accepted)
  · intro m hm _ r hr entry
    exact healthCheck_stays progress hm hr (by rw [entry]; rfl)
  · intro q hq r hr entry
    exact healthCheck_gone progress hr
      ((deleteHealthCheck_mem_iff updatable.decided).2 ⟨q, hq, entry⟩)
  · intro h hh r hr same
    have name := progress.settled.healthCheckNames h hh r hr same
    exact label?_eq_of_key? (congrArg (fun n => (Attr.known n).key?) name) rfl

end HealthChecks

/-! ### Backends -/

section Backends

/-- The backend of a pair stays if the plan promises its identifier. -/
theorem backend_stays (progress : Progress remote config start done x) (accepted : config.Accepted)
    {m : Pairing Backend} (hm : m ∈ (backendChanges remote config).matched)
    (promised : m.plan.entry.id.isKnown = true) {r : Remote.Backend} (hr : r ∈ remote.backends)
    (known : m.state.entry.id = .known r.id) : r.id ∈ x.1.backends.map (·.id) := by
  have updatable := progress.updatable
  refine progress.invariant (I := fun u => r.id ∈ u.1.backends.map (·.id)) ?_
    (List.mem_map_of_mem hr)
  intro s hs u v _ _ there effect
  refine effect.backendIds.stays there ?_
  rintro ⟨entry, rfl, about⟩
  rcases (deleteBackend_mem_iff updatable.decided).1 (progress.sub hs) with
    ⟨n, hn, retyped, rfl⟩ | ⟨q, hq, rfl⟩
  · have same : n.state = m.state := Placed.eq_of_nodup_map updatable.backends_ownIds.distinct
      (Changes.state_mem_of_mem_matched hn) (Changes.state_mem_of_mem_matched hm)
      (about.trans known.symm)
    have pairs : n = m := (backends_promising updatable accepted).pairing_eq hm hn (by rw [same])
    rw [pairs] at retyped
    cases (isKnown_of_recreated hm retyped).symm.trans promised
  · have slot : Slot (updatePlan remote config).backends.entries
        (State.ofRemote remote).backends.entries (fun _ => True) m.plan.entry r.id :=
      .inr ⟨m, hm, trivial, rfl, known⟩
    exact slot.not_removed updatable.backends_ownIds hq about

/-- A backend is an old one, or made for an entry without a known identifier. -/
theorem backend_made_for (progress : Progress remote config start done x)
    (accepted : config.Accepted) : ∀ b ∈ x.1.backends, b.id ∈ remote.backends.map (·.id) ∨
      ∃ q ∈ (updatePlan remote config).backends.entries,
        (Identified.id q).isKnown = false ∧ label? q = label? (Backend.ofRemote x.1 b) := by
  have updatable := progress.updatable
  refine progress.invariant (I := fun u => ∀ b ∈ u.1.backends,
    b.id ∈ remote.backends.map (·.id) ∨
      ∃ q ∈ (updatePlan remote config).backends.entries,
        (Identified.id q).isKnown = false ∧ label? q = label? (Backend.ofRemote u.1 b)) ?_
    (fun b hb => .inl (List.mem_map_of_mem hb))
  intro s hs u v _ _ made effect b hb
  cases effect with
  | createBackend planned =>
      rcases List.mem_append.1 hb with old | new
      · exact made b old
      · obtain rfl := List.mem_singleton.1 new
        refine .inr ⟨_, planned, ?_, label?_eq_of_key? (Attr.key?_known_text _).symm rfl⟩
        rcases (createBackend_mem_iff updatable.decided).1 (progress.sub hs) with
          ⟨m, hm, retyped, rfl⟩ | ⟨q, hq, rfl⟩
        · exact isKnown_of_recreated hm retyped
        · exact (backends_promising updatable accepted).isKnown_of_added hq
  | @updateBackend _ r p reference hr _ _ _ _ =>
      rcases exists_of_mem_update hb with ⟨z, hz, changed, rfl⟩ | old
      · exact .inl (List.mem_map.2 ⟨r, hr, changed.symm⟩)
      · exact made b old
  | @replaceTargets _ r p hr _ _ _ =>
      rcases exists_of_mem_update hb with ⟨z, hz, changed, rfl⟩ | old
      · exact .inl (List.mem_map.2 ⟨r, hr, changed.symm⟩)
      · exact made b old
  | deleteBackend => exact made b (List.mem_filter.1 hb).1
  | _ => exact made b hb

/-- The identifiers that are promised for backends are kept. -/
theorem backends_delivered
    (progress : Progress remote config start (updateSteps remote config) x)
    (accepted : config.Accepted) :
    Delivered (updatePlan remote config).backends.entries
      (State.ofRemote x.1).backends.entries := by
  have updatable := progress.updatable
  refine (backends_promising updatable accepted).delivered (·.id) (fun _ => rfl)
    (fun _ => rfl) ?_ ?_ ?_ (backend_made_for progress accepted)
  · intro m hm promised r hr entry
    exact backend_stays progress accepted hm promised hr (by rw [entry]; rfl)
  · intro q hq r hr entry there
    have known : q.entry.id = .known r.id := by rw [entry]; rfl
    obtain ⟨b, hb, same⟩ := List.mem_map.1 there
    exact gone_of_progress progress hr known
      ((deleteBackend_mem_iff updatable.decided).2 (.inr ⟨q, hq, rfl⟩)) b hb same
  · intro b hb r hr same
    have name := progress.settled.backendNames b hb r hr same
    exact label?_eq_of_key? (congrArg (fun n => (Attr.known n).key?) name) rfl

end Backends

/-! ### ACLs -/

section Acls

/-- ACLs are the same as before, with their identifiers and names. -/
structure AclsKept (before after : List Remote.Acl) : Prop where
  ids : after.map (·.id) = before.map (·.id)
  names : ∀ a ∈ after, ∀ r ∈ before, a.id = r.id → a.name = r.name

/-- ACLs that are not replaced keep their identifiers and names. -/
theorem acls_kept (progress : Progress remote config start done x)
    (same : (aclChanges remote config).membershipChanged = false) :
    AclsKept remote.acls x.1.acls := by
  have updatable := progress.updatable
  have initial : AclsKept remote.acls remote.acls := by
    refine ⟨rfl, fun a ha r hr same => ?_⟩
    rw [List.inj_on_of_nodup_map updatable.aclIds.nodup ha hr same]
  refine progress.invariant (I := fun u => AclsKept remote.acls u.1.acls) ?_ initial
  intro s hs u v _ _ kept effect
  cases effect with
  | @updateAcl _ r p hr _ name _ =>
      constructor
      · refine (map_getId_update _ ?_).trans kept.ids
        exact fun _ _ => rfl
      · intro a ha r' hr' about
        rcases exists_of_mem_update ha with ⟨z, hz, changed, rfl⟩ | old
        · rw [← List.inj_on_of_nodup_map updatable.aclIds.nodup hr hr' about]
          exact congrArg Attr.text name
        · exact kept.names a old r' hr' about
  | replaceAcls =>
      obtain ⟨replaced, -⟩ := (replaceAcls_mem_iff updatable.decided).1 (progress.sub hs)
      cases same.symm.trans replaced
  | _ => exact kept

/-- ACLs that are replaced all get new identifiers. -/
theorem acls_renumbered (progress : Progress remote config start done x)
    (mem : .replaceAcls (updatePlan remote config).acls.entries ∈ done) :
    ∀ a ∈ x.1.acls, ∃ number, start < number ∧ a.id = numberedId "acl" number := by
  refine progress.eventually
    (Q := fun u => ∀ a ∈ u.1.acls, ∃ number, start < number ∧ a.id = numberedId "acl" number)
    mem ?_ ?_
  · intro u v hu _ effect a ha
    cases effect with
    | replaceAcls =>
        obtain ⟨spec, -, number, later, rfl⟩ := Remote.mem_issueAll ha
        exact ⟨number, Nat.lt_of_le_of_lt hu.grown later, rfl⟩
  · intro s _ u v hu _ renumbered effect a ha
    cases effect with
    | @updateAcl _ r p _ _ _ _ =>
        rcases exists_of_mem_update ha with ⟨z, hz, changed, rfl⟩ | old
        · exact changed ▸ renumbered z hz
        · exact renumbered a old
    | replaceAcls =>
        obtain ⟨spec, -, number, later, rfl⟩ := Remote.mem_issueAll ha
        exact ⟨number, Nat.lt_of_le_of_lt hu.grown later, rfl⟩
    | _ => exact renumbered a ha

/-- The identifiers that are promised for ACLs are kept exactly if none of them is new or left over,
or none is promised. -/
theorem acls_delivered_iff (progress : Progress remote config start (updateSteps remote config) x)
    (accepted : config.Accepted) (unissued : Unissued "acl" start (remote.acls.map (·.id))) :
    Delivered (updatePlan remote config).acls.entries (State.ofRemote x.1).acls.entries ↔
      (aclChanges remote config).membershipChanged = false ∨
        ∀ p ∈ (updatePlan remote config).acls.entries, (Identified.id p).isKnown = false := by
  have updatable := progress.updatable
  have promising := acls_promising updatable accepted
  cases replaced : (aclChanges remote config).membershipChanged with
  | false =>
      have kept := acls_kept progress replaced
      refine iff_of_true ?_ (.inl rfl)
      refine promising.delivered (·.id) (fun _ => rfl) (fun _ => rfl) ?_ ?_ ?_ ?_
      · intro m _ _ r hr _
        exact kept.ids ▸ List.mem_map_of_mem hr
      · intro q hq
        simp only [Changes.membershipChanged, Bool.or_eq_false_iff, Bool.not_eq_false',
          List.isEmpty_iff] at replaced
        have none : q ∈ (aclChanges remote config).removed := hq
        rw [replaced.2] at none
        cases none
      · intro a ha r hr same
        have name := kept.names a ha r hr same
        exact label?_eq_of_key? (congrArg (fun n => (Attr.known n).key?) name) rfl
      · intro a ha
        exact .inl (kept.ids ▸ List.mem_map_of_mem ha)
  | true =>
      have mem := (replaceAcls_mem_iff updatable.decided).2 ⟨replaced, rfl⟩
      have renumbered := acls_renumbered progress mem
      simp only [Bool.true_eq_false, false_or]
      exact promising.delivered_iff_of_renumbered (·.id) (fun _ => rfl) (fun _ => rfl) unissued
        renumbered

end Acls

/-! ### Listeners -/

section Listeners

/-- Listeners that are replaced all get new identifiers. -/
theorem listeners_renumbered (progress : Progress remote config start done x)
    (mem : .replaceListeners (updatePlan remote config).listeners.entries ∈ done) :
    ∀ l ∈ x.1.listeners, ∃ number, start < number ∧ l.id = numberedId "ls" number := by
  have renumbered {plan : State} {listeners : List Listener} {u v : Stage}
      (hu : Settled remote start u)
      (effect : Effect remote plan (.replaceListeners listeners) u v) :
      ∀ l ∈ v.1.listeners, ∃ number, start < number ∧ l.id = numberedId "ls" number := by
    intro l hl
    cases effect with
    | replaceListeners =>
        obtain ⟨spec, -, number, later, rfl⟩ := Remote.mem_issueAll hl
        exact ⟨number, Nat.lt_of_le_of_lt hu.grown later, rfl⟩
  refine progress.eventually (Q := fun u =>
    ∀ l ∈ u.1.listeners, ∃ number, start < number ∧ l.id = numberedId "ls" number) mem ?_ ?_
  · intro u v hu _ effect
    exact renumbered hu effect
  · intro s _ u v hu _ kept effect
    by_cases replaced : ∃ listeners, s = .replaceListeners listeners
    · obtain ⟨listeners, rfl⟩ := replaced
      exact renumbered hu effect
    · rw [effect.listeners_eq fun listeners eq => replaced ⟨listeners, eq⟩]
      exact kept

/-- The identifiers that are promised for listeners are kept exactly if nothing about the listeners
differs, or none is promised. -/
theorem listeners_delivered_iff
    (progress : Progress remote config start (updateSteps remote config) x)
    (accepted : config.Accepted) (unissued : Unissued "ls" start (remote.listeners.map (·.id))) :
    Delivered (updatePlan remote config).listeners.entries (State.ofRemote x.1).listeners.entries ↔
      (listenerChanges remote config).isEmpty = true ∨
        ∀ p ∈ (updatePlan remote config).listeners.entries, (Identified.id p).isKnown = false := by
  have updatable := progress.updatable
  have promising := listeners_promising updatable accepted
  cases same : (listenerChanges remote config).isEmpty with
  | true =>
      have kept : x.1.listeners = remote.listeners := by
        refine listeners_eq_of_progress progress fun s hs listeners eq => ?_
        obtain ⟨differ, -⟩ := (replaceListeners_mem_iff updatable.decided).1 (eq ▸ hs)
        cases same.symm.trans differ
      have label (l : Remote.Listener) :
          label? (Listener.ofRemote x.1 l) = label? (Listener.ofRemote remote l) := rfl
      refine iff_of_true ?_ (.inl rfl)
      refine promising.delivered (·.id) (fun _ => rfl) (fun _ => rfl) ?_ ?_ ?_ ?_
      · intro m _ _ r hr _
        exact kept ▸ List.mem_map_of_mem hr
      · intro q hq
        have none : q ∈ (listenerChanges remote config).removed := hq
        rw [(Changes.isEmpty_iff.1 same).2.1] at none
        cases none
      · intro l hl r hr about
        rw [label, List.inj_on_of_nodup_map updatable.listenerIds.nodup (kept ▸ hl) hr about]
      · intro l hl
        exact .inl (List.mem_map_of_mem (kept ▸ hl))
  | false =>
      have mem := (replaceListeners_mem_iff updatable.decided).2 ⟨same, rfl⟩
      have renumbered := listeners_renumbered progress mem
      simp only [Bool.false_eq_true, false_or]
      exact promising.delivered_iff_of_renumbered (·.id) (fun _ => rfl) (fun _ => rfl) unissued
        renumbered

end Listeners

/-! ### Updates -/

variable {env : Environment (Faulty MemoryCloud)} {session session' : Session (Faulty MemoryCloud)}

/-- When an update has succeeded, what the plan promised for health checks and for backends is kept.
What it promised for ACLs is kept exactly if none of them is new or left over, and for listeners
exactly if they do not differ, unless nothing was promised. -/
theorem update_delivers_iff (held : Held env session remote) (accepted : config.Accepted)
    (aclIds : Unissued "acl" session.cloud.cloud.issued (remote.acls.map (·.id)))
    (listenerIds : Unissued "ls" session.cloud.cloud.issued (remote.listeners.map (·.id)))
    {diagnostics reported : Diagnostics} {s : State}
    (run : resource.update (.ofRemote remote) (updatePlan remote config) diagnostics env session =
      ((some s, reported), session')) :
    let plan := updatePlan remote config
    Delivered plan.healthChecks.entries s.healthChecks.entries ∧
      Delivered plan.backends.entries s.backends.entries ∧
      (Delivered plan.acls.entries s.acls.entries ↔
        (aclChanges remote config).membershipChanged = false ∨
          ∀ p ∈ plan.acls.entries, (Identified.id p).isKnown = false) ∧
      (Delivered plan.listeners.entries s.listeners.entries ↔
        (listenerChanges remote config).isEmpty = true ∨
          ∀ p ∈ plan.listeners.entries, (Identified.id p).isKnown = false) := by
  rw [update_eq] at run
  obtain ⟨-, current, there, lb, started, rolled, rfl⟩ := startAndRollout_eq_some run
  obtain ⟨issued, progress, -⟩ := held.finished accepted started rolled
  exact ⟨healthChecks_delivered progress accepted, backends_delivered progress accepted,
    acls_delivered_iff progress accepted aclIds,
    listeners_delivered_iff progress accepted listenerIds⟩

/-- A load balancer with one ACL. -/
def guardedRemote : Remote.LoadBalancer :=
  { crowdedRemote with acls := [⟨"acl-1", "office", "allow", "10.0.0.0/8", 1, none⟩] }

/-- A configuration with another ACL and with a listener that sends to another backend. -/
def guardedConfig : State :=
  { sparseConfig with
    acls := .known [
      ⟨.null, .known "office", .known "allow", .known "10.0.0.0/8", .known 1, .null⟩,
      ⟨.null, .known "home", .known "deny", .known "192.168.0.0/16", .known 2, .null⟩] }

/-- The sample update keeps what is promised for health checks and backends, and nothing else. -/
theorem update_delivers_iff_sample : ∃ s after,
    resource.update (.ofRemote guardedRemote) (updatePlan guardedRemote guardedConfig) .none
        memoryEnvironment (memorySession guardedRemote 2) = ((some s, .none), after) ∧
      Delivered (updatePlan guardedRemote guardedConfig).healthChecks.entries
        s.healthChecks.entries ∧
      Delivered (updatePlan guardedRemote guardedConfig).backends.entries s.backends.entries ∧
      ¬ Delivered (updatePlan guardedRemote guardedConfig).acls.entries s.acls.entries ∧
      ¬ Delivered (updatePlan guardedRemote guardedConfig).listeners.entries
        s.listeners.entries := by
  let run := resource.update (.ofRemote guardedRemote) (updatePlan guardedRemote guardedConfig)
    .none
    memoryEnvironment (memorySession guardedRemote 2)
  have succeeds : run.1.1.isSome = true ∧ run.1.2 = .none := by decide +kernel
  have aclIds : Remote.Numbered "acl" 2 (guardedRemote.acls.map (·.id)) := by decide +kernel
  have listenerIds : Remote.Numbered "ls" 2 (guardedRemote.listeners.map (·.id)) := by
    decide +kernel
  rcases h : run with ⟨⟨_ | s, reported⟩, after⟩
  · rw [h] at succeeds
    cases succeeds.1
  · rw [h] at succeeds
    obtain ⟨-, rfl⟩ := succeeds
    obtain ⟨healthChecks, backends, acls, listeners⟩ := update_delivers_iff
      (held_memorySession (by decide) (by decide) (by decide) (by decide) (by decide)
        (by decide +kernel) (by decide +kernel) (by decide +kernel))
      (by decide +kernel) aclIds.unissued listenerIds.unissued h
    exact ⟨s, after, h, healthChecks, backends,
      fun kept => absurd (acls.1 kept) (by decide +kernel),
      fun kept => absurd (listeners.1 kept) (by decide +kernel)⟩

/-- In an update that succeeds, the identifiers that the plan has for an ACL and for a listener are
not those of the ACL and the listener with their names in the end. -/
theorem update_renumbers : ∃ s after,
    Held memoryEnvironment (memorySession guardedRemote 2) guardedRemote ∧
      guardedConfig.Accepted ∧
      resource.update (.ofRemote guardedRemote) (updatePlan guardedRemote guardedConfig) .none
        memoryEnvironment (memorySession guardedRemote 2) = ((some s, .none), after) ∧
      (updatePlan guardedRemote guardedConfig).acls.entries.map (fun a => (a.name, a.id)) =
        [(.known "office", .known "acl-1"), (.known "home", .unknown)] ∧
      s.acls.entries.map (fun a => (a.name, a.id)) =
        [(.known "office", .known "acl-3"), (.known "home", .known "acl-4")] ∧
      (updatePlan guardedRemote guardedConfig).listeners.entries.map (fun l => (l.name, l.id)) =
        [(.known "http", .known "ls-1")] ∧
      s.listeners.entries.map (fun l => (l.name, l.id)) = [(.known "http", .known "ls-5")] := by
  let run := resource.update (.ofRemote guardedRemote) (updatePlan guardedRemote guardedConfig)
    .none
    memoryEnvironment (memorySession guardedRemote 2)
  have returned : run.1.2 = .none ∧
      (run.1.1.map fun s => (s.acls.entries.map fun a => (a.name, a.id),
        s.listeners.entries.map fun l => (l.name, l.id))) =
          some ([(.known "office", .known "acl-3"), (.known "home", .known "acl-4")],
            [(.known "http", .known "ls-5")]) := by
    decide +kernel
  rcases h : run with ⟨⟨_ | s, reported⟩, after⟩
  · rw [h] at returned
    cases returned.2
  · rw [h] at returned
    obtain ⟨rfl, found⟩ := returned
    obtain ⟨acls, listeners⟩ := Prod.mk.inj (Option.some.inj found)
    refine ⟨s, after, ?_, by decide +kernel, h, by decide +kernel, acls, by decide +kernel,
      listeners⟩
    exact held_memorySession (by decide) (by decide) (by decide) (by decide) (by decide)
      (by decide +kernel) (by decide +kernel) (by decide +kernel)

end CloudProvision.LoadBalancer
