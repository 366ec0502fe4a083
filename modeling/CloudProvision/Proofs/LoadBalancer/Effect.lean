import CloudProvision.Proofs.LoadBalancer.Simulation
import CloudProvision.Proofs.LoadBalancer.Update

/-!
# What the steps of an update do

What a step of an update does can be said in terms of the objects of the remote load balancer as it
was when the update began: `Effect` has one case for each step.

## Main results

* `effect_of_performs`: a step of an update that is performed has the effect that `Effect` says.
* `Effect.healthCheck_origin`, `Effect.backend_origin`: where an object comes from that is there
  after a step.
* `Effect.healthCheckIds`, `Effect.backendIds`: what a step does to identifiers.
* `Settled.of_performs`: objects keep their names as long as they exist, and new ones are new.
-/

namespace CloudProvision.LoadBalancer

open Remote (Distinct WellFormed numberedId issueAll)

/-! ### Effects -/

/-- What a step of an update does. `plan` is the plan, and `r` an object of the remote load balancer
when the update began. -/
inductive Effect (remote : Remote.LoadBalancer) (plan : State) : Step → Stage → Stage → Prop
  | update {x : Stage} :
      Effect remote plan (.update plan) x
        ({ x.1 with
          name := plan.name.nonempty?.getD x.1.name
          description := plan.description.nonempty? }, x.2)
  | createHealthCheck {x : Stage} {p : HealthCheck} :
      p ∈ plan.healthChecks.entries →
      Effect remote plan (.createHealthCheck p) x
        ({ x.1 with
          healthChecks := x.1.healthChecks ++ [p.spec.withId (numberedId "hc" (x.2 + 1))] },
          x.2 + 1)
  | updateHealthCheck {x : Stage} {r : Remote.HealthCheck} {p : HealthCheck} :
      r ∈ remote.healthChecks → p ∈ plan.healthChecks.entries → p.name = .known r.name →
      r.id ∈ x.1.healthChecks.map (·.id) →
      Effect remote plan (.updateHealthCheck (.ofRemote r) p) x
        ({ x.1 with
          healthChecks := x.1.healthChecks.map fun h =>
            if h.id = r.id then p.spec.withId r.id else h }, x.2)
  | deleteHealthCheck {x : Stage} {r : Remote.HealthCheck} :
      r ∈ remote.healthChecks → r.id ∈ x.1.healthChecks.map (·.id) →
      x.1.usesHealthCheck r.id = false →
      Effect remote plan (.deleteHealthCheck (.ofRemote r)) x
        ({ x.1 with healthChecks := x.1.healthChecks.filter (·.id != r.id) }, x.2)
  | createBackend {x : Stage} {p : Backend} {reference : Option String} :
      p ∈ plan.backends.entries → healthCheckId x.1 p = .ok reference →
      Effect remote plan (.createBackend p) x
        ({ x.1 with
          backends := x.1.backends ++ [(p.spec reference).withId (numberedId "be" (x.2 + 1))] },
          x.2 + 1)
  | updateBackend {x : Stage} {r : Remote.Backend} {p : Backend} {reference : Option String} :
      r ∈ remote.backends → p ∈ plan.backends.entries → p.name = .known r.name →
      r.id ∈ x.1.backends.map (·.id) → healthCheckId x.1 p = .ok reference →
      Effect remote plan (.updateBackend (.ofRemote remote r) p) x
        ({ x.1 with
          backends := x.1.backends.map fun b =>
            if b.id = r.id then (p.update reference).applyTo b else b }, x.2)
  | deleteBackend {x : Stage} {r : Remote.Backend} :
      r ∈ remote.backends → r.id ∈ x.1.backends.map (·.id) → x.1.usesBackend r.id = false →
      Effect remote plan (.deleteBackend (.ofRemote remote r)) x
        ({ x.1 with backends := x.1.backends.filter (·.id != r.id) }, x.2)
  | replaceTargets {x : Stage} {r : Remote.Backend} {p : Backend} :
      r ∈ remote.backends → p ∈ plan.backends.entries → p.name = .known r.name →
      r.id ∈ x.1.backends.map (·.id) →
      Effect remote plan (.replaceTargets (.ofRemote remote r) p) x
        ({ x.1 with
          backends := x.1.backends.map fun b =>
            if b.id = r.id then { b with targets := p.remoteTargets } else b }, x.2)
  | updateAcl {x : Stage} {r : Remote.Acl} {p : Acl} :
      r ∈ remote.acls → p ∈ plan.acls.entries → p.name = .known r.name →
      r.id ∈ x.1.acls.map (·.id) →
      Effect remote plan (.updateAcl (.ofRemote r) p) x
        ({ x.1 with acls := x.1.acls.map fun a => if a.id = r.id then p.spec.withId r.id else a },
          x.2)
  | replaceAcls {x : Stage} :
      Effect remote plan (.replaceAcls plan.acls.entries) x
        ({ x.1 with
          acls := issueAll "acl" Remote.AclSpec.withId x.2 (plan.acls.entries.map Acl.spec) },
          x.2 + plan.acls.entries.length)
  | replaceListeners {x : Stage} {specs : List Remote.ListenerSpec} :
      List.Forall₂ (fun l spec => listenerSpec x.1 l = .ok spec) plan.listeners.entries specs →
      Effect remote plan (.replaceListeners plan.listeners.entries) x
        ({ x.1 with listeners := issueAll "ls" Remote.ListenerSpec.withId x.2 specs },
          x.2 + specs.length)

/-- Where a health check comes from that is there after a step. -/
inductive HealthCheckOrigin (remote : Remote.LoadBalancer) (plan : State) (x : Stage) :
    Remote.HealthCheck → Prop
  | kept {h : Remote.HealthCheck} : h ∈ x.1.healthChecks → HealthCheckOrigin remote plan x h
  | created {p : HealthCheck} :
      p ∈ plan.healthChecks.entries →
      HealthCheckOrigin remote plan x (p.spec.withId (numberedId "hc" (x.2 + 1)))
  | updated {r : Remote.HealthCheck} {p : HealthCheck} :
      r ∈ remote.healthChecks → p ∈ plan.healthChecks.entries → p.name = .known r.name →
      HealthCheckOrigin remote plan x (p.spec.withId r.id)

/-- Where a backend comes from that is there after a step. -/
inductive BackendOrigin (remote : Remote.LoadBalancer) (plan : State) (x : Stage) :
    Remote.Backend → Prop
  | kept {b : Remote.Backend} : b ∈ x.1.backends → BackendOrigin remote plan x b
  | created {p : Backend} {reference : Option String} :
      p ∈ plan.backends.entries → healthCheckId x.1 p = .ok reference →
      BackendOrigin remote plan x ((p.spec reference).withId (numberedId "be" (x.2 + 1)))
  | updated {b r : Remote.Backend} {p : Backend} {reference : Option String} :
      b ∈ x.1.backends → r ∈ remote.backends → b.id = r.id → p ∈ plan.backends.entries →
      p.name = .known r.name → healthCheckId x.1 p = .ok reference →
      BackendOrigin remote plan x ((p.update reference).applyTo b)
  | retargeted {b : Remote.Backend} {targets : List Remote.Target} :
      b ∈ x.1.backends → BackendOrigin remote plan x { b with targets }

/-- The entry of an object with an identifier stands for the object with this identifier. -/
theorem remoteId_eq_of_distinct {α β : Type} [Identified α] [Identified β] {kind id k : String}
    {objects : List α} {getId : α → String} {entry : β}
    (known : ∀ x, Identified.id x = .known (getId x)) (ids : Distinct (objects.map getId))
    (own : Identified.id entry = .known k) (present : k.isEmpty = false)
    (h : remoteId kind objects entry = .ok id) : id = k ∧ k ∈ objects.map getId := by
  obtain ⟨⟨x, hx, same⟩, keys⟩ := remoteId_ok (fun x hx => by
    rw [known, Attr.key?_of_not_isEmpty (ids.present _ (List.mem_map_of_mem hx))]
    rfl) h
  obtain rfl := keys k (own ▸ Attr.key?_of_not_isEmpty present)
  rw [known] at same
  exact ⟨rfl, Attr.known.inj same ▸ List.mem_map_of_mem hx⟩

/-- A step of an update that is performed has the effect that `Effect` says. -/
theorem effect_of_performs {remote : Remote.LoadBalancer} {config : State} {step : Step}
    {x y : Stage} (h : Updatable remote config) (wf : WellFormed x.1 x.2)
    (mem : step ∈ updateSteps remote config) (made : Performs step x y) :
    Effect remote (updatePlan remote config) step x y := by
  obtain ⟨change, resolved, applied⟩ := made.applied
  obtain ⟨lb, issued⟩ := y
  have healthCheckTarget {r : Remote.HealthCheck} (hr : r ∈ remote.healthChecks) {id : String} :
      remoteId "health check" x.1.healthChecks (HealthCheck.ofRemote r) = .ok id →
        id = r.id ∧ r.id ∈ x.1.healthChecks.map (·.id) :=
    remoteId_eq_of_distinct (fun _ => rfl) wf.healthCheckIds rfl
      (h.healthCheckIds.present _ (List.mem_map_of_mem hr))
  have backendTarget {r : Remote.Backend} (hr : r ∈ remote.backends) {id : String} :
      remoteId "backend" x.1.backends (Backend.ofRemote remote r) = .ok id →
        id = r.id ∧ r.id ∈ x.1.backends.map (·.id) :=
    remoteId_eq_of_distinct (fun _ => rfl) wf.backendIds rfl
      (h.backendIds.present _ (List.mem_map_of_mem hr))
  have aclTarget {r : Remote.Acl} (hr : r ∈ remote.acls) {id : String} :
      remoteId "ACL" x.1.acls (Acl.ofRemote r) = .ok id →
        id = r.id ∧ r.id ∈ x.1.acls.map (·.id) :=
    remoteId_eq_of_distinct (fun _ => rfl) wf.aclIds rfl
      (h.aclIds.present _ (List.mem_map_of_mem hr))
  cases resolved with
  | update =>
      obtain ⟨-, rfl⟩ := (update_mem_iff h.decided).1 mem
      cases applied
      exact .update
  | createHealthCheck =>
      obtain ⟨q, hq, rfl⟩ := (createHealthCheck_mem_iff h.decided).1 mem
      cases applied
      exact .createHealthCheck (Placed.entry_mem (Changes.mem_added.1 hq).1)
  | updateHealthCheck found =>
      obtain ⟨m, hm, -, rfl, rfl⟩ := (updateHealthCheck_mem_iff h.decided).1 mem
      obtain ⟨planned, r, hr, same, name⟩ := of_mem_matched h.healthChecks_found (fun _ => rfl) hm
      rw [same] at found ⊢
      obtain ⟨rfl, there⟩ := healthCheckTarget hr found
      cases applied with
      | updateHealthCheck changed =>
          obtain rfl := (Remote.updateFirst?_eq_map wf.healthCheckIds.nodup changed).2
          exact .updateHealthCheck hr planned name there
  | deleteHealthCheck found =>
      obtain ⟨q, hq, rfl⟩ := (deleteHealthCheck_mem_iff h.decided).1 mem
      obtain ⟨r, hr, same⟩ := of_mem_removed hq
      rw [same] at found ⊢
      obtain ⟨rfl, there⟩ := healthCheckTarget hr found
      cases applied with
      | deleteHealthCheck unused => exact .deleteHealthCheck hr there unused
  | createBackend reference =>
      cases applied
      refine .createBackend ?_ reference
      rcases (createBackend_mem_iff h.decided).1 mem with ⟨m, hm, -, rfl⟩ | ⟨q, hq, rfl⟩
      · exact Placed.entry_mem (Changes.mem_matched.1 hm).1
      · exact Placed.entry_mem (Changes.mem_added.1 hq).1
  | updateBackend found reference =>
      obtain ⟨m, hm, -, -, rfl, rfl⟩ := (updateBackend_mem_iff h.decided).1 mem
      obtain ⟨planned, r, hr, same, name⟩ := of_mem_matched h.backends_found (fun _ => rfl) hm
      rw [same] at found ⊢
      obtain ⟨rfl, there⟩ := backendTarget hr found
      cases applied with
      | updateBackend required changed =>
          obtain rfl := (Remote.updateFirst?_eq_map wf.backendIds.nodup changed).2
          exact .updateBackend hr planned name there reference
  | deleteBackend found =>
      obtain ⟨r, hr, rfl⟩ := of_deleteBackend_mem h.decided mem
      obtain ⟨rfl, there⟩ := backendTarget hr found
      cases applied with
      | deleteBackend unused => exact .deleteBackend hr there unused
  | replaceTargets found =>
      obtain ⟨m, hm, -, -, rfl, rfl⟩ := (replaceTargets_mem_iff h.decided).1 mem
      obtain ⟨planned, r, hr, same, name⟩ := of_mem_matched h.backends_found (fun _ => rfl) hm
      rw [same] at found ⊢
      obtain ⟨rfl, there⟩ := backendTarget hr found
      cases applied with
      | replaceTargets changed =>
          obtain rfl := (Remote.updateFirst?_eq_map wf.backendIds.nodup changed).2
          exact .replaceTargets hr planned name there
  | updateAcl found =>
      obtain ⟨-, m, hm, -, rfl, rfl⟩ := (updateAcl_mem_iff h.decided).1 mem
      obtain ⟨planned, r, hr, same, name⟩ := of_mem_matched h.acls_found (fun _ => rfl) hm
      rw [same] at found ⊢
      obtain ⟨rfl, there⟩ := aclTarget hr found
      cases applied with
      | updateAcl changed =>
          obtain rfl := (Remote.updateFirst?_eq_map wf.aclIds.nodup changed).2
          exact .updateAcl hr planned name there
  | replaceAcls =>
      obtain ⟨-, rfl⟩ := (replaceAcls_mem_iff h.decided).1 mem
      cases applied
      rw [List.length_map]
      exact .replaceAcls
  | replaceListeners found =>
      obtain ⟨-, rfl⟩ := (replaceListeners_mem_iff h.decided).1 mem
      cases applied
      exact .replaceListeners found

/-! ### Where objects come from -/

/-- An object of a list in which one was changed is that one, or another one of the list. -/
theorem exists_of_mem_update {ρ : Type} {getId : ρ → String} {id : String} {new : ρ → ρ}
    {objects : List ρ} {y : ρ} (h : y ∈ objects.map fun z => if getId z = id then new z else z) :
    (∃ z ∈ objects, getId z = id ∧ y = new z) ∨ y ∈ objects := by
  obtain ⟨z, hz, rfl⟩ := List.mem_map.1 h
  by_cases changed : getId z = id
  · exact .inl ⟨z, hz, changed, if_pos changed⟩
  · rw [if_neg changed]
    exact .inr hz

section Origin

variable {remote : Remote.LoadBalancer} {plan : State} {step : Step} {x y : Stage}

/-- A health check after a step was there, or the step has made it. -/
theorem Effect.healthCheck_origin (effect : Effect remote plan step x y) {h : Remote.HealthCheck}
    (hh : h ∈ y.1.healthChecks) : HealthCheckOrigin remote plan x h := by
  cases effect with
  | createHealthCheck planned =>
      rcases List.mem_append.1 hh with old | new
      · exact .kept old
      · obtain rfl := List.mem_singleton.1 new
        exact .created planned
  | @updateHealthCheck _ r p hr planned name there =>
      rcases exists_of_mem_update hh with ⟨z, hz, changed, rfl⟩ | old
      · exact .updated hr planned name
      · exact .kept old
  | deleteHealthCheck hr there unused => exact .kept (List.mem_filter.1 hh).1
  | _ => exact .kept hh

/-- A backend after a step was there, or the step has made it. -/
theorem Effect.backend_origin (effect : Effect remote plan step x y) {b : Remote.Backend}
    (hb : b ∈ y.1.backends) : BackendOrigin remote plan x b := by
  cases effect with
  | createBackend planned sent =>
      rcases List.mem_append.1 hb with old | new
      · exact .kept old
      · obtain rfl := List.mem_singleton.1 new
        exact .created planned sent
  | @updateBackend _ r p reference hr planned name there sent =>
      rcases exists_of_mem_update hb with ⟨z, hz, changed, rfl⟩ | old
      · exact .updated hz hr changed planned name sent
      · exact .kept old
  | @replaceTargets _ r p hr planned name there =>
      rcases exists_of_mem_update hb with ⟨z, hz, changed, rfl⟩ | old
      · exact .retargeted hz
      · exact .kept old
  | deleteBackend hr there unused => exact .kept (List.mem_filter.1 hb).1
  | _ => exact .kept hb

end Origin

/-! ### Identifiers of a collection -/

/-- The identifiers of a collection after a step: as before, with the next one that is issued, or
without one that is deleted. -/
inductive IdsAfter (stem : String) (issued : Nat) (deleted : String → Prop)
    (ids after : List String) : Prop
  | same : after = ids → IdsAfter stem issued deleted ids after
  | created : after = ids ++ [numberedId stem (issued + 1)] → IdsAfter stem issued deleted ids after
  | deleted {id : String} : deleted id → after = ids.filter (· != id) →
      IdsAfter stem issued deleted ids after

section IdsAfter

variable {stem : String} {issued : Nat} {deleted : String → Prop} {ids after : List String}
  {id : String}

/-- An identifier stays unless it is deleted. -/
theorem IdsAfter.stays (h : IdsAfter stem issued deleted ids after) (there : id ∈ ids)
    (kept : ¬ deleted id) : id ∈ after := by
  cases h with
  | same eq => exact eq ▸ there
  | created eq => exact eq ▸ List.mem_append_left _ there
  | @deleted id' gone eq =>
      have ne : id ≠ id' := fun same => kept (same ▸ gone)
      exact eq ▸ List.mem_filter.2 ⟨there, by simpa using ne⟩

/-- An identifier is there after a step if it was before or is issued next. -/
theorem IdsAfter.mem (h : IdsAfter stem issued deleted ids after) (there : id ∈ after) :
    id ∈ ids ∨ id = numberedId stem (issued + 1) := by
  cases h with
  | same eq => exact .inl (eq ▸ there)
  | created eq =>
      rw [eq] at there
      simpa using there
  | deleted gone eq => exact .inl (List.mem_filter.1 (eq ▸ there)).1

end IdsAfter

/-- A change of one object does not touch the identifiers of a list. -/
theorem map_getId_update {ρ : Type} {getId : ρ → String} {id : String} {new : ρ → ρ}
    (objects : List ρ) (own : ∀ z, getId z = id → getId (new z) = id) :
    (objects.map fun z => if getId z = id then new z else z).map getId = objects.map getId := by
  rw [List.map_map]
  refine List.map_congr_left fun z _ => ?_
  by_cases changed : getId z = id
  · rw [Function.comp_apply, if_pos changed, own z changed, changed]
  · rw [Function.comp_apply, if_neg changed]

/-- What a step does to the identifiers of health checks. -/
theorem Effect.healthCheckIds {remote : Remote.LoadBalancer} {plan : State} {step : Step}
    {u v : Stage}
    (effect : Effect remote plan step u v) :
    IdsAfter "hc" u.2 (fun id => ∃ entry : HealthCheck, step = .deleteHealthCheck entry ∧
      entry.id = .known id) (u.1.healthChecks.map (·.id)) (v.1.healthChecks.map (·.id)) := by
  cases effect with
  | createHealthCheck => exact .created List.map_append
  | updateHealthCheck =>
      refine .same (map_getId_update _ ?_)
      exact fun _ _ => rfl
  | deleteHealthCheck =>
      refine .deleted ⟨_, rfl, rfl⟩ ?_
      rw [List.filter_map]
      rfl
  | _ => exact .same rfl

/-- What a step does to the identifiers of backends. -/
theorem Effect.backendIds {remote : Remote.LoadBalancer} {plan : State} {step : Step} {u v : Stage}
    (effect : Effect remote plan step u v) :
    IdsAfter "be" u.2 (fun id => ∃ entry : Backend, step = .deleteBackend entry ∧
      entry.id = .known id) (u.1.backends.map (·.id)) (v.1.backends.map (·.id)) := by
  cases effect with
  | createBackend => exact .created List.map_append
  | updateBackend =>
      refine .same (map_getId_update _ ?_)
      exact fun _ same => same
  | deleteBackend =>
      refine .deleted ⟨_, rfl, rfl⟩ ?_
      rw [List.filter_map]
      rfl
  | replaceTargets =>
      refine .same (map_getId_update _ ?_)
      exact fun _ same => same
  | _ => exact .same rfl

/-! ### What every step keeps -/

/-- How far an update has come: `start` identifiers were issued when it began, the objects that were
there have kept their names, and others have new identifiers. -/
structure Settled (remote : Remote.LoadBalancer) (start : Nat) (x : Stage) : Prop where
  wellFormed : WellFormed x.1 x.2
  grown : start ≤ x.2
  id : x.1.id = remote.id
  healthCheckNames : ∀ h ∈ x.1.healthChecks, ∀ r ∈ remote.healthChecks, h.id = r.id →
    h.name = r.name
  backendNames : ∀ b ∈ x.1.backends, ∀ r ∈ remote.backends, b.id = r.id → b.name = r.name

variable {remote : Remote.LoadBalancer} {config : State} {start : Nat} {step : Step} {x y : Stage}

/-- Only a replacement touches listeners. -/
theorem Effect.listeners_eq {plan : State} (effect : Effect remote plan step x y)
    (other : ∀ listeners, step ≠ .replaceListeners listeners) :
    y.1.listeners = x.1.listeners := by
  cases effect with
  | replaceListeners => exact absurd rfl (other _)
  | _ => rfl

/-- An update begins with the load balancer as it is. -/
theorem Settled.initial (wf : WellFormed remote start) : Settled remote start (remote, start) where
  wellFormed := wf
  grown := Nat.le_refl start
  id := rfl
  healthCheckNames h hh r hr same := by
    rw [List.inj_on_of_nodup_map wf.healthCheckIds.nodup hh hr same]
  backendNames b hb r hr same := by
    rw [List.inj_on_of_nodup_map wf.backendIds.nodup hb hr same]

/-- A health check that the update creates is new. -/
theorem Settled.new_healthCheck (wf : WellFormed remote start) (h : Settled remote start x)
    {r : Remote.HealthCheck} (hr : r ∈ remote.healthChecks) : numberedId "hc" (x.2 + 1) ≠ r.id :=
  fun same => wf.healthChecks _ (Nat.lt_succ_of_le h.grown) (same ▸ List.mem_map_of_mem hr)

/-- A backend that the update creates is new. -/
theorem Settled.new_backend (wf : WellFormed remote start) (h : Settled remote start x)
    {r : Remote.Backend} (hr : r ∈ remote.backends) : numberedId "be" (x.2 + 1) ≠ r.id :=
  fun same => wf.backends _ (Nat.lt_succ_of_le h.grown) (same ▸ List.mem_map_of_mem hr)

/-- A step of an update keeps names and identifiers. -/
theorem Settled.of_performs (updatable : Updatable remote config) (wf : WellFormed remote start)
    (mem : step ∈ updateSteps remote config) (h : Settled remote start x)
    (made : Performs step x y) : Settled remote start y := by
  obtain ⟨change, -, applied⟩ := made.applied
  have effect := effect_of_performs updatable h.wellFormed mem made
  refine ⟨applied.wellFormed h.wellFormed, Nat.le_trans h.grown applied.issued_le,
    applied.status_eq.1.trans h.id, ?_, ?_⟩
  · intro k hk r hr same
    cases effect.healthCheck_origin hk with
    | kept there => exact h.healthCheckNames k there r hr same
    | created planned => exact absurd same (h.new_healthCheck wf hr)
    | @updated r' p hr' planned name =>
        obtain rfl := List.inj_on_of_nodup_map wf.healthCheckIds.nodup hr' hr same
        exact congrArg Attr.text name
  · intro k hk r hr same
    cases effect.backend_origin hk with
    | kept there => exact h.backendNames k there r hr same
    | created planned sent => exact absurd same (h.new_backend wf hr)
    | @updated b r' p reference hb hr' about planned name sent =>
        obtain rfl := List.inj_on_of_nodup_map wf.backendIds.nodup hr' hr (about.symm.trans same)
        exact congrArg Attr.text name
    | retargeted there => exact h.backendNames _ there r hr same

end CloudProvision.LoadBalancer
