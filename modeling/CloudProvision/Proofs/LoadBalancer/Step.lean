import CloudProvision.LoadBalancer.Step
import CloudProvision.Proofs.Changes
import CloudProvision.Proofs.Except

/-!
# What steps resolve to

`Resolved` says which change a step makes to a load balancer, one case for each step, and what was
looked up for it.

## Main results

* `resolved_of_resolve`: a step that resolves does so as `Resolved` says.
* `remoteId_ok` and `remoteId_missing`: which object an entry stands for.
-/

namespace CloudProvision.LoadBalancer

/-! ### Looking objects up -/

section Lookup

variable {α β : Type} [Identified α] [Identified β] {kind : String} {remote : List α} {entry : β}
  {id : String}

/-- The identifier of an entry is that of what an index finds for it. -/
theorem remoteId_eq_ok : remoteId kind remote entry = .ok id ↔
    ∃ p, (IdentityIndex.ofList remote).locate? entry = some p ∧
      Identified.id p.entry = .known id := by
  rw [remoteId, IdentityIndex.find?]
  rcases (IdentityIndex.ofList remote).locate? entry with - | p
  · simp
  · rcases h : (Identified.id p.entry).toOption with - | k
    · simp [h, ← Attr.toOption_eq_some_iff]
    · simp [h, ← Attr.toOption_eq_some_iff]

/-- An entry stands for an object that exists. If the entry has an identifier, it is that of the
object. -/
theorem remoteId_ok (present : ∀ x ∈ remote, (Identified.id x).key?.isSome)
    (h : remoteId kind remote entry = .ok id) :
    (∃ x ∈ remote, Identified.id x = .known id) ∧
      ∀ k, (Identified.id entry).key? = some k → k = id := by
  obtain ⟨p, found, same⟩ := remoteId_eq_ok.1 h
  have mem := Placed.entry_mem (IdentityIndex.mem_of_locate? found)
  refine ⟨⟨p.entry, mem, same⟩, fun k hk => ?_⟩
  have key := IdentityIndex.key?_of_locate? found hk (present _ mem)
  rw [same] at key
  exact (Attr.known.inj (Attr.key?_eq_some_iff.1 key).1).symm

/-- An entry with an identifier that no object has stands for none, whatever its name. -/
theorem remoteId_missing {k : String} (present : ∀ x ∈ remote, (Identified.id x).key?.isSome)
    (key : (Identified.id entry).key? = some k)
    (absent : ∀ x ∈ remote, Identified.id x ≠ .known k) :
    remoteId kind remote entry = .error (.missing kind (Identified.name entry).text) := by
  rcases h : remoteId kind remote entry with e | id
  · rw [remoteId] at h
    split at h <;> simp_all
  · obtain ⟨⟨x, mem, same⟩, keys⟩ := remoteId_ok present h
    exact absurd (keys k key ▸ same) (absent x mem)

end Lookup

/-- A reference to a health check that can be sent is none, or it is found by the name referred to.
-/
theorem healthCheckId_found {current : Remote.LoadBalancer} {b : Backend}
    {reference : Option String} (h : healthCheckId current b = .ok reference) :
    (b.healthCheck.key? = none ∧ reference = none) ∨
      ∃ name p, b.healthCheck.key? = some name ∧ reference = some p.entry.id ∧
        (IdentityIndex.ofList current.healthChecks).findByName? name = some p := by
  rw [healthCheckId, Attr.nonempty?_eq_key?] at h
  rcases key : b.healthCheck.key? with - | name
  · rw [key] at h
    exact .inl ⟨rfl, (Except.ok.inj h).symm⟩
  · rw [key] at h
    dsimp only at h
    split at h
    · next p found => exact .inr ⟨name, p, rfl, (Except.ok.inj h).symm, found⟩
    · cases h

/-- A reference to a health check that can be sent is none, or that of a health check with the name
referred to. -/
theorem healthCheckId_ok {current : Remote.LoadBalancer} {b : Backend} {reference : Option String}
    (h : healthCheckId current b = .ok reference) :
    (b.healthCheck.key? = none ∧ reference = none) ∨
      ∃ healthCheck ∈ current.healthChecks, reference = some healthCheck.id ∧
        b.healthCheck.key? = some healthCheck.name := by
  rcases healthCheckId_found h with nothing | ⟨name, p, key, rfl, found⟩
  · exact .inl nothing
  · obtain ⟨mem, named⟩ := IdentityIndex.of_findByName? found
    obtain ⟨same, -⟩ := Attr.key?_eq_some_iff.1 named
    refine .inr ⟨p.entry, Placed.entry_mem mem, rfl, ?_⟩
    rw [key]
    exact congrArg some (Attr.known.inj same).symm

/-- The backend of a listener that can be sent is found by the name referred to. -/
theorem listenerSpec_found {current : Remote.LoadBalancer} {l : Listener}
    {spec : Remote.ListenerSpec} (h : listenerSpec current l = .ok spec) :
    ∃ p, (IdentityIndex.ofList current.backends).findByName? l.backend.text = some p ∧
      spec = l.spec p.entry.id := by
  rw [listenerSpec] at h
  split at h
  · next p found => exact ⟨p, found, (Except.ok.inj h).symm⟩
  · cases h

/-- A listener can be sent if it refers to the name of a backend. -/
theorem listenerSpec_ok {current : Remote.LoadBalancer} {l : Listener} {spec : Remote.ListenerSpec}
    (h : listenerSpec current l = .ok spec) :
    ∃ backend ∈ current.backends, spec = l.spec backend.id ∧ l.backend = .known backend.name := by
  obtain ⟨p, found, rfl⟩ := listenerSpec_found h
  obtain ⟨mem, named⟩ := IdentityIndex.of_findByName? found
  obtain ⟨same, filled⟩ := Attr.key?_eq_some_iff.1 named
  refine ⟨p.entry, Placed.entry_mem mem, rfl, ?_⟩
  have name : l.backend.text = p.entry.name := (Attr.known.inj same).symm
  rcases backend : l.backend with text | _ | _
  · rw [backend] at name
    exact congrArg Attr.known name
  · rw [backend] at filled
    cases filled
  · rw [backend] at filled
    cases filled

/-- A reference to the name of a health check can be sent, and so can none. -/
theorem exists_healthCheckId {current : Remote.LoadBalancer} {b : Backend}
    (there : ∀ name, b.healthCheck.key? = some name →
      ∃ healthCheck ∈ current.healthChecks, healthCheck.name = name) :
    ∃ reference, healthCheckId current b = .ok reference := by
  rw [healthCheckId, Attr.nonempty?_eq_key?]
  rcases key : b.healthCheck.key? with - | name
  · exact ⟨none, rfl⟩
  · obtain ⟨healthCheck, mem, rfl⟩ := there name key
    obtain ⟨p, hp⟩ := IdentityIndex.exists_findByName? mem
      (Attr.key?_of_not_isEmpty (Attr.key?_eq_some_iff.1 key).2)
    exact ⟨some p.entry.id, by simp only [hp]⟩

/-- A listener that refers to the name of a backend can be sent, unless the name is blank. -/
theorem exists_listenerSpec {current : Remote.LoadBalancer} {l : Listener}
    {backend : Remote.Backend} (mem : backend ∈ current.backends)
    (reference : l.backend = .known backend.name) (filled : backend.name.isEmpty = false) :
    ∃ spec, listenerSpec current l = .ok spec := by
  obtain ⟨p, hp⟩ := IdentityIndex.exists_findByName? mem (Attr.key?_of_not_isEmpty filled)
  have text : l.backend.text = backend.name := by
    rw [reference]
    rfl
  exact ⟨l.spec p.entry.id, by simp only [listenerSpec, text, hp]⟩

/-- A listener that refers to the blank name cannot be sent, even if a backend has this name. -/
theorem listenerSpec_of_blank {current : Remote.LoadBalancer} {l : Listener}
    (blank : l.backend = .known "") :
    listenerSpec current l = .error (.backend l.name.text "") := by
  have text : l.backend.text = "" := by
    rw [blank]
    rfl
  have unnamed : (IdentityIndex.ofList current.backends).findByName? "" = none := by
    refine Option.eq_none_iff_forall_ne_some.2 fun p found => ?_
    cases (Attr.key?_eq_some_iff.1 (IdentityIndex.of_findByName? found).2).2
  simp only [listenerSpec, text, unnamed]

/-! ### Resolving steps -/

/-- The change that a step makes to a load balancer, with what was looked up for it. -/
inductive Resolved (current : Remote.LoadBalancer) : Step → Remote.Change → Prop
  | update {plan : State} :
      Resolved current (.update plan)
        (.update ⟨plan.name.nonempty?, plan.description.nonempty?⟩)
  | createHealthCheck {plan : HealthCheck} :
      Resolved current (.createHealthCheck plan) (.createHealthCheck plan.spec)
  | updateHealthCheck {state plan : HealthCheck} {id : String} :
      remoteId "health check" current.healthChecks state = .ok id →
      Resolved current (.updateHealthCheck state plan) (.updateHealthCheck id plan.spec)
  | deleteHealthCheck {state : HealthCheck} {id : String} :
      remoteId "health check" current.healthChecks state = .ok id →
      Resolved current (.deleteHealthCheck state) (.deleteHealthCheck id)
  | createBackend {plan : Backend} {reference : Option String} :
      healthCheckId current plan = .ok reference →
      Resolved current (.createBackend plan) (.createBackend (plan.spec reference))
  | updateBackend {state plan : Backend} {id : String} {reference : Option String} :
      remoteId "backend" current.backends state = .ok id →
      healthCheckId current plan = .ok reference →
      Resolved current (.updateBackend state plan) (.updateBackend id (plan.update reference))
  | deleteBackend {state : Backend} {id : String} :
      remoteId "backend" current.backends state = .ok id →
      Resolved current (.deleteBackend state) (.deleteBackend id)
  | replaceTargets {state plan : Backend} {id : String} :
      remoteId "backend" current.backends state = .ok id →
      Resolved current (.replaceTargets state plan) (.replaceTargets id plan.remoteTargets)
  | updateAcl {state plan : Acl} {id : String} :
      remoteId "ACL" current.acls state = .ok id →
      Resolved current (.updateAcl state plan) (.updateAcl id plan.spec)
  | replaceAcls {plan : List Acl} :
      Resolved current (.replaceAcls plan) (.replaceAcls (plan.map Acl.spec))
  | replaceListeners {plan : List Listener} {specs : List Remote.ListenerSpec} :
      List.Forall₂ (fun l spec => listenerSpec current l = .ok spec) plan specs →
      Resolved current (.replaceListeners plan) (.replaceListeners specs)

/-- A step that resolves does so as `Resolved` says. -/
theorem resolved_of_resolve {current : Remote.LoadBalancer} {step : Step} {change : Remote.Change}
    (h : step.resolve current = .ok change) : Resolved current step change := by
  cases step with
  | update plan => exact Except.ok.inj h ▸ .update
  | createHealthCheck plan => exact Except.ok.inj h ▸ .createHealthCheck
  | updateHealthCheck state plan =>
      obtain ⟨id, hid, h⟩ := bind_eq_ok h
      exact Except.ok.inj h ▸ .updateHealthCheck hid
  | deleteHealthCheck state =>
      obtain ⟨id, hid, h⟩ := bind_eq_ok h
      exact Except.ok.inj h ▸ .deleteHealthCheck hid
  | createBackend plan =>
      obtain ⟨reference, href, h⟩ := bind_eq_ok h
      exact Except.ok.inj h ▸ .createBackend href
  | updateBackend state plan =>
      obtain ⟨id, hid, h⟩ := bind_eq_ok h
      obtain ⟨reference, href, h⟩ := bind_eq_ok h
      exact Except.ok.inj h ▸ .updateBackend hid href
  | deleteBackend state =>
      obtain ⟨id, hid, h⟩ := bind_eq_ok h
      exact Except.ok.inj h ▸ .deleteBackend hid
  | replaceTargets state plan =>
      obtain ⟨id, hid, h⟩ := bind_eq_ok h
      exact Except.ok.inj h ▸ .replaceTargets hid
  | updateAcl state plan =>
      obtain ⟨id, hid, h⟩ := bind_eq_ok h
      exact Except.ok.inj h ▸ .updateAcl hid
  | replaceAcls plan => exact Except.ok.inj h ▸ .replaceAcls
  | replaceListeners plan =>
      obtain ⟨specs, hspecs, h⟩ := bind_eq_ok h
      exact Except.ok.inj h ▸ .replaceListeners (mapM_eq_ok.1 hspecs)

end CloudProvision.LoadBalancer
