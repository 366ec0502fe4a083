import CloudProvision.Proofs.LoadBalancer.Mapping
import CloudProvision.Proofs.MemoryCloud.Invariant

/-!
# Sending what was read

A remote load balancer is read as a state, in which nested objects refer to each other by name. The
requests that this state makes for the same load balancer are those of the objects that were read:
the references have their identifiers again, and every field its value. Only an optional text that
is blank is left out.

## Main definitions

* `Remote.LoadBalancer.Resolvable`: references can be followed from an identifier to a name and
  back.
* `State.Rebuilds`: the requests of a state make the nested objects of a load balancer.

## Main results

* `healthCheckId_ofRemote`, `listenerSpec_ofRemote`: a reference that was read stands for the
  identifier that it had.
* `State.rebuilds_ofRemote`: what was read is sent.
-/

namespace CloudProvision.Remote

/-! ### Objects without blank texts -/

/-- An optional text, unless it is blank. -/
def dropBlank (text : Option String) : Option String :=
  text.filter (!·.isEmpty)

/-- The target without blank texts. -/
def Target.dropBlanks (t : Target) : Target :=
  { t with nicId := dropBlank t.nicId, ipAddress := dropBlank t.ipAddress }

/-- The ACL without a blank description. -/
def Acl.dropBlanks (a : Acl) : Acl :=
  { a with description := dropBlank a.description }

/-- The health check without a blank path. -/
def HealthCheck.dropBlanks (h : HealthCheck) : HealthCheck :=
  { h with path := dropBlank h.path }

/-- The backend without blank texts, a blank reference among them. -/
def Backend.dropBlanks (b : Backend) : Backend :=
  { b with healthCheckId := dropBlank b.healthCheckId, targets := b.targets.map Target.dropBlanks }

/-- The listener without blank texts. -/
def Listener.dropBlanks (l : Listener) : Listener :=
  { l with name := dropBlank l.name, certificateId := dropBlank l.certificateId }

/-! ### References in both directions -/

/-- Health checks and backends have identifiers and names of their own, every reference is that of
an object, and the types of targets are given. -/
structure LoadBalancer.Resolvable (lb : LoadBalancer) : Prop where
  healthCheckIds : Distinct (lb.healthChecks.map (·.id))
  healthCheckNames : Distinct (lb.healthChecks.map (·.name))
  backendIds : Distinct (lb.backends.map (·.id))
  backendNames : Distinct (lb.backends.map (·.name))
  healthChecks : ∀ b ∈ lb.backends, ∀ id, dropBlank b.healthCheckId = some id →
    id ∈ lb.healthChecks.map (·.id)
  backends : ∀ l ∈ lb.listeners, l.backendId ∈ lb.backends.map (·.id)
  targetsTypes : ∀ b ∈ lb.backends, b.targetsType.isEmpty = false

end CloudProvision.Remote

namespace CloudProvision

namespace Attr

/-- An optional text that was read is sent unless it is blank. -/
@[simp] theorem nonempty?_ofOption (text : Option String) :
    (ofOption text).nonempty? = Remote.dropBlank text := by
  rcases text with - | text
  · rfl
  · simp only [ofOption, nonempty?, Remote.dropBlank, Option.filter_some]
    cases text.isEmpty <;> rfl

/-- A value that was read is known again if it was there. -/
@[simp] theorem toOption_ofOption {α : Type} (x : Option α) : (ofOption x).toOption = x := by
  cases x <;> rfl

end Attr

/-- Where names are distinct, a name finds the object that has it. -/
theorem IdentityIndex.findByName?_of_distinct {α : Type} [Identified α] {objects : List α}
    {getName : α → String} (named : ∀ x, Identified.name x = .known (getName x))
    (distinct : Remote.Distinct (objects.map getName)) {x : α} (hx : x ∈ objects) :
    ∃ p, (ofList objects).findByName? (getName x) = some p ∧ p.entry = x := by
  have filled := distinct.present _ (List.mem_map_of_mem hx)
  have key : (Identified.name x).key? = some (getName x) := by
    rw [named, Attr.key?_of_not_isEmpty filled]
  obtain ⟨p, found⟩ := exists_findByName? hx key
  obtain ⟨mem, keyed⟩ := of_findByName? found
  have same : getName p.entry = getName x :=
    Attr.known.inj ((named _).symm.trans (Attr.key?_eq_some_iff.1 keyed).1)
  exact ⟨p, found, List.inj_on_of_nodup_map distinct.nodup (Placed.entry_mem mem) hx same⟩

namespace LoadBalancer

variable {lb : Remote.LoadBalancer}

/-! ### References that were read -/

/-- A blank reference is read as none, since no health check has the blank identifier. -/
theorem healthCheckName_of_dropBlank (ids : Remote.Distinct (lb.healthChecks.map (·.id)))
    {reference : Option String} (blank : Remote.dropBlank reference = none) :
    healthCheckName lb reference = .null := by
  rcases reference with - | id
  · rfl
  · rw [Remote.dropBlank, Option.filter_eq_none_iff] at blank
    have empty : id.isEmpty = true := by simpa using blank id rfl
    have missing : lb.healthChecks.find? (·.id == id) = none := by
      refine List.find?_eq_none.2 fun h hh same => ?_
      have filled := ids.present _ (List.mem_map_of_mem hh)
      rw [beq_iff_eq.1 same, empty] at filled
      cases filled
    rw [healthCheckName, Option.bind_eq_bind, Option.bind_some, missing]
    rfl

/-- The health check that a backend was read with stands for the identifier that it referred to. -/
theorem healthCheckId_ofRemote (resolvable : lb.Resolvable) {b : Remote.Backend}
    (hb : b ∈ lb.backends) :
    healthCheckId lb (.ofRemote lb b) = .ok (Remote.dropBlank b.healthCheckId) := by
  have ids := resolvable.healthCheckIds
  rcases reference : Remote.dropBlank b.healthCheckId with - | id
  · have read : (Backend.ofRemote lb b).healthCheck.nonempty? = none := by
      rw [Backend.ofRemote, healthCheckName_of_dropBlank ids reference]
      rfl
    simp only [healthCheckId, read]
  · obtain ⟨h, hh, rfl⟩ := List.mem_map.1 (resolvable.healthChecks b hb id reference)
    have sent : b.healthCheckId = some h.id := (Option.filter_eq_some_iff.1 reference).1
    have filled := resolvable.healthCheckNames.present _ (List.mem_map_of_mem hh)
    obtain ⟨p, found, rfl⟩ := IdentityIndex.findByName?_of_distinct (fun _ => rfl)
      resolvable.healthCheckNames hh
    have read : (Backend.ofRemote lb b).healthCheck.nonempty? = some p.entry.name := by
      rw [Backend.ofRemote, sent, healthCheckName_eq ids.nodup hh, Attr.nonempty?_eq_key?,
        Attr.key?_of_not_isEmpty filled]
    simp only [healthCheckId, read, found]

/-- The backend that a listener was read with stands for the identifier that it referred to. -/
theorem listenerSpec_ofRemote (resolvable : lb.Resolvable) {l : Remote.Listener}
    (hl : l ∈ lb.listeners) :
    listenerSpec lb (.ofRemote lb l) = .ok ((Listener.ofRemote lb l).spec l.backendId) := by
  obtain ⟨b, hb, same⟩ := List.mem_map.1 (resolvable.backends l hl)
  have read : (Listener.ofRemote lb l).backend.text = b.name := by
    rw [Listener.ofRemote, ← same, backendName_eq resolvable.backendIds.nodup hb]
    rfl
  obtain ⟨p, found, rfl⟩ := IdentityIndex.findByName?_of_distinct (fun _ => rfl)
    resolvable.backendNames hb
  simp only [listenerSpec, read, found, same]

/-! ### Fields that were read -/

/-- A target is sent as it was read. -/
theorem Target.toRemote_ofRemote (t : Remote.Target) : (ofRemote t).toRemote = t.dropBlanks := by
  simp only [toRemote, ofRemote, Attr.nonempty?_ofOption]
  rfl

/-- The targets of a backend are sent as they were read. -/
theorem Backend.remoteTargets_ofRemote (b : Remote.Backend) :
    (ofRemote lb b).remoteTargets = b.dropBlanks.targets := by
  rw [remoteTargets, ofRemote, Remote.Backend.dropBlanks]
  simp only [Attr.entries, Attr.getD, Attr.toOption, Option.getD_some, List.map_map]
  exact List.map_congr_left fun t _ => Target.toRemote_ofRemote t

/-- The fields of an ACL are sent as they were read. -/
theorem Acl.spec_ofRemote (a : Remote.Acl) : (ofRemote a).spec.withId a.id = a.dropBlanks := by
  simp only [spec, ofRemote, Attr.nonempty?_ofOption]
  rfl

/-- The fields of a health check are sent as they were read. -/
theorem HealthCheck.spec_ofRemote (h : Remote.HealthCheck) :
    (ofRemote h).spec.withId h.id = h.dropBlanks := by
  simp only [spec, ofRemote, Attr.nonempty?_ofOption]
  rfl

/-- The fields of a listener are sent as they were read. -/
theorem Listener.spec_ofRemote (l : Remote.Listener) :
    ((ofRemote lb l).spec l.backendId).withId l.id = l.dropBlanks := by
  simp only [spec, ofRemote, Attr.nonempty?_ofOption]
  rfl

/-- The fields of a backend are sent as they were read, if it has a type of targets. -/
theorem Backend.spec_ofRemote {b : Remote.Backend} (typed : b.targetsType.isEmpty = false) :
    ((ofRemote lb b).spec (Remote.dropBlank b.healthCheckId)).withId b.id = b.dropBlanks := by
  have kind : (ofRemote lb b).targetsType.text = b.targetsType := rfl
  simp only [spec, remoteTargets_ofRemote, kind, typed, Bool.false_eq_true, if_false]
  simp only [ofRemote, Attr.toOption_ofOption]
  rfl

/-- An update with the fields of a backend as they were read leaves them as they are. -/
theorem Backend.update_ofRemote (b : Remote.Backend) :
    ((ofRemote lb b).update (Remote.dropBlank b.healthCheckId)).applyTo b.dropBlanks =
      b.dropBlanks := by
  simp only [update, ofRemote, Attr.toOption_ofOption]
  rfl

/-! ### The whole load balancer -/

/-- The requests of a state make the nested objects of a load balancer, in order. The targets of a
backend are also sent on their own, and an update of a backend changes nothing. -/
structure State.Rebuilds (lb : Remote.LoadBalancer) (s : State) : Prop where
  acls : List.Forall₂ (fun a request => request.withId a.id = a.dropBlanks)
    lb.acls (s.acls.entries.map Acl.spec)
  healthChecks : List.Forall₂ (fun h request => request.withId h.id = h.dropBlanks)
    lb.healthChecks (s.healthChecks.entries.map HealthCheck.spec)
  backends : ∃ requests,
    s.backends.entries.mapM (fun b => b.spec <$> healthCheckId lb b) = .ok requests ∧
      List.Forall₂ (fun b request => request.withId b.id = b.dropBlanks) lb.backends requests
  updates : ∃ requests,
    s.backends.entries.mapM (fun b => b.update <$> healthCheckId lb b) = .ok requests ∧
      List.Forall₂ (fun b request => request.applyTo b.dropBlanks = b.dropBlanks)
        lb.backends requests
  targets : s.backends.entries.map Backend.remoteTargets = lb.backends.map (·.dropBlanks.targets)
  listeners : ∃ requests, s.listeners.entries.mapM (listenerSpec lb) = .ok requests ∧
    List.Forall₂ (fun l request => request.withId l.id = l.dropBlanks) lb.listeners requests

/-- Objects and their requests are related one by one if each object is to its own. -/
theorem forall₂_map_map {α β γ : Type} {R : α → γ → Prop} {objects : List α} {read : α → β}
    {build : β → γ} (rebuilt : ∀ x ∈ objects, R x (build (read x))) :
    List.Forall₂ R objects ((objects.map read).map build) := by
  rw [List.map_map, List.forall₂_map_right_iff, List.forall₂_same]
  exact rebuilt

/-- The requests of a load balancer that was read make the objects that were read. -/
theorem State.rebuilds_ofRemote (resolvable : lb.Resolvable) :
    (State.ofRemote lb).Rebuilds lb where
  acls := forall₂_map_map fun a _ => Acl.spec_ofRemote a
  healthChecks := forall₂_map_map fun h _ => HealthCheck.spec_ofRemote h
  backends := exists_mapM_map fun b hb =>
    ⟨_, by rw [healthCheckId_ofRemote resolvable hb]; rfl,
      Backend.spec_ofRemote (resolvable.targetsTypes b hb)⟩
  updates := exists_mapM_map fun b hb =>
    ⟨_, by rw [healthCheckId_ofRemote resolvable hb]; rfl, Backend.update_ofRemote b⟩
  targets := by
    rw [ofRemote]
    exact List.map_map.trans (List.map_congr_left fun b _ => Backend.remoteTargets_ofRemote b)
  listeners := exists_mapM_map fun l hl =>
    ⟨_, listenerSpec_ofRemote resolvable hl, Listener.spec_ofRemote l⟩

/-- A load balancer with two backends, one of them with a blank reference. -/
def checkedAndUnchecked : Remote.LoadBalancer where
  id := "lb-1"
  name := "front"
  description := none
  address := some "10.0.0.1"
  status := "running"
  errorMessage := none
  listeners := [⟨"listener-1", some "", 80, "http", "backend-2", none⟩,
    ⟨"listener-2", some "https", 443, "https", "backend-1", some "cert-1"⟩]
  acls := [⟨"acl-1", "office", "allow", "10.0.0.0/8", 1, some ""⟩]
  healthChecks := [⟨"check-1", "ping", "tcp", 80, none, 10, 5, 3, 3⟩,
    ⟨"check-2", "ready", "http", 8080, some "/ready", 20, 5, 3, 3⟩]
  backends := [
    ⟨"backend-1", "web", "instance", none, true, some "check-2", [⟨some "nic-1", none, 80⟩]⟩,
    ⟨"backend-2", "static", "raw", none, false, some "", [⟨some "", some "10.0.0.2", 80⟩]⟩]

/-- The requests of `checkedAndUnchecked` make its objects again. -/
theorem rebuilds_checkedAndUnchecked :
    checkedAndUnchecked.Resolvable ∧
      (State.ofRemote checkedAndUnchecked).Rebuilds checkedAndUnchecked := by
  have resolvable : checkedAndUnchecked.Resolvable :=
    { healthCheckIds := by decide
      healthCheckNames := by decide
      backendIds := by decide
      backendNames := by decide
      healthChecks := by
        simp [checkedAndUnchecked, Remote.dropBlank]
      backends := by decide
      targetsTypes := by decide }
  exact ⟨resolvable, State.rebuilds_ofRemote resolvable⟩

end LoadBalancer

end CloudProvision
