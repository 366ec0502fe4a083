import CloudProvision.Proofs.LoadBalancer.Agreement
import CloudProvision.Proofs.LoadBalancer.Complete
import CloudProvision.Proofs.MemoryCloud.Change

/-!
# Stored entries

The entries of a planned load balancer are sent, stored as objects with identifiers, and read back.
An entry then differs from what it was planned as exactly if a number without a default was left
out, since it is stored as zero, or if the type of targets is blank, since the default is stored.

## Main definitions

* `Backend.RefersTo`, `Listener.RefersTo`: the objects with the name that an entry refers to.
* `Stores`: a load balancer that holds the objects made from the entries of a plan.

## Main results

* `exists_stores`: the entries of a decided and valid configuration can be stored.
* `stored_unchanged_iff`: which stored entries are the same as planned.
-/

namespace CloudProvision.LoadBalancer

/-! ### References -/

/-- What stands for the health check that a backend refers to: the identifier of one with this name,
or nothing if it refers to none. -/
def Backend.RefersTo (healthChecks : List Remote.HealthCheck) (b : Backend)
    (reference : Option String) : Prop :=
  (b.healthCheck.key? = none ∧ reference = none) ∨
    ∃ h ∈ healthChecks, b.healthCheck.key? = some h.name ∧ reference = some h.id

/-- What stands for the backend that a listener refers to: the identifier of one with this name. -/
def Listener.RefersTo (backends : List Remote.Backend) (l : Listener) (reference : String) : Prop :=
  ∃ b ∈ backends, l.backend = .known b.name ∧ reference = b.id

/-- What is looked up for a backend is what it refers to. -/
theorem Backend.refersTo_of_healthCheckId {lb : Remote.LoadBalancer} {b : Backend}
    {reference : Option String} (found : healthCheckId lb b = .ok reference) :
    b.RefersTo lb.healthChecks reference := by
  obtain nothing | ⟨h, mem, is, named⟩ := healthCheckId_ok found
  · exact .inl nothing
  · exact .inr ⟨h, mem, named, is⟩

/-- What is sent for a listener is what it refers to. -/
theorem Listener.refersTo_of_listenerSpec {lb : Remote.LoadBalancer} {l : Listener}
    {spec : Remote.ListenerSpec} (sent : listenerSpec lb l = .ok spec) :
    ∃ reference, l.RefersTo lb.backends reference ∧ spec = l.spec reference := by
  obtain ⟨b, mem, is, named⟩ := listenerSpec_ok sent
  exact ⟨b.id, ⟨b, mem, named, rfl⟩, is⟩

/-- A reference of a backend is read back as it was sent. -/
theorem Backend.RefersTo.changed_eq_false {lb : Remote.LoadBalancer} {b : Backend}
    {reference : Option String} (refers : b.RefersTo lb.healthChecks reference)
    (distinct : (lb.healthChecks.map (·.id)).Nodup) :
    b.healthCheck.changed (healthCheckName lb reference) = false := by
  obtain ⟨blank, rfl⟩ | ⟨h, mem, named, rfl⟩ := refers
  · have read := Attr.changed_nonempty? b.healthCheck
    rw [Attr.nonempty?_eq_key?, blank] at read
    exact read
  · rw [healthCheckName_eq distinct mem, (Attr.key?_eq_some_iff.1 named).1, Attr.changed_self]

/-! ### Stored objects -/

/-- A health check as an object. -/
def HealthCheck.StoredAs (p : HealthCheck) (h : Remote.HealthCheck) : Prop :=
  ∃ id, h = p.spec.withId id

/-- An ACL as an object. -/
def Acl.StoredAs (p : Acl) (a : Remote.Acl) : Prop :=
  ∃ id, a = p.spec.withId id

/-- A backend as an object. -/
def Backend.StoredAs (healthChecks : List Remote.HealthCheck) (p : Backend)
    (b : Remote.Backend) : Prop :=
  ∃ id reference, p.RefersTo healthChecks reference ∧ b = (p.spec reference).withId id

/-- A listener as an object. -/
def Listener.StoredAs (backends : List Remote.Backend) (p : Listener)
    (l : Remote.Listener) : Prop :=
  ∃ id reference, p.RefersTo backends reference ∧ l = (p.spec reference).withId id

/-- A backend that was sent with the health check that was looked up for it is stored as planned. -/
theorem Backend.storedAs_of_healthCheckId {lb : Remote.LoadBalancer} {p : Backend}
    {reference : Option String} (found : healthCheckId lb p = .ok reference) (id : String) :
    p.StoredAs lb.healthChecks ((p.spec reference).withId id) :=
  ⟨id, reference, refersTo_of_healthCheckId found, rfl⟩

/-- A listener that was sent as it was looked up is stored as planned. -/
theorem Listener.storedAs_of_listenerSpec {lb : Remote.LoadBalancer} {p : Listener}
    {spec : Remote.ListenerSpec} (sent : listenerSpec lb p = .ok spec) (id : String) :
    p.StoredAs lb.backends (spec.withId id) := by
  obtain ⟨reference, refers, rfl⟩ := refersTo_of_listenerSpec sent
  exact ⟨id, reference, refers, rfl⟩

/-- A load balancer that holds an object for each entry of a plan. -/
structure Stores (plan : State) (lb : Remote.LoadBalancer) : Prop where
  healthCheckIds : (lb.healthChecks.map (·.id)).Nodup
  backendIds : (lb.backends.map (·.id)).Nodup
  healthChecks : List.Forall₂ HealthCheck.StoredAs plan.healthChecks.entries lb.healthChecks
  backends : List.Forall₂ (Backend.StoredAs lb.healthChecks) plan.backends.entries lb.backends
  acls : List.Forall₂ Acl.StoredAs plan.acls.entries lb.acls
  listeners : List.Forall₂ (Listener.StoredAs lb.backends) plan.listeners.entries lb.listeners

/-! ### Entries that are read back -/

/-- A number is read back as it was sent unless it was left out. -/
theorem changed_getD_iff {x : Attr Int} {default : Int} :
    x.changed (.known (x.getD default)) = false ↔ x.isNull = false := by
  cases x with
  | known v => simp [Attr.isNull, Attr.getD, Attr.toOption]
  | null => simp [Attr.isNull, Attr.changed, Attr.normalized, Comparable.blank, Attr.same]
  | unknown => exact iff_of_true rfl rfl

/-- A stored ACL is the same if its priority was given. -/
theorem Acl.StoredAs.unchanged_iff {p : Acl} {a : Remote.Acl} (stored : p.StoredAs a) :
    p.changedFrom (.ofRemote a) = false ↔ p.priority.isNull = false := by
  obtain ⟨id, rfl⟩ := stored
  simp only [changedFrom, ofRemote, spec, Remote.AclSpec.withId, Bool.or_eq_false_iff,
    Attr.changed_text, Attr.changed_nonempty?, changed_getD_iff, true_and, and_true]

/-- A stored health check is the same if its port was given. -/
theorem HealthCheck.StoredAs.unchanged_iff {c : HealthCheck} {h : Remote.HealthCheck}
    (stored : c.withDefaults.StoredAs h) :
    c.withDefaults.changedFrom (.ofRemote h) = false ↔ c.port.isNull = false := by
  obtain ⟨id, rfl⟩ := stored
  simp only [changedFrom, ofRemote, spec, Remote.HealthCheckSpec.withId, Bool.or_eq_false_iff,
    Attr.changed_text, Attr.changed_nonempty?, changed_getD_iff, true_and, and_true, withDefaults,
    isNull_orDefault]

/-- A stored listener is the same if its port was given. -/
theorem Listener.StoredAs.unchanged_iff {p : Listener} {lb : Remote.LoadBalancer}
    {l : Remote.Listener} (stored : p.StoredAs lb.backends l)
    (distinct : (lb.backends.map (·.id)).Nodup) :
    p.changedFrom (.ofRemote lb l) = false ↔ p.port.isNull = false := by
  obtain ⟨id, reference, ⟨b, mem, named, rfl⟩, rfl⟩ := stored
  simp only [changedFrom, ofRemote, spec, Remote.ListenerSpec.withId, Bool.or_eq_false_iff,
    Attr.changed_text, Attr.changed_nonempty?, changed_getD_iff, true_and, and_true, named,
    backendName_eq distinct mem, Attr.changed_self]

/-- A stored target is the same if its port was given. -/
theorem Target.sameAs_toRemote_iff {t : Target} (decided : t.hasUnknown = false) :
    t.sameAs (.ofRemote t.toRemote) = true ↔ t.port.isNull = false := by
  refine ⟨fun same => ?_, fun port => sameAs_toRemote port decided⟩
  simp only [sameAs, Bool.and_eq_true, beq_iff_eq] at same
  rcases port : t.port with v | _ | _
  · rfl
  · rw [port] at same
    cases same.2
  · rfl

/-- Stored targets are the same if all their ports were given. -/
theorem targetsChanged_toRemote_iff {p : Backend} (known : p.targets.isUnknown = false)
    (decided : ∀ t ∈ p.targets.entries, t.hasUnknown = false) :
    targetsChanged p.targets (.known (p.remoteTargets.map Target.ofRemote)) = false ↔
      ∀ t ∈ p.targets.entries, t.port.isNull = false := by
  refine ⟨fun same t ht => ?_, fun ports =>
    targetsChanged_toRemote known fun t ht => ⟨ports t ht, decided t ht⟩⟩
  have perm := targets_perm_of_unchanged known rfl
    (List.any_eq_false.2 fun t ht => by simp [decided t ht]) same
  obtain ⟨x, hx, eq⟩ := List.mem_map.1 (perm.subset (List.mem_map_of_mem ht))
  obtain ⟨sent, -, rfl⟩ := List.mem_map.1 hx
  -- What is read back has a port.
  have port : Attr.normalized (.known sent.port) = t.port.normalized := congrArg Target.port eq
  rcases given : t.port with v | _ | _
  · rfl
  · rw [given] at port
    cases port
  · rfl

/-- The type of targets of a stored backend is the same unless it is blank. -/
theorem Backend.targetsTypeChanged_spec_iff {p : Backend} {lb : Remote.LoadBalancer}
    {reference : Option String} {id : String} (given : p.targetsType.isNull = false)
    (decided : p.targetsType.isUnknown = false) :
    p.targetsTypeChanged (.ofRemote lb ((p.spec reference).withId id)) = false ↔
      p.targetsType ≠ .known "" := by
  rcases kind : p.targetsType with text | _ | _
  · by_cases blank : text = ""
    · subst blank
      have sent : (p.spec reference).targetsType = instanceTargets := by
        rw [spec, kind]
        rfl
      have differs : (Attr.known "").changed (.known instanceTargets) = true := by decide
      rw [targetsTypeChanged, ofRemote, Remote.BackendSpec.withId, sent, kind, differs]
      exact iff_of_false Bool.noConfusion fun h => h rfl
    · refine iff_of_true (targetsTypeChanged_spec ?_ id) (by simpa using blank)
      rw [kind]
      exact Option.isSome_of_eq_some (Attr.key?_of_not_isEmpty (by simpa using blank))
  · rw [kind] at given
    cases given
  · rw [kind] at decided
    cases decided

/-- How a backend that is read back compares with what was planned. -/
structure Backend.ReadBack (p s : Backend) : Prop where
  entry : p.changedFrom s = false ↔
    p.targetsType ≠ .known "" ∧ ∀ t ∈ p.targets.entries, t.port.isNull = false
  targets : targetsChanged p.targets s.targets = false ↔
    ∀ t ∈ p.targets.entries, t.port.isNull = false
  each : List.Forall₂ (fun t u => t.sameAs u = true ↔ t.port.isNull = false)
    p.targets.entries s.targets.entries

/-- A stored backend is the same if its type of targets is not blank and their ports were given. -/
theorem Backend.StoredAs.readBack {c : Backend} {lb : Remote.LoadBalancer} {b : Remote.Backend}
    (stored : c.withDefaults.StoredAs lb.healthChecks b) (decided : c.isDecided = true)
    (distinct : (lb.healthChecks.map (·.id)).Nodup) :
    c.withDefaults.ReadBack (.ofRemote lb b) := by
  obtain ⟨id, reference, refers, rfl⟩ := stored
  simp only [isDecided, Bool.not_eq_true', Bool.or_eq_false_iff, List.any_eq_false] at decided
  obtain ⟨⟨⟨⟨⟨⟨⟨-, -⟩, typed⟩, -⟩, -⟩, -⟩, known⟩, filled⟩ := decided
  have same : c.withDefaults.targets.entries = c.targets.entries := entries_orDefault c.targets
  have targetsDecided : ∀ t ∈ c.withDefaults.targets.entries, t.hasUnknown = false := by
    rw [same]
    exact fun t ht => Bool.eq_false_iff.2 (filled t ht)
  let object := (c.withDefaults.spec reference).withId id
  have type : c.withDefaults.targetsTypeChanged (.ofRemote lb object) = false ↔
      c.withDefaults.targetsType ≠ .known "" :=
    targetsTypeChanged_spec_iff (isNull_orDefault _ _) (isUnknown_orDefault _ typed)
  have fields : c.withDefaults.fieldsChanged (.ofRemote lb object) = false :=
    fieldsChanged_spec (isNull_orDefault _ _) (refers.changed_eq_false distinct) id
  have targets : targetsChanged c.withDefaults.targets (ofRemote lb object).targets = false ↔
      ∀ t ∈ c.withDefaults.targets.entries, t.port.isNull = false :=
    targetsChanged_toRemote_iff (isUnknown_orDefault _ known) targetsDecided
  refine ⟨?_, targets, ?_⟩
  · rw [changedFrom, Bool.or_eq_false_iff, Bool.or_eq_false_iff, type, fields]
    exact and_congr_left' (and_iff_left rfl) |>.trans (and_congr_right' targets)
  · refine List.forall₂_map_right_iff.2 (List.forall₂_map_right_iff.2 ?_)
    exact List.forall₂_same.2 fun t ht => Target.sameAs_toRemote_iff (targetsDecided t ht)

/-! ### Storing a plan -/

/-- If an object can be made for each of the entries, whatever its identifier, then objects with
identifiers of their own can be. -/
theorem exists_issued {α β : Type} {S : α → β → Prop} {getId : β → String} {xs : List α}
    (h : ∀ x ∈ xs, ∃ withId : { withId : String → β // ∀ id, getId (withId id) = id },
      ∀ id, S x (withId.1 id)) :
    ∃ objects : List β, (objects.map getId).Nodup ∧ List.Forall₂ S xs objects := by
  have issued (number : Nat) : ∃ requests, List.Forall₂ S xs
      (Remote.issueAll "object"
        (fun (withId : { withId : String → β // ∀ id, getId (withId id) = id }) id => withId.1 id)
        number requests) := by
    induction xs generalizing number with
    | nil => exact ⟨[], .nil⟩
    | cons x rest ih =>
        obtain ⟨withId, first⟩ := h x List.mem_cons_self
        obtain ⟨requests, others⟩ := ih (fun z hz => h z (List.mem_cons_of_mem _ hz)) (number + 1)
        exact ⟨withId :: requests, .cons (first _) others⟩
  obtain ⟨requests, stored⟩ := issued 0
  exact ⟨_, Remote.issueAll_ids_nodup fun withId id => withId.2 id, stored⟩

section Storing

variable {config : State} (decided : config.isDecided = true) (valid : config.validate = [])

include decided valid

/-- What a configured backend refers to is among the stored health checks. -/
theorem exists_refersTo_healthCheck {healthChecks : List Remote.HealthCheck}
    (stored : List.Forall₂ HealthCheck.StoredAs config.withDefaults.healthChecks.entries
      healthChecks)
    {b : Backend} (hb : b ∈ config.backends.entries) :
    ∃ reference, b.RefersTo healthChecks reference := by
  rcases key : b.healthCheck.key? with - | name
  · exact ⟨none, .inl ⟨key, rfl⟩⟩
  · obtain ⟨c, hc, named⟩ := State.backend_reference decided valid hb key
    have planned : c.withDefaults ∈ config.withDefaults.healthChecks.entries := by
      rw [(entries_withDefaults config).2.2.1]
      exact List.mem_map_of_mem hc
    obtain ⟨h, mem, id, rfl⟩ := exists_of_forall₂ stored.flip _ planned
    refine ⟨some id, .inr ⟨_, mem, ?_, rfl⟩⟩
    change b.healthCheck.key? = some c.name.text
    rw [key, named]
    rfl

/-- What a configured listener refers to is among the stored backends. -/
theorem exists_refersTo_backend {healthChecks : List Remote.HealthCheck}
    {backends : List Remote.Backend}
    (stored : List.Forall₂ (Backend.StoredAs healthChecks) config.withDefaults.backends.entries
      backends) {l : Listener} (hl : l ∈ config.listeners.entries) :
    ∃ reference, l.RefersTo backends reference := by
  obtain ⟨name, known, b, hb, named⟩ := State.listener_reference decided valid hl
  have planned : b.withDefaults ∈ config.withDefaults.backends.entries := by
    rw [(entries_withDefaults config).2.2.2]
    exact List.mem_map_of_mem hb
  obtain ⟨object, mem, id, reference, -, rfl⟩ := exists_of_forall₂ stored.flip _ planned
  refine ⟨id, _, mem, ?_, rfl⟩
  change l.backend = .known b.name.text
  rw [known, named]
  rfl

/-- The entries of a decided and valid configuration can be stored. -/
theorem exists_stores : ∃ lb, Stores config.withDefaults lb := by
  obtain ⟨sameListeners, -, -, sameBackends⟩ := entries_withDefaults config
  obtain ⟨healthChecks, healthCheckIds, checks⟩ :
      ∃ healthChecks, (healthChecks.map Remote.HealthCheck.id).Nodup ∧
        List.Forall₂ HealthCheck.StoredAs config.withDefaults.healthChecks.entries healthChecks :=
    exists_issued fun p _ => ⟨⟨p.spec.withId, fun _ => rfl⟩, fun id => ⟨id, rfl⟩⟩
  obtain ⟨backends, backendIds, groups⟩ :
      ∃ backends, (backends.map Remote.Backend.id).Nodup ∧ List.Forall₂
        (Backend.StoredAs healthChecks) config.withDefaults.backends.entries backends := by
    refine exists_issued fun p hp => ?_
    rw [sameBackends] at hp
    obtain ⟨b, hb, rfl⟩ := List.mem_map.1 hp
    obtain ⟨reference, refers⟩ := exists_refersTo_healthCheck decided valid checks hb
    exact ⟨⟨(b.withDefaults.spec reference).withId, fun _ => rfl⟩,
      fun id => ⟨id, reference, refers, rfl⟩⟩
  obtain ⟨acls, -, rules⟩ : ∃ acls, (acls.map Remote.Acl.id).Nodup ∧
      List.Forall₂ Acl.StoredAs config.withDefaults.acls.entries acls :=
    exists_issued fun p _ => ⟨⟨p.spec.withId, fun _ => rfl⟩, fun id => ⟨id, rfl⟩⟩
  obtain ⟨listeners, -, ports⟩ : ∃ listeners, (listeners.map Remote.Listener.id).Nodup ∧
      List.Forall₂ (Listener.StoredAs backends) config.withDefaults.listeners.entries
        listeners := by
    refine exists_issued fun l hl => ?_
    rw [sameListeners] at hl
    obtain ⟨reference, refers⟩ := exists_refersTo_backend decided valid groups hl
    exact ⟨⟨(l.spec reference).withId, fun _ => rfl⟩, fun id => ⟨id, reference, refers, rfl⟩⟩
  exact ⟨{ (default : Remote.LoadBalancer) with listeners, acls, healthChecks, backends },
    healthCheckIds, backendIds, checks, groups, rules, ports⟩

/-- Backends and listeners are stored as they are looked up and sent. Entries that were stored and
read back are the same as planned, but for numbers without a default that were left out and for
blank types of targets. -/
theorem stored_unchanged_iff :
    (∀ lb b reference id, healthCheckId lb b = .ok reference →
      b.StoredAs lb.healthChecks ((b.spec reference).withId id)) ∧
    (∀ lb l spec id, listenerSpec lb l = .ok spec → l.StoredAs lb.backends (spec.withId id)) ∧
    (∃ lb, Stores config.withDefaults lb) ∧
    ∀ lb, Stores config.withDefaults lb →
      List.Forall₂ (fun p s => p.changedFrom s = false ↔ p.port.isNull = false)
        config.withDefaults.healthChecks.entries (State.ofRemote lb).healthChecks.entries ∧
      List.Forall₂ Backend.ReadBack
        config.withDefaults.backends.entries (State.ofRemote lb).backends.entries ∧
      List.Forall₂ (fun p s => p.changedFrom s = false ↔ p.priority.isNull = false)
        config.withDefaults.acls.entries (State.ofRemote lb).acls.entries ∧
      List.Forall₂ (fun p s => p.changedFrom s = false ↔ p.port.isNull = false)
        config.withDefaults.listeners.entries (State.ofRemote lb).listeners.entries := by
  refine ⟨fun _ _ _ id found => Backend.storedAs_of_healthCheckId found id,
    fun _ _ _ id sent => Listener.storedAs_of_listenerSpec sent id,
    exists_stores decided valid, fun lb stores => ?_⟩
  obtain ⟨listeners, acls, healthChecks, backends⟩ := entries_withDefaults config
  have decidedBackends := (State.entries_decided decided).2.2.2
  refine ⟨List.forall₂_map_right_iff.2 ?_, List.forall₂_map_right_iff.2 ?_,
    List.forall₂_map_right_iff.2 ?_, List.forall₂_map_right_iff.2 ?_⟩
  · have stored := stores.healthChecks
    rw [healthChecks, List.forall₂_map_left_iff] at stored ⊢
    exact stored.imp fun _ _ h => h.unchanged_iff
  · have stored := stores.backends
    rw [backends, List.forall₂_map_left_iff] at stored ⊢
    exact (List.forall₂_and_left _ _ |>.2 ⟨decidedBackends, stored⟩).imp
      fun _ _ h => h.2.readBack h.1 stores.healthCheckIds
  · exact stores.acls.imp fun _ _ h => h.unchanged_iff
  · exact stores.listeners.imp fun _ _ h => h.unchanged_iff stores.backendIds

end Storing

/-! ### Sample storage -/

/-- A valid configuration. In each collection a number is left out of the second entry, and the
first backend has a blank type of targets. -/
def leavingOut : State where
  id := .null
  name := .known "edge"
  description := .null
  address := .null
  status := .null
  listeners := .known [
    ⟨.null, .known "http", .known 80, .known "http", .known "web", .null⟩,
    ⟨.null, .known "other", .null, .known "tcp", .known "api", .null⟩]
  acls := .known [
    ⟨.null, .known "office", .known "allow", .known "10.0.0.0/8", .known 1, .null⟩,
    ⟨.null, .known "home", .known "deny", .known "192.0.2.0/24", .null, .known ""⟩]
  healthChecks := .known [
    ⟨.null, .known "alive", .known "http", .known 80, .known "/", .null, .null, .null, .known 2⟩,
    ⟨.null, .known "deep", .known "tcp", .null, .null, .known 30, .null, .null, .null⟩]
  backends := .known [
    ⟨.null, .known "web", .known "", .null, .known true, .known "alive",
      .known [⟨.known "nic-1", .null, .known 80⟩]⟩,
    ⟨.null, .known "api", .null, .null, .null, .null,
      .known [⟨.known "nic-2", .null, .known 80⟩, ⟨.known "nic-3", .null, .null⟩]⟩]

/-- The load balancer that holds its entries. -/
def leavingOutStored : Remote.LoadBalancer where
  id := "lb-1"
  name := "edge"
  description := none
  address := none
  status := "running"
  errorMessage := none
  listeners := [⟨"ls-1", some "http", 80, "http", "be-1", none⟩,
    ⟨"ls-2", some "other", 0, "tcp", "be-2", none⟩]
  acls := [⟨"acl-1", "office", "allow", "10.0.0.0/8", 1, none⟩,
    ⟨"acl-2", "home", "deny", "192.0.2.0/24", 0, none⟩]
  healthChecks := [⟨"hc-1", "alive", "http", 80, some "/", 10, 5, 3, 2⟩,
    ⟨"hc-2", "deep", "tcp", 0, none, 30, 5, 3, 3⟩]
  backends := [
    ⟨"be-1", "web", "instance", none, true, some "hc-1", [⟨some "nic-1", none, 80⟩]⟩,
    ⟨"be-2", "api", "instance", none, false, none,
      [⟨some "nic-2", none, 80⟩, ⟨some "nic-3", none, 0⟩]⟩]

/-- The sample can be stored and read back. -/
theorem stores_leavingOut : Stores leavingOut.withDefaults leavingOutStored where
  healthCheckIds := by decide
  backendIds := by decide
  healthChecks := .cons ⟨"hc-1", by decide⟩ (.cons ⟨"hc-2", by decide⟩ .nil)
  backends := .cons ⟨"be-1", some "hc-1", .inr ⟨_, List.mem_cons_self, by decide, rfl⟩, by decide⟩
    (.cons ⟨"be-2", none, .inl ⟨by decide, rfl⟩, by decide⟩ .nil)
  acls := .cons ⟨"acl-1", by decide⟩ (.cons ⟨"acl-2", by decide⟩ .nil)
  listeners := .cons ⟨"ls-1", "be-1", ⟨_, List.mem_cons_self, by decide, rfl⟩, by decide⟩
    (.cons ⟨"ls-2", "be-2", ⟨_, List.mem_cons_of_mem _ List.mem_cons_self, by decide, rfl⟩,
      by decide⟩ .nil)

/-- What is read back of the sample tells the entries with all numbers from the others. -/
theorem stored_unchanged_iff_sample :
    leavingOut.isDecided = true ∧ leavingOut.validate = [] ∧
    Stores leavingOut.withDefaults leavingOutStored ∧
    List.Forall₂ Backend.ReadBack leavingOut.withDefaults.backends.entries
      (State.ofRemote leavingOutStored).backends.entries :=
  have decided : leavingOut.isDecided = true := by decide +kernel
  have valid : leavingOut.validate = [] := by decide +kernel
  ⟨decided, valid, stores_leavingOut,
    ((stored_unchanged_iff decided valid).2.2.2 _ stores_leavingOut).2.1⟩

/-- Entries that were stored and read back need not be the same as planned. In each collection the
entry without a number has changed, and both backends have. -/
theorem stored_changed :
    leavingOut.isDecided = true ∧ leavingOut.validate = [] ∧
    Stores leavingOut.withDefaults leavingOutStored ∧
    let plan := leavingOut.withDefaults
    let state := State.ofRemote leavingOutStored
    List.zipWith HealthCheck.changedFrom plan.healthChecks.entries state.healthChecks.entries =
      [false, true] ∧
    List.zipWith Backend.changedFrom plan.backends.entries state.backends.entries = [true, true] ∧
    List.zipWith (fun p s => targetsChanged p.targets s.targets) plan.backends.entries
      state.backends.entries = [false, true] ∧
    List.zipWith Acl.changedFrom plan.acls.entries state.acls.entries = [false, true] ∧
    List.zipWith Listener.changedFrom plan.listeners.entries state.listeners.entries =
      [false, true] :=
  ⟨by decide +kernel, by decide +kernel, stores_leavingOut, by decide +kernel⟩

end CloudProvision.LoadBalancer
