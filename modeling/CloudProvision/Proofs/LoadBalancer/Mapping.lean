import CloudProvision.LoadBalancer.Mapping
import CloudProvision.Proofs.LoadBalancer.Difference
import CloudProvision.Proofs.LoadBalancer.Step
import Mathlib.Data.List.Nodup

/-!
# Reading back what was sent

An entry of a plan does not differ from the state of the object that was made from it. References
are sent as identifiers and read back as names, and identifiers are distinct, so each name is that
of the object.

## Main results

* `backendName_eq`, `healthCheckName_eq`: the name of the object that an identifier stands for.
* `HealthCheck.changedFrom_spec`, `Acl.changedFrom_spec`, `Listener.changedFrom_spec`: an entry does
  not differ from the object made from it.
* `Backend.targetsTypeChanged_spec`, `Backend.fieldsChanged_update`, `targetsChanged_toRemote`: nor
  do the parts of a backend.
-/

namespace CloudProvision.LoadBalancer

/-! ### References -/

/-- An object is found by its identifier. -/
theorem find?_id_eq {α : Type} {objects : List α} {getId : α → String}
    (distinct : (objects.map getId).Nodup) {x : α} (hx : x ∈ objects) :
    objects.find? (getId · == getId x) = some x := by
  rcases found : objects.find? (getId · == getId x) with - | y
  · simpa using List.find?_eq_none.1 found x hx
  · have same : (getId y == getId x) = true := @List.find?_some _ (getId · == getId x) _ _ found
    rw [List.inj_on_of_nodup_map distinct (List.mem_of_find?_eq_some found) hx (beq_iff_eq.1 same)]

/-- A reference to a backend is read as its name. -/
theorem backendName_eq {lb : Remote.LoadBalancer} (distinct : (lb.backends.map (·.id)).Nodup)
    {b : Remote.Backend} (hb : b ∈ lb.backends) : backendName lb b.id = .known b.name := by
  rw [backendName, find?_id_eq distinct hb]
  rfl

/-- A reference to a health check is read as its name. -/
theorem healthCheckName_eq {lb : Remote.LoadBalancer}
    (distinct : (lb.healthChecks.map (·.id)).Nodup) {h : Remote.HealthCheck}
    (hh : h ∈ lb.healthChecks) : healthCheckName lb (some h.id) = .known h.name := by
  rw [healthCheckName, Option.bind_eq_bind, Option.bind_some, find?_id_eq distinct hh]
  rfl

/-- What is read as a name is a reference to a backend. -/
theorem mem_of_backendName {lb : Remote.LoadBalancer} {id name : String}
    (read : (backendName lb id).key? = some name) : id ∈ lb.backends.map Remote.Backend.id := by
  rcases found : lb.backends.find? (·.id == id) with - | b
  · rw [backendName, found] at read
    cases read
  · have same : (b.id == id) = true := @List.find?_some _ (Remote.Backend.id · == id) _ _ found
    exact List.mem_map.2 ⟨b, List.mem_of_find?_eq_some found, beq_iff_eq.1 same⟩

/-! ### Health checks, ACLs and listeners -/

/-- The numbers of a health check are given. -/
def HealthCheck.isComplete (h : HealthCheck) : Bool :=
  !(h.port.isNull || h.interval.isNull || h.timeout.isNull || h.healthyThreshold.isNull
    || h.unhealthyThreshold.isNull)

/-- A health check does not differ from the one that was made from it. -/
theorem HealthCheck.changedFrom_spec {p : HealthCheck} (complete : p.isComplete = true)
    (id : String) : p.changedFrom (.ofRemote (p.spec.withId id)) = false := by
  simp only [isComplete, Bool.not_eq_true', Bool.or_eq_false_iff] at complete
  obtain ⟨⟨⟨⟨port, interval⟩, timeout⟩, healthy⟩, unhealthy⟩ := complete
  simp only [changedFrom, ofRemote, spec, Remote.HealthCheckSpec.withId, Bool.or_eq_false_iff,
    Attr.changed_text, Attr.changed_nonempty?, Attr.changed_getD port, Attr.changed_getD interval,
    Attr.changed_getD timeout, Attr.changed_getD healthy, Attr.changed_getD unhealthy, and_self]

/-- An ACL does not differ from the one that was made from it. -/
theorem Acl.changedFrom_spec {p : Acl} (priority : p.priority.isNull = false) (id : String) :
    p.changedFrom (.ofRemote (p.spec.withId id)) = false := by
  simp only [changedFrom, ofRemote, spec, Remote.AclSpec.withId, Bool.or_eq_false_iff,
    Attr.changed_text, Attr.changed_nonempty?, Attr.changed_getD priority, and_self]

/-- A listener does not differ from the one that was made from it, with the backend it refers to. -/
theorem Listener.changedFrom_spec {p : Listener} {lb : Remote.LoadBalancer} {backendId : String}
    (port : p.port.isNull = false) (backend : p.backend = backendName lb backendId) (id : String) :
    p.changedFrom (.ofRemote lb ((p.spec backendId).withId id)) = false := by
  simp only [changedFrom, ofRemote, spec, Remote.ListenerSpec.withId, Bool.or_eq_false_iff,
    Attr.changed_text, Attr.changed_nonempty?, Attr.changed_getD port, backend, Attr.changed_self,
    and_self]

/-! ### Backends -/

/-- A health check that can be referred to is read back as it was sent. -/
theorem healthCheckName_of_sent {lb : Remote.LoadBalancer}
    (distinct : (lb.healthChecks.map (·.id)).Nodup) {p : Backend} {reference : Option String}
    (sent : healthCheckId lb p = .ok reference) :
    p.healthCheck.changed (healthCheckName lb reference) = false := by
  rcases healthCheckId_ok sent with ⟨blank, rfl⟩ | ⟨h, hh, rfl, key⟩
  · have read := Attr.changed_nonempty? p.healthCheck
    rw [Attr.nonempty?_eq_key?, blank] at read
    exact read
  · rw [healthCheckName_eq distinct hh, (Attr.key?_eq_some_iff.1 key).1, Attr.changed_self]

/-- The fields of a backend do not differ from those that were updated. -/
theorem Backend.fieldsChanged_update {p : Backend} {lb : Remote.LoadBalancer}
    {reference : Option String} (close : p.closeConnections.isNull = false)
    (healthCheck : p.healthCheck.changed (healthCheckName lb reference) = false)
    (b : Remote.Backend) :
    p.fieldsChanged (.ofRemote lb ((p.update reference).applyTo b)) = false := by
  simp only [fieldsChanged, ofRemote, update, Remote.BackendUpdate.applyTo, Bool.or_eq_false_iff,
    Attr.changed_text, Attr.changed_toOption, Attr.changed_getD close, healthCheck, and_self]

/-- The fields of a backend do not differ from those of the one that was made from it. -/
theorem Backend.fieldsChanged_spec {p : Backend} {lb : Remote.LoadBalancer}
    {reference : Option String} (close : p.closeConnections.isNull = false)
    (healthCheck : p.healthCheck.changed (healthCheckName lb reference) = false) (id : String) :
    p.fieldsChanged (.ofRemote lb ((p.spec reference).withId id)) = false := by
  simp only [fieldsChanged, ofRemote, spec, Remote.BackendSpec.withId, Bool.or_eq_false_iff,
    Attr.changed_text, Attr.changed_toOption, Attr.changed_getD close, healthCheck, and_self]

/-- The type of targets of a backend does not differ from that of the one that was made from it. -/
theorem Backend.targetsTypeChanged_spec {p : Backend} {lb : Remote.LoadBalancer}
    {reference : Option String} (typed : p.targetsType.key?.isSome) (id : String) :
    p.targetsTypeChanged (.ofRemote lb ((p.spec reference).withId id)) = false := by
  obtain ⟨kind, key⟩ := Option.isSome_iff_exists.1 typed
  obtain ⟨known, filled⟩ := Attr.key?_eq_some_iff.1 key
  have sent : (p.spec reference).targetsType = kind := by
    rw [spec, known]
    exact if_neg (ne_true_of_eq_false filled)
  rw [targetsTypeChanged, ofRemote, Remote.BackendSpec.withId, sent, known, Attr.changed_self]

/-! ### Targets -/

/-- A target is the same as the one that was made from it, if its port is given. -/
theorem Target.sameAs_toRemote {t : Target} (port : t.port.isNull = false)
    (decided : t.hasUnknown = false) : t.sameAs (.ofRemote t.toRemote) = true := by
  simp only [hasUnknown, Bool.or_eq_false_iff] at decided
  simp only [sameAs, ofRemote, toRemote, Attr.normalized_nonempty? decided.1.1,
    Attr.normalized_nonempty? decided.1.2, beq_self_eq_true, Bool.and_self, Bool.true_and]
  rcases h : t.port with v | _ | _
  · exact beq_self_eq_true _
  · rw [h] at port
    cases port
  · rw [h] at decided
    cases decided.2

/-- Targets cover each other if they are the same one by one. -/
theorem coveredBy_map {f : Target → Target} {targets : List Target}
    (same : ∀ t ∈ targets, t.sameAs (f t) = true) : coveredBy targets (targets.map f) = true := by
  have equal : (targets.map f).map Target.normalized = targets.map Target.normalized := by
    rw [List.map_map]
    refine List.map_congr_left fun t ht => ?_
    have eq := same t ht
    rw [Target.sameAs_eq, beq_iff_eq] at eq
    exact eq.symm
  rw [coveredBy_iff_subperm, equal]

/-- Targets do not differ from those that were made from them. -/
theorem targetsChanged_toRemote {p : Backend} (decided : p.targets.isUnknown = false)
    (targets : ∀ t ∈ p.targets.entries, t.port.isNull = false ∧ t.hasUnknown = false) :
    targetsChanged p.targets (.known (p.remoteTargets.map Target.ofRemote)) = false := by
  have all : p.targets.entries.filter (!·.hasUnknown) = p.targets.entries :=
    List.filter_eq_self.2 fun t ht => by rw [(targets t ht).2]; rfl
  have read : (Attr.known (p.remoteTargets.map Target.ofRemote)).entries =
      p.targets.entries.map fun t => .ofRemote t.toRemote := List.map_map
  have covered := coveredBy_map fun t ht => Target.sameAs_toRemote (targets t ht).1 (targets t ht).2
  rw [targetsChanged, decided, all, read, covered, List.length_map]
  simp [Attr.isUnknown]

end CloudProvision.LoadBalancer
