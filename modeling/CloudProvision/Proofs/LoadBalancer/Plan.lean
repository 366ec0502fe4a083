import CloudProvision.LoadBalancer.Plan
import CloudProvision.Proofs.LoadBalancer.Difference
import CloudProvision.Proofs.LoadBalancer.Validation
import CloudProvision.Proofs.Pairing
import Mathlib.Data.List.Nodup

/-!
# What a plan takes from its configuration

A plan holds the entries of the configuration with defaults, and with identifiers of the state where
entries correspond. The identifiers do not change which entries correspond: each planned entry is
found in the state by its label.

## Main results

* `State.NoDuplicates.distinctLabels`: the entries of a configuration without duplicates have labels
  of their own.
* `PlannedFrom.byLabel`: planned entries are found by label.
* `planUpdate_healthChecks` and its siblings: the collections of a plan.
-/

namespace CloudProvision.LoadBalancer

open IdentityIndex (label?)

/-! ### Configurations -/

/-- Whether every attribute of a listener is decided. -/
def Listener.isDecided (l : Listener) : Bool :=
  !(l.id.isUnknown || l.name.isUnknown || l.port.isUnknown || l.protocol.isUnknown
    || l.backend.isUnknown || l.certificateId.isUnknown)

/-- Whether every attribute of an ACL is decided. -/
def Acl.isDecided (a : Acl) : Bool :=
  !(a.id.isUnknown || a.name.isUnknown || a.action.isUnknown || a.cidr.isUnknown
    || a.priority.isUnknown || a.description.isUnknown)

/-- Whether every attribute of a health check is decided. -/
def HealthCheck.isDecided (h : HealthCheck) : Bool :=
  !(h.id.isUnknown || h.name.isUnknown || h.protocol.isUnknown || h.port.isUnknown
    || h.path.isUnknown || h.interval.isUnknown || h.timeout.isUnknown
    || h.healthyThreshold.isUnknown || h.unhealthyThreshold.isUnknown)

/-- Whether every attribute of a backend is decided. -/
def Backend.isDecided (b : Backend) : Bool :=
  !(b.id.isUnknown || b.name.isUnknown || b.targetsType.isUnknown || b.panicThreshold.isUnknown
    || b.closeConnections.isUnknown || b.healthCheck.isUnknown || b.targets.isUnknown
    || b.targets.entries.any Target.hasUnknown)

/-- Whether every attribute of a load balancer is decided. -/
def State.isDecided (s : State) : Bool :=
  !(s.id.isUnknown || s.name.isUnknown || s.description.isUnknown || s.address.isUnknown
    || s.status.isUnknown || s.listeners.isUnknown || s.acls.isUnknown || s.healthChecks.isUnknown
    || s.backends.isUnknown)
  && s.listeners.entries.all Listener.isDecided && s.acls.entries.all Acl.isDecided
  && s.healthChecks.entries.all HealthCheck.isDecided && s.backends.entries.all Backend.isDecided

/-- Whether no nested object of a load balancer has an identifier. -/
def State.hasNoIds (s : State) : Bool :=
  s.listeners.entries.all (·.id.key?.isNone) && s.acls.entries.all (·.id.key?.isNone)
  && s.healthChecks.entries.all (·.id.key?.isNone) && s.backends.entries.all (·.id.key?.isNone)

/-- A configuration that is accepted: nothing is undecided or wrong, and the identifiers are left to
the cloud. -/
structure State.Accepted (s : State) : Prop where
  decided : s.isDecided = true
  bare : s.hasNoIds = true
  valid : s.validate = []

instance (s : State) : Decidable s.Accepted :=
  decidable_of_iff (s.isDecided = true ∧ s.hasNoIds = true ∧ s.validate = [])
    ⟨fun h => ⟨h.1, h.2.1, h.2.2⟩, fun h => ⟨h.decided, h.bare, h.valid⟩⟩

/-- No entry of a load balancer is a duplicate of another one of its collection. -/
structure State.NoDuplicates (s : State) : Prop where
  listeners : duplicates "listeners" s.listeners.entries = []
  acls : duplicates "acls" s.acls.entries = []
  healthChecks : duplicates "health_checks" s.healthChecks.entries = []
  backends : duplicates "backends" s.backends.entries = []

instance (s : State) : Decidable s.NoDuplicates :=
  decidable_of_iff (duplicates "listeners" s.listeners.entries = [] ∧
      duplicates "acls" s.acls.entries = [] ∧
      duplicates "health_checks" s.healthChecks.entries = [] ∧
      duplicates "backends" s.backends.entries = [])
    ⟨fun ⟨l, a, h, b⟩ => ⟨l, a, h, b⟩, fun h => ⟨h.listeners, h.acls, h.healthChecks, h.backends⟩⟩

/-- The identifiers of a load balancer are given once in each collection. Blank ones do not
count. -/
structure State.DistinctIds (s : State) : Prop where
  listeners : CloudProvision.DistinctIds s.listeners.entries
  acls : CloudProvision.DistinctIds s.acls.entries
  healthChecks : CloudProvision.DistinctIds s.healthChecks.entries
  backends : CloudProvision.DistinctIds s.backends.entries

instance (s : State) : Decidable s.DistinctIds :=
  decidable_of_iff (CloudProvision.DistinctIds s.listeners.entries ∧
      CloudProvision.DistinctIds s.acls.entries ∧
      CloudProvision.DistinctIds s.healthChecks.entries ∧
      CloudProvision.DistinctIds s.backends.entries)
    ⟨fun ⟨l, a, h, b⟩ => ⟨l, a, h, b⟩, fun h => ⟨h.listeners, h.acls, h.healthChecks, h.backends⟩⟩

/-- The labels of a load balancer are given once in each collection. -/
structure State.DistinctLabels (s : State) : Prop where
  listeners : CloudProvision.DistinctLabels s.listeners.entries
  acls : CloudProvision.DistinctLabels s.acls.entries
  healthChecks : CloudProvision.DistinctLabels s.healthChecks.entries
  backends : CloudProvision.DistinctLabels s.backends.entries

/-! ### Labels of their own -/

/-- What tells an entry with a decided name from the others is its label. -/
theorem distinction?_eq {α : Type} [Identified α] {x : α}
    (decided : (Identified.name x).isUnknown = false) :
    distinction? x = (label? x).map (Sum.elim .name .naturalKey) := by
  rw [distinction?, label?, Attr.key?]
  rcases h : (Identified.name x).normalized with name | _ | _
  · rfl
  · cases Identified.naturalKey x <;> rfl
  · rw [← Attr.isUnknown_normalized, h] at decided
    cases decided

/-- The labels of the entries of an accepted list are their own, where they have one. -/
theorem distinctLabels_of_duplicates {α : Type} [Identified α] {collection : String}
    {entries : List α} (h : duplicates collection entries = [])
    (decided : ∀ x ∈ entries, (Identified.name x).isUnknown = false) :
    DistinctLabels entries := by
  have distinct := nodup_of_duplicates h
  have same : entries.filterMap distinction? =
      (entries.filterMap label?).map (Sum.elim .name .naturalKey) := by
    rw [List.map_filterMap]
    exact List.filterMap_congr fun x hx => distinction?_eq (decided x hx)
  rw [same] at distinct
  exact distinct.of_map

/-! ### Carried identifiers -/

/-- Setting the identifier of an entry changes nothing else that is looked at. -/
structure SetsId {α : Type} [Reconcilable α] (setId : α → Attr String → α) : Prop where
  id : ∀ x a, Identified.id (setId x a) = a
  label? : ∀ x a, label? (setId x a) = label? x
  changedFrom : ∀ x a y,
    Reconcilable.changedFrom (setId x a) y = Reconcilable.changedFrom x y

theorem setsId_listener : SetsId fun (l : Listener) id => { l with id := id } :=
  ⟨fun _ _ => rfl, fun _ _ => rfl, fun _ _ _ => rfl⟩

theorem setsId_acl : SetsId fun (a : Acl) id => { a with id := id } :=
  ⟨fun _ _ => rfl, fun _ _ => rfl, fun _ _ _ => rfl⟩

theorem setsId_healthCheck : SetsId fun (h : HealthCheck) id => { h with id := id } :=
  ⟨fun _ _ => rfl, fun _ _ => rfl, fun _ _ _ => rfl⟩

theorem setsId_backend : SetsId fun (b : Backend) id => { b with id := id } :=
  ⟨fun _ _ => rfl, fun _ _ => rfl, fun _ _ _ => rfl⟩

/-- A planned collection: the configured entries with identifiers that they carry over from the
state, or without one where they are made again. -/
def PlannedFrom {α : Type} [Reconcilable α] (setId : α → Attr String → α)
    (config state plan : List α) : Prop :=
  ∃ a : α → Attr String, plan = config.map (fun c => setId c (a c)) ∧
    ∀ c, a c = .unknown ∨ a c = carriedId (.ofList state) c

/-- The identifier of a configured entry in a plan: the one that it carries over, unless it is made
again in place of the entry of the state. -/
def plannedId {α : Type} [Identified α] (setId : α → Attr String → α) (again : α → α → Bool)
    (index : IdentityIndex α) (c : α) : Attr String :=
  if (index.find? (setId c (carriedId index c))).any (again c) then .unknown
  else carriedId index c

theorem plannedId_eq {α : Type} [Identified α] (setId : α → Attr String → α) (again : α → α → Bool)
    (index : IdentityIndex α) (c : α) :
    plannedId setId again index c = .unknown ∨
      plannedId setId again index c = carriedId index c := by
  rw [plannedId]
  split
  · exact .inl rfl
  · exact .inr rfl

/-- A planned collection, with the identifier of each entry. -/
def Carries {α : Type} [Reconcilable α] (setId : α → Attr String → α) (again : α → α → Bool)
    (config state plan : List α) : Prop :=
  plan = config.map fun c => setId c (plannedId setId again (.ofList state) c)

/-- The entries of a state that have identifiers of their own. -/
structure OwnIds {α : Type} [Identified α] (state : List α) : Prop where
  distinct : (state.map Identified.id).Nodup
  present : ∀ x ∈ state, (Identified.id x).key?.isSome

instance {α : Type} [Identified α] (state : List α) : Decidable (OwnIds state) :=
  decidable_of_iff ((state.map Identified.id).Nodup ∧ ∀ x ∈ state, (Identified.id x).key?.isSome)
    ⟨fun ⟨distinct, present⟩ => ⟨distinct, present⟩, fun h => ⟨h.distinct, h.present⟩⟩

/-- Identifiers of their own are distinct. -/
theorem OwnIds.distinctIds {α : Type} [Identified α] {state : List α} (h : OwnIds state) :
    DistinctIds state := by
  have keys : state.filterMap (fun x => (Identified.id x).key?) =
      (state.map Identified.id).filterMap Attr.key? := by
    rw [List.filterMap_map]
    rfl
  rw [DistinctIds, keys]
  refine h.distinct.filterMap fun a b k ha hb => ?_
  rw [(Attr.key?_eq_some_iff.1 ha).1, (Attr.key?_eq_some_iff.1 hb).1]

section Carried

variable {α : Type} [Reconcilable α] {setId : α → Attr String → α} {config state plan : List α}

/-- Without an entry of the state there is no identifier to carry over. -/
theorem carriedId_of_locate?_eq_none {c : α}
    (none : (IdentityIndex.ofList state).locate? c = none) :
    carriedId (.ofList state) c = .unknown := by
  rw [carriedId, IdentityIndex.find?, none]
  rfl

/-- The identifier of an entry of the state is carried over if it is not blank. -/
theorem carriedId_of_locate? {c : α} {q : Placed α}
    (found : (IdentityIndex.ofList state).locate? c = some q) :
    carriedId (.ofList state) c =
      if (Identified.id q.entry).key?.isSome then Identified.id q.entry else .unknown := by
  rw [carriedId, IdentityIndex.find?, found, ← Attr.isPresent_eq]
  rfl

/-- An entry is found where it was, by the identifier that it carries over or by its label if it had
none before either. The identifier that it had, if any, is one of the state. -/
theorem locate?_setId (lawful : SetsId setId) (ids : DistinctIds state) {c : α} {a : Attr String}
    (taken : (Identified.id c).key?.isSome →
      ∃ x ∈ state, (Identified.id x).key? = (Identified.id c).key?)
    (carried : a = carriedId (.ofList state) c ∨
      (a = .unknown ∧ (Identified.id c).key? = none)) :
    (IdentityIndex.ofList state).locate? (setId c a) = (IdentityIndex.ofList state).locate? c := by
  have byLabel (unknown : a = .unknown) (bare : (Identified.id c).key? = none) :
      (IdentityIndex.ofList state).locate? (setId c a) =
        (IdentityIndex.ofList state).locate? c := by
    rw [IdentityIndex.locate?_of_key?_eq_none bare, IdentityIndex.locate?_of_key?_eq_none,
      lawful.label?]
    rw [lawful.id, unknown]
    rfl
  have byId {k : String} (key : (Identified.id c).key? = some k) :
      ∃ q, (IdentityIndex.ofList state).locate? c = some q ∧
        (Identified.id q.entry).key? = some k := by
    obtain ⟨x, mem, same⟩ := taken (Option.isSome_iff_exists.2 ⟨k, key⟩)
    exact IdentityIndex.locate?_of_key? mem key (same.trans key)
  rcases found : (IdentityIndex.ofList state).locate? c with - | q
  · have bare : (Identified.id c).key? = none := by
      refine Option.eq_none_iff_forall_ne_some.2 fun k key => ?_
      obtain ⟨q, there, -⟩ := byId key
      cases found.symm.trans there
    have unknown : a = .unknown :=
      carried.elim (·.trans (carriedId_of_locate?_eq_none found)) And.left
    exact (byLabel unknown bare).trans found
  · rcases carried with carried | ⟨unknown, bare⟩
    · rw [carriedId_of_locate? found] at carried
      split at carried
      · next present =>
        obtain ⟨k, there⟩ := Option.isSome_iff_exists.1 present
        have mem := IdentityIndex.mem_of_locate? found
        have key : (Identified.id (setId c a)).key? = some k := by rw [lawful.id, carried, there]
        obtain ⟨q', found', there'⟩ :=
          IdentityIndex.locate?_of_key? (Placed.entry_mem mem) key there
        rw [found', Placed.eq_of_nodup_filterMap ids (IdentityIndex.mem_of_locate? found') mem
          there' there]
      · next absent =>
        have bare : (Identified.id c).key? = none := by
          refine Option.eq_none_iff_forall_ne_some.2 fun k key => ?_
          obtain ⟨q', there, same⟩ := byId key
          obtain rfl := Option.some.inj (found.symm.trans there)
          exact absent (Option.isSome_iff_exists.2 ⟨k, same⟩)
        exact (byLabel carried bare).trans found
    · exact (byLabel unknown bare).trans found

/-- The same for an entry without an identifier. -/
theorem locate?_setId_of_bare (lawful : SetsId setId) (ids : DistinctIds state) {c : α}
    {a : Attr String} (bare : (Identified.id c).key? = none)
    (carried : a = .unknown ∨ a = carriedId (.ofList state) c) :
    (IdentityIndex.ofList state).locate? (setId c a) = (IdentityIndex.ofList state).locate? c := by
  refine locate?_setId lawful ids (fun present => ?_) (carried.symm.imp_right fun h => ⟨h, bare⟩)
  simp [bare] at present

/-- A planned collection holds the configured entries with the identifiers that they carry over, but
for those that are made again. -/
theorem Carries.plannedFrom {again : α → α → Bool} (h : Carries setId again config state plan) :
    PlannedFrom setId config state plan :=
  ⟨plannedId setId again (.ofList state), h, plannedId_eq setId again _⟩

/-- A planned entry is a configured one with another identifier. -/
theorem PlannedFrom.exists_of_mem (h : PlannedFrom setId config state plan) {p : α}
    (hp : p ∈ plan) :
    ∃ c ∈ config, ∃ a, p = setId c a := by
  obtain ⟨a, rfl, -⟩ := h
  obtain ⟨c, hc, rfl⟩ := List.mem_map.1 hp
  exact ⟨c, hc, a c, rfl⟩

/-- Every configured entry is planned. -/
theorem PlannedFrom.exists_mem (h : PlannedFrom setId config state plan) {c : α} (hc : c ∈ config) :
    ∃ a, setId c a ∈ plan := by
  obtain ⟨a, rfl, -⟩ := h
  exact ⟨a c, List.mem_map_of_mem hc⟩

/-- Planned entries are found in the state by their labels. -/
theorem PlannedFrom.found (h : PlannedFrom setId config state plan) (lawful : SetsId setId)
    (ids : OwnIds state) (bare : ∀ c ∈ config, (Identified.id c).key? = none) :
    Changes.FoundByLabel plan state := by
  obtain ⟨a, rfl, carried⟩ := h
  intro p hp
  obtain ⟨c, hc, rfl⟩ := List.mem_map.1 hp
  rw [locate?_setId_of_bare lawful ids.distinctIds (bare c hc) (carried c),
    IdentityIndex.locate?_of_key?_eq_none (bare c hc), lawful.label?]

/-- Planned entries have the labels of the configured ones. -/
theorem PlannedFrom.map_label? (h : PlannedFrom setId config state plan) (lawful : SetsId setId) :
    plan.map label? = config.map label? := by
  obtain ⟨a, rfl, -⟩ := h
  rw [List.map_map]
  exact List.map_congr_left fun c _ => lawful.label? c (a c)

/-- Planned entries whose labels are their own are found in the state by them. -/
theorem PlannedFrom.byLabel (h : PlannedFrom setId config state plan) (lawful : SetsId setId)
    (ids : OwnIds state) (bare : ∀ c ∈ config, (Identified.id c).key? = none)
    (distinct : (config.map label?).Nodup) (labelled : ∀ c ∈ config, (label? c).isSome) :
    Changes.ByLabel plan state := by
  have labels := h.map_label? lawful
  constructor
  · rw [labels]
    exact distinct
  · intro p hp
    have mem : label? p ∈ config.map label? := labels ▸ List.mem_map_of_mem hp
    obtain ⟨c, hc, same⟩ := List.mem_map.1 mem
    exact same ▸ labelled c hc
  · exact h.found lawful ids bare

end Carried

/-! ### The collections of a plan -/

section PlanUpdate

variable {prior config : State}

theorem entries_map {α β : Type} (x : Attr (List α)) (f : α → β) :
    (x.map (·.map f)).entries = x.entries.map f := by
  cases x <;> rfl

theorem entries_orDefault {α : Type} (x : Attr (List α)) :
    (orDefault x []).entries = x.entries := by
  cases x <;> rfl

theorem entries_withDefaults (config : State) :
    config.withDefaults.listeners.entries = config.listeners.entries ∧
      config.withDefaults.acls.entries = config.acls.entries ∧
      config.withDefaults.healthChecks.entries =
        config.healthChecks.entries.map HealthCheck.withDefaults ∧
      config.withDefaults.backends.entries = config.backends.entries.map Backend.withDefaults := by
  simp only [State.withDefaults, entries_orDefault, entries_map, and_self]

/-- A collection in which nothing is made again carries its identifiers. -/
theorem carries_carryIds {α : Type} [Reconcilable α] (setId : α → Attr String → α)
    (config prior : Attr (List α)) :
    Carries setId (fun _ _ => false) config.entries prior.entries
      (carryIds setId config prior).entries := by
  have kept (c : α) : plannedId setId (fun _ _ => false) (.ofList prior.entries) c =
      carriedId (.ofList prior.entries) c := by
    rw [plannedId, Option.any_false]
    rfl
  rw [Carries, carryIds, entries_map]
  exact List.map_congr_left fun c _ => by rw [kept]

theorem carries_listeners : Carries (fun (l : Listener) id => { l with id := id })
    (fun _ _ => false) config.withDefaults.listeners.entries prior.listeners.entries
    (prior.planUpdate config).listeners.entries :=
  carries_carryIds _ _ _

theorem carries_acls : Carries (fun (a : Acl) id => { a with id := id })
    (fun _ _ => false) config.withDefaults.acls.entries prior.acls.entries
    (prior.planUpdate config).acls.entries :=
  carries_carryIds _ _ _

theorem carries_healthChecks : Carries (fun (h : HealthCheck) id => { h with id := id })
    (fun _ _ => false) config.withDefaults.healthChecks.entries prior.healthChecks.entries
    (prior.planUpdate config).healthChecks.entries :=
  carries_carryIds _ _ _

/-- Backends with another type of targets are made again. -/
theorem carries_backends : Carries (fun (b : Backend) id => { b with id := id })
    Backend.targetsTypeChanged config.withDefaults.backends.entries prior.backends.entries
    (prior.planUpdate config).backends.entries := by
  let setId (b : Backend) (id : Attr String) : Backend := { b with id := id }
  let index := IdentityIndex.ofList prior.backends.entries
  have renew (b : Backend) : Backend.renew index (setId b (carriedId index b)) =
      setId b (plannedId setId Backend.targetsTypeChanged index b) := by
    rw [Backend.renew, plannedId, apply_ite (setId b)]
    rfl
  have entries : (prior.planUpdate config).backends.entries =
      ((carryIds setId config.withDefaults.backends prior.backends).map
        (·.map (Backend.renew index))).entries := rfl
  rw [Carries, entries, entries_map, carryIds, entries_map, List.map_map]
  exact List.map_congr_left fun b _ => renew b

theorem planUpdate_listeners : PlannedFrom (fun (l : Listener) id => { l with id := id })
    config.listeners.entries prior.listeners.entries
    (prior.planUpdate config).listeners.entries :=
  (entries_withDefaults config).1 ▸ carries_listeners.plannedFrom

theorem planUpdate_acls : PlannedFrom (fun (a : Acl) id => { a with id := id })
    config.acls.entries prior.acls.entries (prior.planUpdate config).acls.entries :=
  (entries_withDefaults config).2.1 ▸ carries_acls.plannedFrom

theorem planUpdate_healthChecks : PlannedFrom (fun (h : HealthCheck) id => { h with id := id })
    (config.healthChecks.entries.map HealthCheck.withDefaults) prior.healthChecks.entries
    (prior.planUpdate config).healthChecks.entries :=
  (entries_withDefaults config).2.2.1 ▸ carries_healthChecks.plannedFrom

/-- Backends that are made again do not carry an identifier. -/
theorem planUpdate_backends : PlannedFrom (fun (b : Backend) id => { b with id := id })
    (config.backends.entries.map Backend.withDefaults) prior.backends.entries
    (prior.planUpdate config).backends.entries :=
  (entries_withDefaults config).2.2.2 ▸ carries_backends.plannedFrom

/-- The collections of a decided configuration are decided. -/
theorem State.isDecided_collections (h : config.isDecided = true) :
    config.listeners.isUnknown = false ∧ config.acls.isUnknown = false ∧
      config.healthChecks.isUnknown = false ∧ config.backends.isUnknown = false := by
  simp only [State.isDecided, Bool.and_eq_true, Bool.not_eq_true', Bool.or_eq_false_iff] at h
  obtain ⟨⟨⟨⟨⟨⟨⟨⟨-, listeners⟩, acls⟩, healthChecks⟩, backends⟩, -⟩, -⟩, -⟩, -⟩ := h
  exact ⟨listeners, acls, healthChecks, backends⟩

/-- What is compared of a decided plan is all of it. -/
theorem collections_eq {α : Type} {plan state : Attr (List α)} (h : plan.isUnknown = false) :
    collections plan state = (plan.entries, state.entries) := by
  rw [collections, h]
  rfl

/-- The planned collections of a decided configuration are decided. -/
theorem planUpdate_isDecided (h : config.isDecided = true) :
    (prior.planUpdate config).listeners.isUnknown = false ∧
      (prior.planUpdate config).acls.isUnknown = false ∧
      (prior.planUpdate config).healthChecks.isUnknown = false ∧
      (prior.planUpdate config).backends.isUnknown = false := by
  have map {α β : Type} {x : Attr α} {f : α → β} (h : x.isUnknown = false) :
      (x.map f).isUnknown = false := by
    cases x <;> simp_all [Attr.map, Attr.isUnknown]
  have default {α : Type} {x : Attr α} {y : α} (h : x.isUnknown = false) :
      (orDefault x y).isUnknown = false := by
    cases x <;> simp_all [orDefault, Attr.orElse, Attr.isUnknown]
  obtain ⟨listeners, acls, healthChecks, backends⟩ := State.isDecided_collections h
  exact ⟨map (default listeners), map (default acls), map (default (map healthChecks)),
    map (map (default (map backends)))⟩

/-- What differs between a plan and its prior state, as all of both is compared. -/
theorem between_planUpdate (h : config.isDecided = true) :
    let plan := prior.planUpdate config
    (Difference.between plan prior).healthChecks =
        .between plan.healthChecks.entries prior.healthChecks.entries ∧
      (Difference.between plan prior).backends =
        .between plan.backends.entries prior.backends.entries ∧
      (Difference.between plan prior).acls = .between plan.acls.entries prior.acls.entries ∧
      (Difference.between plan prior).listeners =
        !(Changes.between plan.listeners.entries prior.listeners.entries).isEmpty := by
  obtain ⟨listeners, acls, healthChecks, backends⟩ := @planUpdate_isDecided prior config h
  simp only [Difference.between, collections_eq listeners, collections_eq acls,
    collections_eq healthChecks, collections_eq backends, and_self]

end PlanUpdate

/-! ### Decided configurations -/

namespace State

variable {config : State}

/-- The name and the description of a decided configuration are decided. -/
theorem topLevel_decided (decided : config.isDecided = true) :
    config.name.isUnknown = false ∧ config.description.isUnknown = false := by
  simp only [State.isDecided, Bool.and_eq_true, Bool.not_eq_true', Bool.or_eq_false_iff] at decided
  exact ⟨decided.1.1.1.1.1.1.1.1.1.1.1.2, decided.1.1.1.1.1.1.1.1.1.1.2⟩

/-- The entries of each collection of a decided configuration are decided. -/
theorem entries_decided (decided : config.isDecided = true) :
    (∀ l ∈ config.listeners.entries, l.isDecided = true) ∧
      (∀ a ∈ config.acls.entries, a.isDecided = true) ∧
      (∀ c ∈ config.healthChecks.entries, c.isDecided = true) ∧
      ∀ b ∈ config.backends.entries, b.isDecided = true := by
  simp only [State.isDecided, Bool.and_eq_true, List.all_eq_true] at decided
  exact ⟨decided.1.1.1.2, decided.1.1.2, decided.1.2, decided.2⟩

/-- The names of the entries of a decided configuration are decided. -/
theorem names_decided (decided : config.isDecided = true) :
    (∀ l ∈ config.listeners.entries, l.name.isUnknown = false) ∧
      (∀ a ∈ config.acls.entries, a.name.isUnknown = false) ∧
      (∀ c ∈ config.healthChecks.entries, c.name.isUnknown = false) ∧
      ∀ b ∈ config.backends.entries, b.name.isUnknown = false := by
  obtain ⟨listeners, acls, healthChecks, backends⟩ := entries_decided decided
  refine ⟨?_, ?_, ?_, ?_⟩
  · intro l hl
    have := listeners l hl
    simp only [Listener.isDecided, Bool.not_eq_true', Bool.or_eq_false_iff] at this
    exact this.1.1.1.1.2
  · intro a ha
    have := acls a ha
    simp only [Acl.isDecided, Bool.not_eq_true', Bool.or_eq_false_iff] at this
    exact this.1.1.1.1.2
  · intro c hc
    have := healthChecks c hc
    simp only [HealthCheck.isDecided, Bool.not_eq_true', Bool.or_eq_false_iff] at this
    exact this.1.1.1.1.1.1.1.2
  · intro b hb
    have := backends b hb
    simp only [Backend.isDecided, Bool.not_eq_true', Bool.or_eq_false_iff] at this
    exact this.1.1.1.1.1.1.2

/-- No entry of a valid configuration is a duplicate. -/
theorem noDuplicates_of_valid (valid : config.validate = []) : config.NoDuplicates := by
  simp only [State.validate, List.append_eq_nil_iff] at valid
  exact ⟨valid.1.1.2, valid.1.1.1.2, valid.1.1.1.1.1.2, valid.1.1.1.1.2⟩

/-- The entries of a decided configuration without duplicates have labels of their own. -/
theorem NoDuplicates.distinctLabels (h : config.NoDuplicates) (decided : config.isDecided = true) :
    config.DistinctLabels := by
  obtain ⟨listeners, acls, healthChecks, backends⟩ := names_decided decided
  exact ⟨distinctLabels_of_duplicates h.listeners listeners,
    distinctLabels_of_duplicates h.acls acls,
    distinctLabels_of_duplicates h.healthChecks healthChecks,
    distinctLabels_of_duplicates h.backends backends⟩

/-- The entries of an accepted configuration have labels of their own. -/
theorem Accepted.distinctLabels (h : config.Accepted) : config.DistinctLabels :=
  (noDuplicates_of_valid h.valid).distinctLabels h.decided

/-- A name that a decided collection defines is that of one of its entries. -/
theorem exists_of_defines {α : Type} [Identified α] {collection : Attr (List α)} {name : String}
    (decided : collection.isUnknown = false) (defined : Defines collection name) :
    ∃ x ∈ collection.entries, Identified.name x = .known name := by
  rcases defined with undecided | found
  · rw [undecided] at decided
    cases decided
  · exact found

/-- Every listener of a decided and valid configuration refers to a backend. -/
theorem listener_reference (decided : config.isDecided = true) (valid : config.validate = [])
    {l : Listener} (hl : l ∈ config.listeners.entries) :
    ∃ name, l.backend = .known name ∧ ∃ b ∈ config.backends.entries, b.name = .known name := by
  have wellFormed := (config.validate_eq_nil_iff.1 valid).listeners l hl
  have known : l.backend.isUnknown = false := by
    have := (entries_decided decided).1 l hl
    simp only [Listener.isDecided, Bool.not_eq_true', Bool.or_eq_false_iff] at this
    exact this.1.2
  rcases reference : l.backend with name | _ | _
  · exact ⟨name, rfl, exists_of_defines (isDecided_collections decided).2.2.2
      (wellFormed.reference name reference)⟩
  · exact absurd reference wellFormed.backend
  · rw [reference] at known
    cases known

/-- A backend of a decided and valid configuration refers to a health check, if to anything. -/
theorem backend_reference (decided : config.isDecided = true) (valid : config.validate = [])
    {b : Backend} (hb : b ∈ config.backends.entries) {name : String}
    (reference : b.healthCheck.key? = some name) :
    ∃ c ∈ config.healthChecks.entries, c.name = .known name := by
  have wellFormed := (config.validate_eq_nil_iff.1 valid).backends b hb
  obtain ⟨known, filled⟩ := Attr.key?_eq_some_iff.1 reference
  exact exists_of_defines (isDecided_collections decided).2.2.1
    (wellFormed.healthCheck name known fun blank => by simp [blank] at filled)

end State

/-! ### References of a plan -/

section Planned

variable {prior config : State} (decided : config.isDecided = true)

include decided

/-- Every planned listener refers to a planned backend. -/
theorem planned_listener_reference (valid : config.validate = []) {l : Listener}
    (hl : l ∈ (prior.planUpdate config).listeners.entries) :
    ∃ name, l.backend = .known name ∧
      ∃ b ∈ (prior.planUpdate config).backends.entries, b.name = .known name := by
  obtain ⟨l, mem, a, rfl⟩ := planUpdate_listeners.exists_of_mem hl
  obtain ⟨name, reference, b, hb, named⟩ := State.listener_reference decided valid mem
  obtain ⟨a', planned⟩ := planUpdate_backends.exists_mem (List.mem_map_of_mem hb)
  exact ⟨name, reference, _, planned, named⟩

/-- A planned backend refers to a planned health check, if to anything. -/
theorem planned_backend_reference (valid : config.validate = []) {b : Backend}
    (hb : b ∈ (prior.planUpdate config).backends.entries) {name : String}
    (reference : b.healthCheck.key? = some name) :
    ∃ c ∈ (prior.planUpdate config).healthChecks.entries, c.name = .known name := by
  obtain ⟨c, mem, a, rfl⟩ := planUpdate_backends.exists_of_mem hb
  obtain ⟨b, configured, rfl⟩ := List.mem_map.1 mem
  obtain ⟨c, hc, named⟩ := State.backend_reference decided valid configured reference
  obtain ⟨a', planned⟩ := planUpdate_healthChecks.exists_mem (List.mem_map_of_mem hc)
  exact ⟨_, planned, named⟩

/-- It is decided which health check a planned backend refers to. -/
theorem planned_backend_decided {b : Backend}
    (hb : b ∈ (prior.planUpdate config).backends.entries) : b.healthCheck.isUnknown = false := by
  obtain ⟨c, mem, a, rfl⟩ := planUpdate_backends.exists_of_mem hb
  obtain ⟨b, configured, rfl⟩ := List.mem_map.1 mem
  have entry := (State.entries_decided decided).2.2.2 b configured
  simp only [Backend.isDecided, Bool.not_eq_true', Bool.or_eq_false_iff] at entry
  exact entry.1.1.2

end Planned

end CloudProvision.LoadBalancer
