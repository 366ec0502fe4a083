import CloudProvision.Proofs.LoadBalancer.Plan

/-!
# The identifiers of a plan

The plan of a change gives each entry the identifier of the entry of the prior state that it
corresponds to, if there is one and it is not made again. For a configuration without identifiers
this is what the difference to the prior state makes of it, although that finds planned entries by
these identifiers and the configured ones by their labels. With identifiers in the configuration two
entries can get the same one: the entry of the state that has it, and one that has its old name.

## Main definitions

* `Foretells`: identifiers that say which entries are kept and which ones are made.
* `Assigns`: identifiers that are given once, unless an entry of the state is contested.

## Main results

* `planUpdate_foretells`: what the identifiers of a plan say.
* `planUpdate_assigns`: when a plan gives no two entries the same identifier.
* `planUpdate_shares`: that it may do so.
-/

namespace CloudProvision.LoadBalancer

/-! ### Where identifiers come from -/

section Collection

variable {α : Type} [Reconcilable α] {setId : α → Attr String → α} {again : α → α → Bool}
  {config state plan : List α}

/-- A known identifier of a plan is the one of the entry of the state that the configured entry
corresponds to. -/
theorem exists_of_plannedId_eq_known {c : α} {id : String}
    (h : plannedId setId again (.ofList state) c = .known id) :
    ∃ q, (IdentityIndex.ofList state).locate? c = some q ∧
      (Identified.id q.entry).key? = some id := by
  have carried : carriedId (.ofList state) c = .known id := by
    rcases plannedId_eq setId again (.ofList state) c with renewed | carried
    · cases renewed.symm.trans h
    · exact carried.symm.trans h
  rcases found : (IdentityIndex.ofList state).locate? c with - | q
  · rw [carriedId_of_locate?_eq_none found] at carried
    cases carried
  · rw [carriedId_of_locate? found] at carried
    split at carried
    · next present =>
        obtain ⟨there, key⟩ := Option.isSome_iff_exists.1 present
        have same := (Attr.key?_eq_some_iff.1 key).1.symm.trans carried
        exact ⟨q, rfl, Attr.known.inj same ▸ key⟩
    · cases carried

/-! ### What the identifiers say -/

/-- A planned entry has a known identifier exactly if it is kept: it is in a pair with the entry of
the state that has the identifier, and not made again. Its identifier is undecided exactly if it is
made: it is new, or made again. -/
structure Foretells (recreated : List (Pairing α)) (plan state : List α) : Prop where
  kept : ∀ p ∈ Placed.ofList plan, ∀ id, Identified.id p.entry = .known id ↔
    ∃ m ∈ (Changes.between plan state).matched,
      m.plan = p ∧ Identified.id m.state.entry = .known id ∧ m ∉ recreated
  made : ∀ p ∈ Placed.ofList plan, Identified.id p.entry = .unknown ↔
    p ∈ (Changes.between plan state).added ∨ ∃ m ∈ recreated, m.plan = p

/-- A planned entry corresponds to an entry of the state whose identifier it has, unless it is made
again, or to none. -/
theorem Carries.id_eq (h : Carries setId again config state plan) (lawful : SetsId setId)
    (ids : OwnIds state) (bare : ∀ c ∈ config, (Identified.id c).key? = none)
    (blind : ∀ c id x, again (setId c id) x = again c x) {p : α} (hp : p ∈ plan) :
    ((IdentityIndex.ofList state).locate? p = none ∧ Identified.id p = .unknown) ∨
      ∃ q id, (IdentityIndex.ofList state).locate? p = some q ∧
        Identified.id q.entry = .known id ∧
        Identified.id p = if again p q.entry then .unknown else .known id := by
  obtain ⟨c, hc, rfl⟩ := List.mem_map.1 (h ▸ hp)
  -- Whatever identifier it carries, it is found where the configured entry is found by its label.
  have located (id : Attr String) (carried : id = .unknown ∨ id = carriedId (.ofList state) c) :
      (IdentityIndex.ofList state).locate? (setId c id) =
        (IdentityIndex.ofList state).locate? c :=
    locate?_setId_of_bare lawful ids.distinctIds (bare c hc) carried
  rw [located _ (plannedId_eq setId again _ c), lawful.id]
  rcases found : (IdentityIndex.ofList state).locate? c with - | q
  · left
    rw [plannedId, carriedId_of_locate?_eq_none found, ite_self]
    exact ⟨rfl, rfl⟩
  · right
    have mem := Placed.entry_mem (IdentityIndex.mem_of_locate? found)
    obtain ⟨id, key⟩ := Option.isSome_iff_exists.1 (ids.present _ mem)
    have known := (Attr.key?_eq_some_iff.1 key).1
    have carried : carriedId (.ofList state) c = .known id := by
      rw [carriedId_of_locate? found, key, known]
      rfl
    refine ⟨q, id, rfl, known, ?_⟩
    rw [blind, plannedId, IdentityIndex.find?, located _ (.inr rfl), found, carried,
      Option.map_some, Option.any_some]

/-- The identifiers of a carried collection say what is kept of it, if those of the state are its
own and the configuration has none. -/
theorem Carries.foretells {recreated : List (Pairing α)} (h : Carries setId again config state plan)
    (lawful : SetsId setId) (ids : OwnIds state)
    (bare : ∀ c ∈ config, (Identified.id c).key? = none)
    (blind : ∀ c id x, again (setId c id) x = again c x)
    (replaced : ∀ m, m ∈ recreated ↔ m ∈ (Changes.between plan state).matched ∧
      again m.plan.entry m.state.entry = true) : Foretells recreated plan state := by
  constructor
  · intro p hp id
    rcases h.id_eq lawful ids bare blind (Placed.entry_mem hp) with
      ⟨new, unknown⟩ | ⟨q, there, found, known, same⟩
    · rw [unknown]
      refine iff_of_false (fun h => nomatch h) ?_
      rintro ⟨m, hm, rfl, -⟩
      cases new.symm.trans (Changes.mem_matched.1 hm).2
    · have pair : (⟨p, q⟩ : Pairing α) ∈ (Changes.between plan state).matched :=
        Changes.mem_matched.2 ⟨hp, found⟩
      rw [same]
      constructor
      · intro eq
        split at eq
        · cases eq
        · next keeps =>
            exact ⟨_, pair, rfl, known.trans eq, fun renewed => keeps ((replaced _).1 renewed).2⟩
      · rintro ⟨m, hm, rfl, eq, keeps⟩
        obtain rfl : q = m.state := Option.some.inj (found.symm.trans (Changes.mem_matched.1 hm).2)
        rw [if_neg fun renewed => keeps ((replaced m).2 ⟨hm, renewed⟩), ← known, eq]
  · intro p hp
    rcases h.id_eq lawful ids bare blind (Placed.entry_mem hp) with
      ⟨new, unknown⟩ | ⟨q, there, found, known, same⟩
    · exact iff_of_true unknown (.inl (Changes.mem_added.2 ⟨hp, new⟩))
    · have pair : (⟨p, q⟩ : Pairing α) ∈ (Changes.between plan state).matched :=
        Changes.mem_matched.2 ⟨hp, found⟩
      rw [same]
      constructor
      · intro eq
        split at eq
        · next renewed => exact .inr ⟨_, (replaced _).2 ⟨pair, renewed⟩, rfl⟩
        · cases eq
      · rintro (new | ⟨m, hm, rfl⟩)
        · cases found.symm.trans (Changes.mem_added.1 new).2
        · obtain ⟨matched, renewed⟩ := (replaced m).1 hm
          obtain rfl : q = m.state :=
            Option.some.inj (found.symm.trans (Changes.mem_matched.1 matched).2)
          rw [if_pos renewed]

/-! ### Identifiers that are given once -/

/-- No entry of the state is in the pairs of two configured entries exactly if none is contested,
and then no known identifier is given twice. Nor is an entry of the state in the pairs of two
planned entries, if no entry that has an identifier is made again. -/
structure Assigns (again : α → α → Bool) (config state plan : List α) : Prop where
  pairs : ((Changes.between config state).matched.map Pairing.state).Nodup ↔
    ¬Contested config state
  ids : ¬Contested config state → (plan.filterMap fun x => (Identified.id x).toOption).Nodup
  planned : ¬Contested config state →
    (∀ m ∈ (Changes.between config state).matched,
      (Identified.id m.plan.entry).key?.isSome → again m.plan.entry m.state.entry = false) →
    ((Changes.between plan state).matched.map Pairing.state).Nodup

/-- The identifiers of a configuration are taken from the state. -/
def TakesIds (config state : List α) : Prop :=
  ∀ c ∈ config, (Identified.id c).key?.isSome →
    ∃ x ∈ state, (Identified.id x).key? = (Identified.id c).key?

instance (config state : List α) : Decidable (TakesIds config state) :=
  inferInstanceAs (Decidable (∀ c ∈ config, _ → _))

/-- Planned entries correspond to the entries of the state that the configured ones do, if no entry
that has an identifier is made again. -/
theorem Carries.map_state_matched (h : Carries setId again config state plan)
    (lawful : SetsId setId) (stateIds : DistinctIds state) (taken : TakesIds config state)
    (kept : ∀ m ∈ (Changes.between config state).matched,
      (Identified.id m.plan.entry).key?.isSome → again m.plan.entry m.state.entry = false) :
    (Changes.between plan state).matched.map Pairing.state =
      (Changes.between config state).matched.map Pairing.state := by
  rw [Changes.map_state_matched, Changes.map_state_matched, h, List.filterMap_map]
  refine List.filterMap_congr fun c hc => ?_
  have located (id : Attr String) := @locate?_setId _ _ _ _ lawful stateIds c id (taken c hc)
  refine located _ ?_
  rcases key : (Identified.id c).key? with - | k
  · exact (plannedId_eq setId again _ c).symm.imp_right fun unknown => ⟨unknown, rfl⟩
  · left
    obtain ⟨p, hp, rfl⟩ := Placed.exists_mem_ofList hc
    rw [plannedId, IdentityIndex.find?, located _ (.inl rfl)]
    rcases found : (IdentityIndex.ofList state).locate? p.entry with - | q
    · rfl
    · have keeps : again p.entry q.entry = false :=
        kept ⟨p, q⟩ (Changes.mem_matched.2 ⟨hp, found⟩) (Option.isSome_iff_exists.2 ⟨k, key⟩)
      rw [Option.map_some, Option.any_some, keeps]
      rfl

/-- No known identifier is given twice if the configured entries correspond to entries of their
own. -/
theorem Carries.nodup_ids (h : Carries setId again config state plan) (lawful : SetsId setId)
    (stateIds : DistinctIds state)
    (distinct : ((Changes.between config state).matched.map Pairing.state).Nodup) :
    (plan.filterMap fun x => (Identified.id x).toOption).Nodup := by
  have planned : (plan.filterMap fun x => (Identified.id x).toOption) =
      (Placed.ofList config).filterMap fun p =>
        (plannedId setId again (.ofList state) p.entry).toOption := by
    rw [h, List.filterMap_map]
    conv_lhs => rw [← Placed.map_entry_ofList config, List.filterMap_map]
    exact List.filterMap_congr fun p _ => congrArg Attr.toOption (lawful.id _ _)
  rw [planned]
  refine List.pairwise_filterMap.2 (List.Pairwise.imp_of_mem ?_
    (Placed.nodup_position_ofList.of_map _))
  intro p q hp hq apart id hid id' hid' same
  subst same
  obtain ⟨x, found, key⟩ := exists_of_plannedId_eq_known (Attr.toOption_eq_some_iff.1 hid)
  obtain ⟨y, found', key'⟩ := exists_of_plannedId_eq_known (Attr.toOption_eq_some_iff.1 hid')
  obtain rfl : x = y := Placed.eq_of_nodup_filterMap stateIds (IdentityIndex.mem_of_locate? found)
    (IdentityIndex.mem_of_locate? found') key key'
  have eq := List.inj_on_of_nodup_map distinct
    (Changes.mem_matched.2 ⟨hp, found⟩ : (⟨p, x⟩ : Pairing α) ∈ _)
    (Changes.mem_matched.2 ⟨hq, found'⟩ : (⟨q, x⟩ : Pairing α) ∈ _) rfl
  exact apart (congrArg Pairing.plan eq)

/-- A carried collection gives its identifiers once where none is contested, if those of the
configuration and of the state are distinct and the former are taken from the latter. -/
theorem Carries.assigns (h : Carries setId again config state plan) (lawful : SetsId setId)
    (ids : DistinctIds config) (labels : DistinctLabels config) (stateIds : DistinctIds state)
    (taken : TakesIds config state) : Assigns again config state plan := by
  have pairs := Changes.nodup_state_iff ids labels stateIds
  refine ⟨pairs, fun free => h.nodup_ids lawful stateIds (pairs.2 free), fun free kept => ?_⟩
  rw [h.map_state_matched lawful stateIds taken kept]
  exact pairs.2 free

end Collection

/-! ### Load balancers -/

/-- The identifiers of a state are its own in each collection, and none is blank. -/
structure State.OwnIds (s : State) : Prop where
  listeners : LoadBalancer.OwnIds s.listeners.entries
  acls : LoadBalancer.OwnIds s.acls.entries
  healthChecks : LoadBalancer.OwnIds s.healthChecks.entries
  backends : LoadBalancer.OwnIds s.backends.entries

instance (s : State) : Decidable s.OwnIds :=
  decidable_of_iff (LoadBalancer.OwnIds s.listeners.entries ∧
      LoadBalancer.OwnIds s.acls.entries ∧ LoadBalancer.OwnIds s.healthChecks.entries ∧
      LoadBalancer.OwnIds s.backends.entries)
    ⟨fun ⟨l, a, h, b⟩ => ⟨l, a, h, b⟩, fun h => ⟨h.listeners, h.acls, h.healthChecks, h.backends⟩⟩

/-- Defaults leave the identifiers and the labels of a configuration as they are. -/
theorem State.distinct_withDefaults {config : State} (ids : config.DistinctIds)
    (labels : config.DistinctLabels) :
    config.withDefaults.DistinctIds ∧ config.withDefaults.DistinctLabels := by
  obtain ⟨listeners, acls, healthChecks, backends⟩ := entries_withDefaults config
  refine ⟨⟨?_, ?_, ?_, ?_⟩, ?_, ?_, ?_, ?_⟩
  · exact listeners ▸ ids.listeners
  · exact acls ▸ ids.acls
  · rw [healthChecks, CloudProvision.DistinctIds, List.filterMap_map]
    exact ids.healthChecks
  · rw [backends, CloudProvision.DistinctIds, List.filterMap_map]
    exact ids.backends
  · exact listeners ▸ labels.listeners
  · exact acls ▸ labels.acls
  · rw [healthChecks, CloudProvision.DistinctLabels, List.filterMap_map]
    exact labels.healthChecks
  · rw [backends, CloudProvision.DistinctLabels, List.filterMap_map]
    exact labels.backends

/-- The identifiers of a configuration are taken from the collections of a state. -/
structure State.TakesIds (config prior : State) : Prop where
  listeners : LoadBalancer.TakesIds config.listeners.entries prior.listeners.entries
  acls : LoadBalancer.TakesIds config.acls.entries prior.acls.entries
  healthChecks : LoadBalancer.TakesIds config.healthChecks.entries prior.healthChecks.entries
  backends : LoadBalancer.TakesIds config.backends.entries prior.backends.entries

instance (config prior : State) : Decidable (config.TakesIds prior) :=
  decidable_of_iff (LoadBalancer.TakesIds config.listeners.entries prior.listeners.entries ∧
      LoadBalancer.TakesIds config.acls.entries prior.acls.entries ∧
      LoadBalancer.TakesIds config.healthChecks.entries prior.healthChecks.entries ∧
      LoadBalancer.TakesIds config.backends.entries prior.backends.entries)
    ⟨fun ⟨l, a, h, b⟩ => ⟨l, a, h, b⟩, fun h => ⟨h.listeners, h.acls, h.healthChecks, h.backends⟩⟩

/-- Defaults leave identifiers that are taken from a state as they are. -/
theorem State.takesIds_withDefaults {config prior : State} (taken : config.TakesIds prior) :
    config.withDefaults.TakesIds prior := by
  obtain ⟨listeners, acls, healthChecks, backends⟩ := entries_withDefaults config
  refine ⟨?_, ?_, ?_, ?_⟩
  · exact listeners ▸ taken.listeners
  · exact acls ▸ taken.acls
  · rw [healthChecks]
    exact List.forall_mem_map.2 taken.healthChecks
  · rw [backends]
    exact List.forall_mem_map.2 taken.backends

/-- Defaults do not give identifiers. -/
theorem State.bare_withDefaults {config : State} (bare : config.hasNoIds = true) :
    (∀ l ∈ config.withDefaults.listeners.entries, (Identified.id l).key? = none) ∧
      (∀ a ∈ config.withDefaults.acls.entries, (Identified.id a).key? = none) ∧
      (∀ c ∈ config.withDefaults.healthChecks.entries, (Identified.id c).key? = none) ∧
      ∀ b ∈ config.withDefaults.backends.entries, (Identified.id b).key? = none := by
  obtain ⟨listeners, acls, healthChecks, backends⟩ := entries_withDefaults config
  simp only [hasNoIds, Bool.and_eq_true, List.all_eq_true, Option.isNone_iff_eq_none] at bare
  rw [listeners, acls, healthChecks, backends]
  exact ⟨bare.1.1.1, bare.1.1.2, List.forall_mem_map.2 bare.1.2, List.forall_mem_map.2 bare.2⟩

/-- The identifiers of a plan say which entries of the prior state are kept and which ones are made,
as the difference to the prior state has it. -/
theorem planUpdate_foretells {prior config : State} (accepted : config.Accepted)
    (ids : prior.OwnIds) :
    let planned := prior.planUpdate config
    Foretells [] planned.listeners.entries prior.listeners.entries ∧
      Foretells [] planned.acls.entries prior.acls.entries ∧
      Foretells [] planned.healthChecks.entries prior.healthChecks.entries ∧
      Foretells
        (BackendChanges.between planned.backends.entries prior.backends.entries).recreated
        planned.backends.entries prior.backends.entries := by
  obtain ⟨listeners, acls, healthChecks, backends⟩ := State.bare_withDefaults accepted.bare
  refine ⟨?_, ?_, ?_, ?_⟩
  · exact carries_listeners.foretells setsId_listener ids.listeners listeners
      (fun _ _ _ => rfl) (by simp)
  · exact carries_acls.foretells setsId_acl ids.acls acls (fun _ _ _ => rfl) (by simp)
  · exact carries_healthChecks.foretells setsId_healthCheck ids.healthChecks healthChecks
      (fun _ _ _ => rfl) (by simp)
  · exact carries_backends.foretells setsId_backend ids.backends backends
      (fun _ _ _ => rfl) fun _ => BackendChanges.mem_recreated

/-- A state with a listener and its backend. -/
def carriedState : State :=
  { State.blank with
    id := .known "lb-1"
    name := .known "edge"
    listeners := .known [⟨.known "ls-1", .null, .known 80, .known "http", .known "web", .null⟩]
    backends := .known [
      ⟨.known "be-1", .known "web", .known "instance", .null, .known false, .null, .known []⟩,
      ⟨.known "be-2", .known "api", .known "instance", .null, .known false, .null, .known []⟩] }

/-- A configuration that keeps the listener, creates one of the backends again, keeps the other one
and adds a third. -/
def carryingConfig : State :=
  { State.blank with
    name := .known "edge"
    listeners := .known [⟨.null, .known "", .known 80, .known "http", .known "web", .null⟩]
    backends := .known [
      ⟨.null, .known "web", .known "raw", .null, .null, .null, .null⟩,
      ⟨.null, .known "api", .null, .null, .null, .null, .null⟩,
      ⟨.null, .known "static", .null, .null, .null, .null, .null⟩] }

/-- The identifiers of the sample's plan say so. -/
theorem planUpdate_foretells_sample :
    let planned := carriedState.planUpdate carryingConfig
    Foretells [] planned.listeners.entries carriedState.listeners.entries ∧
      Foretells [] planned.acls.entries carriedState.acls.entries ∧
      Foretells [] planned.healthChecks.entries carriedState.healthChecks.entries ∧
      Foretells
        (BackendChanges.between planned.backends.entries
          carriedState.backends.entries).recreated
        planned.backends.entries carriedState.backends.entries :=
  planUpdate_foretells (by decide) (by decide)

/-- A plan gives no two entries the same identifier unless an entry of the prior state is contested,
and exactly then two configured entries correspond to the same one. Nor do two planned entries, if
no backend with an identifier is made again. -/
theorem planUpdate_assigns {prior config : State} (decided : config.isDecided = true)
    (valid : config.validate = []) (ids : config.DistinctIds) (priorIds : prior.DistinctIds)
    (taken : config.TakesIds prior) :
    let proposed := config.withDefaults
    let planned := prior.planUpdate config
    Assigns (fun _ _ => false) proposed.listeners.entries prior.listeners.entries
        planned.listeners.entries ∧
      Assigns (fun _ _ => false) proposed.acls.entries prior.acls.entries planned.acls.entries ∧
      Assigns (fun _ _ => false) proposed.healthChecks.entries prior.healthChecks.entries
        planned.healthChecks.entries ∧
      Assigns Backend.targetsTypeChanged proposed.backends.entries prior.backends.entries
        planned.backends.entries := by
  obtain ⟨ids, labels⟩ := State.distinct_withDefaults ids
    ((State.noDuplicates_of_valid valid).distinctLabels decided)
  obtain ⟨listeners, acls, healthChecks, backends⟩ := State.takesIds_withDefaults taken
  exact ⟨carries_listeners.assigns setsId_listener ids.listeners labels.listeners
      priorIds.listeners listeners,
    carries_acls.assigns setsId_acl ids.acls labels.acls priorIds.acls acls,
    carries_healthChecks.assigns setsId_healthCheck ids.healthChecks labels.healthChecks
      priorIds.healthChecks healthChecks,
    carries_backends.assigns setsId_backend ids.backends labels.backends priorIds.backends
      backends⟩

/-- A state with two ACLs and two backends. -/
def rulesState : State :=
  { State.blank with
    id := .known "lb-1"
    name := .known "edge"
    acls := .known [
      ⟨.known "acl-1", .known "office", .known "allow", .known "10.0.0.0/8", .known 1, .null⟩,
      ⟨.known "acl-2", .known "home", .known "deny", .known "192.168.0.0/16", .known 2, .null⟩]
    backends := .known [
      ⟨.known "be-1", .known "web", .known "instance", .null, .known false, .null, .known []⟩,
      ⟨.known "be-2", .known "api", .known "instance", .null, .known false, .null, .known []⟩] }

/-- A configuration with entries that have identifiers of this state. -/
def identifiedConfig (acls : List Acl) (targetsType : String) : State :=
  { State.blank with
    name := .known "edge"
    acls := .known acls
    backends := .known [
      ⟨.known "be-1", .known "api", .known targetsType, .null, .null, .null, .null⟩,
      ⟨.known "be-2", .known "web", .null, .null, .null, .null, .null⟩] }

/-- A configuration that exchanges the names of the ACLs and those of the backends. -/
def exchangedConfig : State :=
  identifiedConfig [
    ⟨.known "acl-1", .known "home", .known "allow", .known "10.0.0.0/8", .known 1, .null⟩,
    ⟨.known "acl-2", .known "office", .known "deny", .known "192.168.0.0/16", .known 2, .null⟩]
    "instance"

/-- Its plan gives each entry an identifier of its own, and each backend corresponds to one of its
own. -/
theorem planUpdate_assigns_sample :
    let planned := rulesState.planUpdate exchangedConfig
    (planned.acls.entries.filterMap fun a => (Identified.id a).toOption).Nodup ∧
      ((Changes.between planned.backends.entries rulesState.backends.entries).matched.map
        Pairing.state).Nodup := by
  have assigns := @planUpdate_assigns rulesState exchangedConfig (by decide) (by decide) (by decide)
    (by decide) (by decide)
  exact ⟨assigns.2.1.ids (by decide), assigns.2.2.2.planned (by decide) (by decide)⟩

/-- A configuration that takes its identifiers from the state, both with names and identifiers of
their own. -/
structure Identifying (prior config : State) : Prop where
  decided : config.isDecided = true
  valid : config.validate = []
  ids : config.DistinctIds
  taken : config.TakesIds prior
  own : prior.OwnIds
  aclNames : ∀ a ∈ prior.acls.entries, a.name.key?.isSome
  backendNames : ∀ b ∈ prior.backends.entries, b.name.key?.isSome
  distinct : (prior.acls.entries.map Acl.name).Nodup ∧
    (prior.backends.entries.map Backend.name).Nodup

/-- A configuration that renames an ACL and gives its old name to a new one. -/
def renamedConfig : State :=
  identifiedConfig [
    ⟨.known "acl-1", .known "campus", .known "allow", .known "10.0.0.0/8", .known 1, .null⟩,
    ⟨.null, .known "office", .known "allow", .known "172.16.0.0/12", .known 3, .null⟩] "instance"

/-- A plan may give two entries the same identifier: a renamed one, and a new one with its old name.
And two planned entries may correspond to one entry of the state although their identifiers are
distinct: backends that exchange names, if one of them is made again. -/
theorem planUpdate_shares :
    (Identifying rulesState renamedConfig ∧
      ¬((rulesState.planUpdate renamedConfig).acls.entries.filterMap fun a =>
        (Identified.id a).toOption).Nodup) ∧
    Identifying rulesState (identifiedConfig [] "raw") ∧
      ¬((Changes.between (rulesState.planUpdate (identifiedConfig [] "raw")).backends.entries
        rulesState.backends.entries).matched.map Pairing.state).Nodup := by
  have renamed : Identifying rulesState renamedConfig :=
    ⟨by decide, by decide, by decide, by decide, by decide, by decide, by decide, by decide⟩
  have exchanged : Identifying rulesState (identifiedConfig [] "raw") :=
    ⟨by decide, by decide, by decide, by decide, by decide, by decide, by decide, by decide⟩
  exact ⟨⟨renamed, by decide⟩, exchanged, by decide⟩

end CloudProvision.LoadBalancer
