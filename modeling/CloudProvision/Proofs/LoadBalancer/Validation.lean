import CloudProvision.LoadBalancer.Resource
import CloudProvision.Proofs.Attr
import CloudProvision.Proofs.LoadBalancer.Duplicates
import CloudProvision.Proofs.Request

/-!
# Well-formed configurations

A configuration of a load balancer is accepted exactly if it is well-formed: what is decided about
it is as it should be. Each check has no errors exactly if this is so of what it looks at, and
nothing is said of the attributes that are undecided.

## Main definitions

* `Defines`: a collection has an entry with a name, or is not decided yet.
* `Backend.ProperTargets`: targets have the address that their type asks for.
* `Backend.WellFormed`, `Listener.WellFormed`, `State.WellFormed`: what the checks ask for.

## Main results

* `backendErrors_eq_nil_iff`, `listenerErrors_eq_nil_iff`: the checks of single entries.
* `State.validate_eq_nil_iff`: a load balancer has no errors exactly if it is well-formed.
* `filter_validate`: the errors about duplicates are those of the repeated entries.
* `accepts_iff_wellFormed`: both, for the request of a host that has reported nothing before.
-/

namespace CloudProvision.LoadBalancer

variable {path : AttributePath}

/-- Nothing is wrong with a collection exactly if nothing is wrong with any of its entries. -/
theorem flatMap_ofList_eq_nil_iff {α : Type} {entries : List α}
    {errors : Placed α → List Diagnostic} {ok : α → Prop}
    (checked : ∀ p, errors p = [] ↔ ok p.entry) :
    (Placed.ofList entries).flatMap errors = [] ↔ ∀ x ∈ entries, ok x := by
  simp only [List.flatMap_eq_nil_iff, checked]
  constructor
  · intro accepted x hx
    obtain ⟨p, hp, rfl⟩ := Placed.exists_mem_ofList hx
    exact accepted p hp
  · exact fun accepted p hp => accepted p.entry (Placed.entry_mem hp)

/-! ### References -/

section References

variable {α : Type} [Identified α] {collection : Attr (List α)} {name : String}

/-- A collection has an entry with a name, or is not decided yet. -/
def Defines (collection : Attr (List α)) (name : String) : Prop :=
  collection = .unknown ∨ ∃ x ∈ collection.entries, Identified.name x = .known name

theorem definedNames?_eq_none_iff : definedNames? collection = none ↔ collection = .unknown := by
  rw [definedNames?, ← Attr.isUnknown_iff]
  simp

/-- A reference is looked for among the names that are defined, as far as they are decided. -/
theorem defines_iff : Defines collection name ↔
    ∀ names, definedNames? collection = some names → name ∈ names := by
  rw [Defines, ← definedNames?_eq_none_iff]
  rcases defined : definedNames? collection with - | names
  · simp
  · rw [definedNames?] at defined
    split at defined
    · cases defined
    · obtain rfl := Option.some.inj defined
      simp [Attr.toOption_eq_some_iff]

end References

/-! ### Backends -/

/-- A target has what targets of its type need, and nothing that they cannot have. -/
def Target.Acceptable (kind : TargetsType) (t : Target) : Prop :=
  (kind.required t).2.isNull = false ∧ (kind.forbidden t).2.isKnown = false

/-- The targets of a backend have the address of their type and not the other one. They are network
cards unless their type says otherwise, and are not looked at while it is undecided. -/
inductive Backend.ProperTargets (b : Backend) : Prop where
  | undecided (type : b.targetsType = .unknown)
  | networkCards (type : b.targetsType ∈ [.null, .known "", .known instanceTargets])
      (targets : ∀ t ∈ b.targets.entries, t.nicId.isNull = false ∧ t.ipAddress.isKnown = false)
  | addresses (type : b.targetsType = .known rawTargets)
      (targets : ∀ t ∈ b.targets.entries, t.ipAddress.isNull = false ∧ t.nicId.isKnown = false)

/-- The panic threshold of a backend is between zero and one, its targets are as their type says,
and its health check is defined. A blank name of a health check refers to none. -/
structure Backend.WellFormed (healthChecks : Attr (List HealthCheck)) (b : Backend) : Prop where
  panicThreshold : ∀ x, b.panicThreshold = .known x → 0 ≤ x.units ∧ x.units ≤ Binary64.unit
  targets : b.ProperTargets
  healthCheck : ∀ name, b.healthCheck = .known name → name ≠ "" → Defines healthChecks name

section Backends

variable {b : Backend} {healthChecks : Attr (List HealthCheck)} {kind : TargetsType} {t : Target}

/-- The units of the least and of the greatest panic threshold. -/
theorem units_panicThresholds :
    panicThresholds.1.units = 0 ∧ panicThresholds.2.units = Binary64.unit := by
  decide +kernel

theorem panicThresholdErrors_eq_nil_iff {threshold : Attr Binary64} :
    panicThresholdErrors path threshold = [] ↔
      ∀ x, threshold = .known x → 0 ≤ x.units ∧ x.units ≤ Binary64.unit := by
  rcases threshold with x | _ | _
  · have between : (panicThresholds.1 ≤ x ∧ x ≤ panicThresholds.2) ↔
        0 ≤ x.units ∧ x.units ≤ Binary64.unit := by
      rw [← units_panicThresholds.1, ← units_panicThresholds.2]
      exact Iff.rfl
    simp only [panicThresholdErrors, between, ite_eq_left_iff, List.cons_ne_nil, imp_false,
      Decidable.not_not, Attr.known.injEq, forall_eq']
  · simp only [panicThresholdErrors, reduceCtorEq, false_implies, implies_true]
  · simp only [panicThresholdErrors, reduceCtorEq, false_implies, implies_true]

theorem Target.errors_eq_nil_iff : t.errors kind path = [] ↔ t.Acceptable kind := by
  simp [errors, Acceptable]

namespace TargetsType

variable {name : String}

theorem ofName?_eq_networkCard :
    ofName? name = some networkCard ↔ name = "" ∨ name = instanceTargets := by
  rw [ofName?]
  split
  · next card => simpa using card
  · next other =>
    split <;> simpa using other

theorem ofName?_eq_address : ofName? name = some address ↔ name = rawTargets := by
  rw [ofName?]
  split
  · next card =>
    have other : name ≠ rawTargets := by
      rintro rfl
      exact absurd card (by decide)
    simp [other]
  · split
    · next raw => simpa using raw
    · next neither => simpa using neither

end TargetsType

/-- Targets are as their type says if it is undecided, or if it is one that there is and each of
them has what this type needs. -/
theorem Backend.properTargets_iff : b.ProperTargets ↔ b.targetsType = .unknown ∨
    ∃ kind, TargetsType.ofName? b.targetsType.text = some kind ∧
      ∀ t ∈ b.targets.entries, t.Acceptable kind := by
  constructor
  · rintro (undecided | ⟨type, targets⟩ | ⟨type, targets⟩)
    · exact .inl undecided
    · refine .inr ⟨.networkCard, TargetsType.ofName?_eq_networkCard.2 ?_, targets⟩
      simp only [List.mem_cons, List.not_mem_nil, or_false] at type
      rcases type with null | blank | named
      · exact .inl (congrArg Attr.text null)
      · exact .inl (congrArg Attr.text blank)
      · exact .inr (congrArg Attr.text named)
    · exact .inr ⟨.address, TargetsType.ofName?_eq_address.2 (congrArg Attr.text type), targets⟩
  · rintro (undecided | ⟨kind, named, targets⟩)
    · exact .undecided undecided
    · -- A type that is left out stands for network cards, so only a known one asks for addresses.
      rcases type : b.targetsType with name | _ | _
      · rw [type] at named
        cases kind with
        | networkCard =>
            refine .networkCards ?_ targets
            rcases TargetsType.ofName?_eq_networkCard.1 named with blank | card
            · simp [type, show name = "" from blank]
            · simp [type, show name = instanceTargets from card]
        | address =>
            have raw : name = rawTargets := TargetsType.ofName?_eq_address.1 named
            exact .addresses (type.trans (congrArg _ raw)) targets
      · rw [type] at named
        cases named
        exact .networkCards (by simp [type]) targets
      · exact .undecided type

theorem targetsErrors_eq_nil_iff : targetsErrors path b = [] ↔ b.ProperTargets := by
  rw [targetsErrors, Backend.properTargets_iff, ← Attr.isUnknown_iff]
  split
  · next undecided => simp [undecided]
  · next decided =>
    rcases TargetsType.ofName? b.targetsType.text with - | kind
    · simp [decided]
    · rw [flatMap_ofList_eq_nil_iff fun p => Target.errors_eq_nil_iff]
      simp [decided]

theorem healthCheckErrors_eq_nil_iff : healthCheckErrors path (definedNames? healthChecks) b = [] ↔
    ∀ name, b.healthCheck = .known name → name ≠ "" → Defines healthChecks name := by
  simp only [defines_iff]
  rcases definedNames? healthChecks with - | names
  · simp [healthCheckErrors]
  · rcases reference : b.healthCheck with name | _ | _
    · by_cases blank : name = "" <;> simp [healthCheckErrors, reference, blank]
    · simp [healthCheckErrors, reference]
    · simp [healthCheckErrors, reference]

/-- A backend has no errors exactly if it is well-formed. -/
theorem backendErrors_eq_nil_iff :
    panicThresholdErrors path b.panicThreshold ++ targetsErrors path b ++
      healthCheckErrors path (definedNames? healthChecks) b = [] ↔ b.WellFormed healthChecks := by
  simp only [List.append_eq_nil_iff, panicThresholdErrors_eq_nil_iff, targetsErrors_eq_nil_iff,
    healthCheckErrors_eq_nil_iff]
  exact ⟨fun ⟨⟨threshold, targets⟩, reference⟩ => ⟨threshold, targets, reference⟩,
    fun h => ⟨⟨h.panicThreshold, h.targets⟩, h.healthCheck⟩⟩

end Backends

/-! ### Listeners -/

/-- A listener has a backend, and it is defined if it is decided. -/
structure Listener.WellFormed (backends : Attr (List Backend)) (l : Listener) : Prop where
  backend : l.backend ≠ .null
  reference : ∀ name, l.backend = .known name → Defines backends name

theorem listenerErrors_eq_nil_iff {l : Listener} {backends : Attr (List Backend)} :
    listenerErrors path (definedNames? backends) l = [] ↔ l.WellFormed backends := by
  have checked : l.WellFormed backends ↔
      l.backend ≠ .null ∧ ∀ name, l.backend = .known name → Defines backends name :=
    ⟨fun h => ⟨h.backend, h.reference⟩, fun h => ⟨h.1, h.2⟩⟩
  simp only [checked, defines_iff]
  rcases definedNames? backends with - | names
  · rcases reference : l.backend with name | _ | _ <;> simp [listenerErrors, reference]
  · rcases reference : l.backend with name | _ | _ <;> simp [listenerErrors, reference]

/-! ### Load balancers -/

/-- A load balancer has a name, no two entries of a collection clash, and its backends and listeners
are well-formed. -/
structure State.WellFormed (s : State) : Prop where
  name : s.name ≠ .null
  healthChecksApart : s.healthChecks.entries.Pairwise fun x y => ¬ Clash x y
  backendsApart : s.backends.entries.Pairwise fun x y => ¬ Clash x y
  aclsApart : s.acls.entries.Pairwise fun x y => ¬ Clash x y
  listenersApart : s.listeners.entries.Pairwise fun x y => ¬ Clash x y
  backends : ∀ b ∈ s.backends.entries, b.WellFormed s.healthChecks
  listeners : ∀ l ∈ s.listeners.entries, l.WellFormed s.backends

/-- A load balancer has no errors exactly if it is well-formed. -/
theorem State.validate_eq_nil_iff (s : State) : s.validate = [] ↔ s.WellFormed := by
  have named : (if s.name.isNull then
      [Diagnostic.short "Missing load balancer name" (.of "name")] else []) = [] ↔
        s.name ≠ .null := by
    rcases s.name with _ | _ | _ <;> simp [Attr.isNull]
  simp only [validate, List.append_eq_nil_iff, named, duplicates_eq_nil_iff]
  rw [flatMap_ofList_eq_nil_iff fun p => backendErrors_eq_nil_iff,
    flatMap_ofList_eq_nil_iff fun p => listenerErrors_eq_nil_iff]
  constructor
  · rintro ⟨⟨⟨⟨⟨⟨name, healthChecksApart⟩, backendsApart⟩, aclsApart⟩, listenersApart⟩, backends⟩,
      listeners⟩
    exact ⟨name, healthChecksApart, backendsApart, aclsApart, listenersApart, backends, listeners⟩
  · rintro ⟨name, healthChecksApart, backendsApart, aclsApart, listenersApart, backends, listeners⟩
    exact ⟨⟨⟨⟨⟨⟨name, healthChecksApart⟩, backendsApart⟩, aclsApart⟩, listenersApart⟩, backends⟩,
      listeners⟩

/-! ### Errors about duplicates -/

/-- Whether an error says that an entry is a duplicate. -/
def isDuplicate (e : Diagnostic) : Bool :=
  e.summary == "Duplicate name" || e.summary == "Duplicate entry"

theorem filter_duplicates {α : Type} [Identified α] (collection : String) (entries : List α) :
    (duplicates collection entries).filter isDuplicate =
      (repeated entries).map (report collection) := by
  rw [duplicates_eq, List.filter_eq_self]
  intro e he
  obtain ⟨p, -, rfl⟩ := List.mem_map.1 he
  rw [report]
  split <;> rfl

theorem filter_panicThresholdErrors (threshold : Attr Binary64) :
    (panicThresholdErrors path threshold).filter isDuplicate = [] := by
  rw [panicThresholdErrors.eq_def]
  split
  · split <;> rfl
  · rfl

theorem filter_targetErrors (kind : TargetsType) (t : Target) :
    (t.errors kind path).filter isDuplicate = [] := by
  rw [Target.errors, List.filter_append, List.append_eq_nil_iff]
  constructor <;> split <;> rfl

theorem filter_targetsErrors (b : Backend) : (targetsErrors path b).filter isDuplicate = [] := by
  rw [targetsErrors]
  split
  · rfl
  · split
    · rfl
    · simp [List.filter_flatMap, filter_targetErrors]

theorem filter_healthCheckErrors (defined : Option (List String)) (b : Backend) :
    (healthCheckErrors path defined b).filter isDuplicate = [] := by
  rw [healthCheckErrors.eq_def]
  split
  · split <;> rfl
  · rfl

theorem filter_listenerErrors (defined : Option (List String)) (l : Listener) :
    (listenerErrors path defined l).filter isDuplicate = [] := by
  rw [listenerErrors.eq_def]
  split
  · rfl
  · split <;> rfl
  · rfl

/-- The errors about duplicates are those of the repeated entries, collection by collection. -/
theorem filter_validate (s : State) : s.validate.filter isDuplicate =
    (repeated s.healthChecks.entries).map (report "health_checks") ++
      (repeated s.backends.entries).map (report "backends") ++
      (repeated s.acls.entries).map (report "acls") ++
      (repeated s.listeners.entries).map (report "listeners") := by
  have named : (if s.name.isNull then
      [Diagnostic.short "Missing load balancer name" (.of "name")] else []).filter isDuplicate =
        [] := by
    split <;> rfl
  simp [State.validate, named, List.filter_flatMap, filter_duplicates, filter_panicThresholdErrors,
    filter_targetsErrors, filter_healthCheckErrors, filter_listenerErrors]

/-- A configuration is accepted exactly if it is well-formed. The errors about duplicates are those
of the entries that clash with an earlier one of their collection. -/
theorem accepts_iff_wellFormed {σ : Type} (s : State) (env : Environment σ)
    (session : Session σ) : ∃ answer errors,
      (resource (σ := σ)).validate s .none env session = ((answer, ⟨errors, []⟩), session) ∧
      (answer = some () ↔ s.WellFormed) ∧
      errors.filter isDuplicate =
        (repeated s.healthChecks.entries).map (report "health_checks") ++
          (repeated s.backends.entries).map (report "backends") ++
          (repeated s.acls.entries).map (report "acls") ++
          (repeated s.listeners.entries).map (report "listeners") := by
  refine ⟨if (Diagnostics.none.addErrors s.validate).hasErrors then none else some (), s.validate,
    Request.checks_run s.validate, ?_, filter_validate s⟩
  rw [← s.validate_eq_nil_iff]
  simp [Diagnostics.hasErrors, Diagnostics.addErrors, Diagnostics.none]

end CloudProvision.LoadBalancer
