import CloudProvision.Proofs.Attr
import CloudProvision.Proofs.LoadBalancer.Complete

/-!
# Backends as they are sent

What the checks of a backend accept, and what is sent of a backend that they accept: a type of
targets that there is, a panic threshold between zero and one, and targets that have the address of
their type and not the other one. Targets whose address is blank are accepted too, as the checks
only ask whether there is one. They are sent without an address, as blank texts are.

## Main definitions

* `Backend.Acceptable`: what the checks of a backend ask for.
* `TargetsType.own?`, `TargetsType.other?`: the address that a remote target of a type has, and the
  one that it cannot have.

## Main results

* `State.acceptable_of_valid`: the backends of a valid configuration are acceptable.
* `Backend.Acceptable.withDefaults`: so are those with defaults for what is left out.
* `payload_of_valid`: what is sent of the backends of a valid configuration.
-/

namespace CloudProvision.LoadBalancer

/-! ### What is accepted -/

/-- The panic threshold of a backend is between zero and one, and its targets are of a type that
there is, with nothing undecided about them. Without a name of the type they are network cards. -/
structure Backend.Acceptable (b : Backend) : Prop where
  decided : ∀ t ∈ b.targets.entries, t.hasUnknown = false
  panicThreshold : ∀ x, b.panicThreshold = .known x → 0 ≤ x.units ∧ x.units ≤ Binary64.unit
  targets : ∃ kind, TargetsType.ofName? b.targetsType.text = some kind ∧
    ∀ t ∈ b.targets.entries, t.Acceptable kind

variable {kind : TargetsType} {t : Target} {b : Backend} {config : State}

/-- The backends of a decided and valid configuration are acceptable. -/
theorem State.acceptable_of_valid (decided : config.isDecided = true) (valid : config.validate = [])
    (hb : b ∈ config.backends.entries) : b.Acceptable := by
  have entry := (entries_decided decided).2.2.2 b hb
  simp only [Backend.isDecided, Bool.not_eq_true', Bool.or_eq_false_iff] at entry
  have typed : b.targetsType.isUnknown = false := entry.1.1.1.1.1.2
  have targetsDecided : ∀ t ∈ b.targets.entries, t.hasUnknown = false := by
    simpa using entry.2
  have wellFormed := (config.validate_eq_nil_iff.1 valid).backends b hb
  refine ⟨targetsDecided, wellFormed.panicThreshold, ?_⟩
  rcases Backend.properTargets_iff.1 wellFormed.targets with undecided | targets
  · rw [undecided] at typed
    cases typed
  · exact targets

/-- Defaults keep a backend acceptable: without a name its targets are of the default type. -/
theorem Backend.Acceptable.withDefaults (h : b.Acceptable) : b.withDefaults.Acceptable := by
  obtain ⟨kind, named, targets⟩ := h.targets
  have entries : b.withDefaults.targets.entries = b.targets.entries := entries_orDefault _
  refine ⟨entries ▸ h.decided, h.panicThreshold, kind, ?_, entries ▸ targets⟩
  -- Only a type that is left out gets another name, that of the type it stands for.
  rcases type : b.targetsType with name | _ | _
  all_goals
    rw [type] at named
    rw [← named, Backend.withDefaults, type]
    rfl

/-! ### What is sent -/

namespace TargetsType

/-- The address that targets of a type have. -/
def own? (kind : TargetsType) (t : Remote.Target) : Option String :=
  match kind with
  | networkCard => t.nicId
  | address => t.ipAddress

/-- The address that targets of the other type have. -/
def other? (kind : TargetsType) (t : Remote.Target) : Option String :=
  match kind with
  | networkCard => t.ipAddress
  | address => t.nicId

theorem own?_toRemote (kind : TargetsType) (t : Target) :
    kind.own? t.toRemote = (kind.required t).2.nonempty? := by
  cases kind <;> rfl

theorem other?_toRemote (kind : TargetsType) (t : Target) :
    kind.other? t.toRemote = (kind.forbidden t).2.nonempty? := by
  cases kind <;> rfl

/-- A backend is sent with the name of the type of its targets. -/
theorem targetsType_spec (named : ofName? b.targetsType.text = some kind)
    (healthCheckId : Option String) : (b.spec healthCheckId).targetsType = kind.name := by
  dsimp only [Backend.spec]
  cases kind with
  | networkCard =>
      rcases ofName?_eq_networkCard.1 named with blank | card
      · rw [blank]
        rfl
      · rw [card]
        rfl
  | address =>
      rw [ofName?_eq_address.1 named]
      rfl

end TargetsType

/-- A target that is acceptable is sent without the other address, and with its own unless this is
blank. -/
theorem Target.Acceptable.sent (h : t.Acceptable kind) (decided : t.hasUnknown = false) :
    kind.other? t.toRemote = none ∧
      ((∃ a, kind.own? t.toRemote = some a ∧ a.isEmpty = false) ↔
        (kind.required t).2 ≠ .known "") := by
  rw [TargetsType.own?_toRemote, TargetsType.other?_toRemote]
  have known : (kind.required t).2.isUnknown = false := by
    simp only [hasUnknown, Bool.or_eq_false_iff] at decided
    cases kind with
    | networkCard => exact decided.1.1
    | address => exact decided.1.2
  obtain ⟨needed, unwanted⟩ := h
  constructor
  · rcases other : (kind.forbidden t).2 with _ | _ | _
    · rw [other] at unwanted
      cases unwanted
    · rfl
    · rfl
  · rcases own : (kind.required t).2 with a | _ | _
    · by_cases blank : a = ""
      · simp [blank, Attr.nonempty?]
      · simp [blank, Attr.nonempty?]
    · rw [own] at needed
      cases needed
    · rw [own] at known
      cases known

/-- What is sent of the backends of a decided and valid configuration, with or without defaults for
what is left out: the type of the targets is one that there is, a panic threshold is between zero
and one, and no target has the address of the other type. A target has the address of its own type
exactly if the configuration does not leave it blank. -/
theorem payload_of_valid (decided : config.isDecided = true) (valid : config.validate = [])
    (hb : b ∈ config.backends.entries ++ config.withDefaults.backends.entries)
    (healthCheckId : Option String) :
    (∀ x, (b.spec healthCheckId).panicThreshold = some x → 0 ≤ x.units ∧ x.units ≤ Binary64.unit) ∧
    ∃ kind : TargetsType, (b.spec healthCheckId).targetsType = kind.name ∧
      List.Forall₂ (fun t sent => kind.other? sent = none ∧
        ((∃ a, kind.own? sent = some a ∧ a.isEmpty = false) ↔ (kind.required t).2 ≠ .known ""))
        b.targets.entries b.remoteTargets := by
  have acceptable : b.Acceptable := by
    rw [(entries_withDefaults config).2.2.2] at hb
    rcases List.mem_append.1 hb with configured | defaulted
    · exact State.acceptable_of_valid decided valid configured
    · obtain ⟨c, configured, rfl⟩ := List.mem_map.1 defaulted
      exact (State.acceptable_of_valid decided valid configured).withDefaults
  obtain ⟨kind, named, targets⟩ := acceptable.targets
  refine ⟨fun x sent => acceptable.panicThreshold x (Attr.toOption_eq_some_iff.1 sent), kind,
    TargetsType.targetsType_spec named healthCheckId, ?_⟩
  refine List.forall₂_map_right_iff.2 (List.forall₂_same.2 fun t ht => ?_)
  exact (targets t ht).sent (acceptable.decided t ht)

/-- A load balancer with a backend for network cards, by default, and one for addresses. -/
def twoBackends : State :=
  { State.blank with
    name := .known "edge"
    backends := .known [
      ⟨.null, .known "web", .null, .known panicThresholds.2, .null, .null,
        .known [⟨.known "nic-1", .null, .known 80⟩]⟩,
      ⟨.null, .known "legacy", .known rawTargets, .null, .null, .null,
        .known [⟨.null, .known "10.0.0.7", .known 8080⟩]⟩] }

/-- The configuration is accepted, and each target is sent with the address of its type. -/
theorem payload_of_valid_sample : twoBackends.isDecided = true ∧ twoBackends.validate = [] ∧
    ∀ b ∈ twoBackends.backends.entries ++ twoBackends.withDefaults.backends.entries,
    ∀ healthCheckId,
      (∀ x, (b.spec healthCheckId).panicThreshold = some x →
        0 ≤ x.units ∧ x.units ≤ Binary64.unit) ∧
      ∃ kind : TargetsType, (b.spec healthCheckId).targetsType = kind.name ∧
        List.Forall₂ (fun t sent => kind.other? sent = none ∧
          ((∃ a, kind.own? sent = some a ∧ a.isEmpty = false) ↔ (kind.required t).2 ≠ .known ""))
          b.targets.entries b.remoteTargets :=
  have decided : twoBackends.isDecided = true := by decide +kernel
  have valid : twoBackends.validate = [] := by decide +kernel
  ⟨decided, valid, fun _ hb healthCheckId => payload_of_valid decided valid hb healthCheckId⟩

/-- A backend for network cards whose only target has a blank one. -/
def blankBackend : Backend :=
  ⟨.null, .known "web", .known instanceTargets, .null, .null, .null,
    .known [⟨.known "", .null, .known 80⟩]⟩

/-- A target with a blank network card is accepted, and is sent without any address. -/
theorem blank_target_sent :
    let config : State :=
      { State.blank with name := .known "edge", backends := .known [blankBackend] }
    config.isDecided = true ∧ config.validate = [] ∧ blankBackend ∈ config.backends.entries ∧
    (blankBackend.spec none).targetsType = instanceTargets ∧
    blankBackend.remoteTargets = [⟨none, none, 80⟩] := by
  decide +kernel

end CloudProvision.LoadBalancer
