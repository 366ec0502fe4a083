import CloudProvision.Instance
import CloudProvision.LoadBalancer.Resource
import CloudProvision.MemoryCloud
import CloudProvision.Proofs.Attr
import CloudProvision.Proofs.Request
import CloudProvision.Registry
import CloudProvision.Snapshot
import CloudProvision.Volume
import Mathlib.Data.List.Forall2

/-!
# What a plan keeps of its proposal

The plan of an update says of every attribute that a user sets what was proposed. Only what was left
out is filled in, with the default or with what was there before, and what is undecided stays so.

Snapshots are the exception. A plan that asks for no other snapshot is the prior state itself. Where
the proposal and the prior state are not both decided nothing can be said about a change, so such a
plan gives up what was proposed.

## Main definitions

* `Attr.Keeps`, `Attr.KeepsOr`, `Attr.KeepsEntries`: the planned attribute is the proposed one.
* `Resource.PlanKeeps`: every plan of an update is related to its proposal.

## Main results

* `planUpdate_keeps_iff`: what the plans of all resources keep.
-/

namespace CloudProvision

/-! ### Attributes -/

namespace Attr

variable {α : Type}

/-- A planned attribute is the proposed one, up to blanks. -/
def Keeps [Comparable α] (planned proposed : Attr α) : Prop :=
  planned.normalized = proposed.normalized

/-- A planned attribute is the proposed one, up to blanks, or `fill` where the proposal leaves it
out. -/
def KeepsOr [Comparable α] (planned proposed fill : Attr α) : Prop :=
  planned.Keeps proposed ∨ proposed = null ∧ planned = fill

/-- A planned list has the proposed entries, in their order and each related to its own. A list that
is left out may be filled in with the empty one. -/
inductive KeepsEntries (R : α → α → Prop) : (planned proposed : Attr (List α)) → Prop where
  | known {planned proposed : List α} (entries : List.Forall₂ R planned proposed) :
    KeepsEntries R (known planned) (known proposed)
  | null : KeepsEntries R null null
  | empty : KeepsEntries R (known []) null
  | unknown : KeepsEntries R unknown unknown

section Comparable

variable [Comparable α]

/-- What is left out may be filled in. -/
theorem keepsOr_orElse (x fill : Attr α) : (x.orElse fill).KeepsOr x fill := by
  cases x with
  | known v => exact .inl rfl
  | null => exact .inr ⟨rfl, rfl⟩
  | unknown => exact .inl rfl

/-- Blanks do not matter for whether an attribute is decided. -/
theorem Keeps.isUnknown_eq {planned proposed : Attr α} (h : planned.Keeps proposed) :
    planned.isUnknown = proposed.isUnknown := by
  rw [← isUnknown_normalized planned, h, isUnknown_normalized]

/-- What is undecided stays so. -/
theorem KeepsOr.eq_unknown {planned fill : Attr α} (h : planned.KeepsOr unknown fill) :
    planned = unknown := by
  rcases h with same | ⟨left, -⟩
  · exact isUnknown_iff.1 same.isUnknown_eq
  · cases left

/-- The prior attribute in place of a proposed one that has not changed keeps the proposed one if it
was left out, or if both are decided or neither is. -/
theorem keepsOr_prior_iff [ExactComparable α] {proposed prior : Attr α}
    (unchanged : proposed.changed prior = false) : prior.KeepsOr proposed prior ↔
      proposed = null ∨ proposed.isUnknown = prior.isUnknown := by
  constructor
  · rintro (same | ⟨left, -⟩)
    · exact .inr same.isUnknown_eq.symm
    · exact .inl left
  · rintro (rfl | alike)
    · exact .inr ⟨rfl, rfl⟩
    · refine .inl ?_
      cases decided : proposed.isUnknown with
      | false =>
          exact (normalized_eq_of_changed_eq_false decided (alike.symm.trans decided)
            unchanged).symm
      | true =>
          rw [isUnknown_iff.1 decided, isUnknown_iff.1 (alike.symm.trans decided)]
          rfl

end Comparable

variable {R S : α → α → Prop} {planned proposed : Attr (List α)}

theorem keepsEntries_eq (x : Attr (List α)) : KeepsEntries (· = ·) x x := by
  cases x with
  | known entries => exact .known (List.forall₂_same.2 fun _ _ => rfl)
  | null => exact .null
  | unknown => exact .unknown

/-- The entries of a list may be changed as long as they stay related to the proposed ones. -/
theorem KeepsEntries.map {f : α → α} (related : ∀ x y, R x y → S (f x) y)
    (h : KeepsEntries R planned proposed) : KeepsEntries S (planned.map (·.map f)) proposed := by
  cases h with
  | known entries => exact .known (List.forall₂_map_left_iff.2 (entries.imp related))
  | null => exact .null
  | empty => exact .empty
  | unknown => exact .unknown

/-- The default of a list is the empty one. -/
theorem KeepsEntries.orDefault (h : KeepsEntries R planned proposed) :
    KeepsEntries R (LoadBalancer.orDefault planned []) proposed := by
  cases h with
  | known entries => exact .known entries
  | null => exact .empty
  | empty => exact .empty
  | unknown => exact .unknown

end Attr

/-- Every plan that an update may have is related to its proposal and to the prior state. -/
def Resource.PlanKeeps {σ S : Type} (r : Resource σ S)
    (R : (planned proposed prior : S) → (replace : List AttributePath) → Prop) : Prop :=
  ∀ planned proposed prior replace,
    (r.planUpdate prior proposed).CanReturn (planned, replace) →
      R planned proposed prior replace

variable {σ : Type}

/-! ### Volumes -/

namespace Volume

/-- A planned volume is the proposed one. The type that it has may stay. -/
structure State.Keeps (planned proposed prior : State) : Prop where
  name : planned.name.Keeps proposed.name
  sizeGib : planned.sizeGib.Keeps proposed.sizeGib
  volumeType : planned.volumeType.KeepsOr proposed.volumeType prior.volumeType
  availabilityZone : planned.availabilityZone.Keeps proposed.availabilityZone
  snapshotId : planned.snapshotId.Keeps proposed.snapshotId

theorem planKeeps : (resource : Resource σ State).PlanKeeps fun planned proposed prior _ =>
    planned.Keeps proposed prior := by
  intro planned proposed prior replace plan
  obtain ⟨-, -, plan⟩ := plan.of_bind
  obtain ⟨rfl, -⟩ := Prod.mk.inj plan.of_pure
  exact ⟨rfl, rfl, Attr.keepsOr_orElse _ _, rfl, rfl⟩

end Volume

/-! ### Instances -/

namespace Instance

/-- A planned instance is the proposed one. -/
structure State.Keeps (planned proposed : State) : Prop where
  name : planned.name.Keeps proposed.name
  imageId : planned.imageId.Keeps proposed.imageId
  instanceType : planned.instanceType.Keeps proposed.instanceType
  subnetId : planned.subnetId.Keeps proposed.subnetId
  tags : planned.tags = proposed.tags

theorem planKeeps : (resource : Resource σ State).PlanKeeps fun planned proposed _ _ =>
    planned.Keeps proposed := by
  intro planned proposed prior replace plan
  obtain ⟨rfl, -⟩ := Prod.mk.inj plan.of_pure
  split
  · exact ⟨rfl, rfl, rfl, rfl, rfl⟩
  · exact ⟨rfl, rfl, rfl, rfl, rfl⟩

end Instance

/-! ### Registries -/

namespace Registry

/-- A planned registry is the proposed one, and private by default. -/
structure State.Keeps (planned proposed : State) : Prop where
  name : planned.name.Keeps proposed.name
  isPublic : planned.isPublic.KeepsOr proposed.isPublic (.known false)

theorem planKeeps : (resource : Resource σ State).PlanKeeps fun planned proposed _ _ =>
    planned.Keeps proposed := by
  intro planned proposed prior replace plan
  have planned : prior.planUpdate proposed = (planned, replace) := plan.of_pure
  rw [State.planUpdate] at planned
  split at planned
  · obtain ⟨rfl, -⟩ := Prod.mk.inj planned
    exact ⟨rfl, Attr.keepsOr_orElse _ _⟩
  · obtain ⟨rfl, -⟩ := Prod.mk.inj planned
    exact ⟨rfl, Attr.keepsOr_orElse _ _⟩

end Registry

/-! ### Load balancers -/

namespace LoadBalancer

/-- A planned listener is the proposed one. -/
structure Listener.Keeps (planned proposed : Listener) : Prop where
  name : planned.name.Keeps proposed.name
  port : planned.port.Keeps proposed.port
  protocol : planned.protocol.Keeps proposed.protocol
  backend : planned.backend.Keeps proposed.backend
  certificateId : planned.certificateId.Keeps proposed.certificateId

/-- A planned ACL is the proposed one. -/
structure Acl.Keeps (planned proposed : Acl) : Prop where
  name : planned.name.Keeps proposed.name
  action : planned.action.Keeps proposed.action
  cidr : planned.cidr.Keeps proposed.cidr
  priority : planned.priority.Keeps proposed.priority
  description : planned.description.Keeps proposed.description

/-- A planned health check is the proposed one, with its defaults. -/
structure HealthCheck.Keeps (planned proposed : HealthCheck) : Prop where
  name : planned.name.Keeps proposed.name
  protocol : planned.protocol.Keeps proposed.protocol
  port : planned.port.Keeps proposed.port
  path : planned.path.Keeps proposed.path
  interval : planned.interval.KeepsOr proposed.interval (.known 10)
  timeout : planned.timeout.KeepsOr proposed.timeout (.known 5)
  healthyThreshold : planned.healthyThreshold.KeepsOr proposed.healthyThreshold (.known 3)
  unhealthyThreshold : planned.unhealthyThreshold.KeepsOr proposed.unhealthyThreshold (.known 3)

/-- A planned backend is the proposed one, with its defaults. -/
structure Backend.Keeps (planned proposed : Backend) : Prop where
  name : planned.name.Keeps proposed.name
  targetsType : planned.targetsType.KeepsOr proposed.targetsType (.known "instance")
  panicThreshold : planned.panicThreshold.Keeps proposed.panicThreshold
  closeConnections : planned.closeConnections.KeepsOr proposed.closeConnections (.known false)
  healthCheck : planned.healthCheck.Keeps proposed.healthCheck
  targets : planned.targets.KeepsEntries (· = ·) proposed.targets

/-- A planned load balancer is the proposed one, and so are its nested objects. -/
structure State.Keeps (planned proposed : State) : Prop where
  name : planned.name.Keeps proposed.name
  description : planned.description.Keeps proposed.description
  listeners : planned.listeners.KeepsEntries Listener.Keeps proposed.listeners
  acls : planned.acls.KeepsEntries Acl.Keeps proposed.acls
  healthChecks : planned.healthChecks.KeepsEntries HealthCheck.Keeps proposed.healthChecks
  backends : planned.backends.KeepsEntries Backend.Keeps proposed.backends

theorem HealthCheck.keeps_withDefaults (h : HealthCheck) : h.withDefaults.Keeps h :=
  ⟨rfl, rfl, rfl, rfl, Attr.keepsOr_orElse _ _, Attr.keepsOr_orElse _ _, Attr.keepsOr_orElse _ _,
    Attr.keepsOr_orElse _ _⟩

theorem Backend.keeps_withDefaults (b : Backend) : b.withDefaults.Keeps b :=
  ⟨rfl, Attr.keepsOr_orElse _ _, rfl, Attr.keepsOr_orElse _ _, rfl,
    (Attr.keepsEntries_eq _).orDefault⟩

/-- The identifier of a backend is not part of the proposal. -/
theorem Backend.Keeps.withId {planned proposed : Backend} (h : planned.Keeps proposed)
    (id : Attr String) : { planned with id := id }.Keeps proposed :=
  ⟨h.name, h.targetsType, h.panicThreshold, h.closeConnections, h.healthCheck, h.targets⟩

theorem Backend.Keeps.renew {planned proposed : Backend} (h : planned.Keeps proposed)
    (prior : IdentityIndex Backend) : (planned.renew prior).Keeps proposed := by
  rw [Backend.renew]
  split
  · exact h.withId _
  · exact h

theorem planKeeps : (resource : Resource σ State).PlanKeeps fun planned proposed _ _ =>
    planned.Keeps proposed := by
  intro planned proposed prior replace plan
  obtain ⟨rfl, -⟩ := Prod.mk.inj plan.of_pure
  refine ⟨rfl, rfl, ?listeners, ?acls, ?healthChecks, ?backends⟩
  case listeners =>
    refine (Attr.keepsEntries_eq _).orDefault.map ?_
    rintro l _ rfl
    exact ⟨rfl, rfl, rfl, rfl, rfl⟩
  case acls =>
    refine (Attr.keepsEntries_eq _).orDefault.map ?_
    rintro a _ rfl
    exact ⟨rfl, rfl, rfl, rfl, rfl⟩
  case healthChecks =>
    have filled : ((proposed.healthChecks.map (·.map HealthCheck.withDefaults))).KeepsEntries
        HealthCheck.Keeps proposed.healthChecks := by
      refine (Attr.keepsEntries_eq _).map ?_
      rintro h _ rfl
      exact h.keeps_withDefaults
    exact filled.orDefault.map fun _ _ h => ⟨h.name, h.protocol, h.port, h.path, h.interval,
      h.timeout, h.healthyThreshold, h.unhealthyThreshold⟩
  case backends =>
    have filled : ((proposed.backends.map (·.map Backend.withDefaults))).KeepsEntries
        Backend.Keeps proposed.backends := by
      refine (Attr.keepsEntries_eq _).map ?_
      rintro b _ rfl
      exact b.keeps_withDefaults
    exact (filled.orDefault.map fun _ _ h => h.withId _).map fun _ _ h => h.renew _

end LoadBalancer

/-! ### Snapshots -/

namespace Snapshot

/-- A plan keeps an attribute of a snapshot exactly if it asks for another snapshot, or the
attribute is left out, or it is undecided as the prior one is, or decided as the prior one is. -/
def KeepsExactly (planned proposed prior : Attr String) (replace : List AttributePath) : Prop :=
  planned.KeepsOr proposed prior ↔
    replace ≠ [] ∨ proposed = .null ∨ proposed.isUnknown = prior.isUnknown

theorem planKeeps : (resource : Resource σ State).PlanKeeps fun planned proposed prior replace =>
    KeepsExactly planned.volumeId proposed.volumeId prior.volumeId replace ∧
      KeepsExactly planned.description proposed.description prior.description replace := by
  intro planned proposed prior replace plan
  obtain ⟨rfl, rfl⟩ := Prod.mk.inj plan.of_pure
  by_cases kept : prior.replacements proposed = []
  · obtain ⟨volume, description⟩ := List.append_eq_nil_iff.1 kept
    simp only [KeepsExactly, kept, List.isEmpty_nil, if_true, ne_eq, not_true_eq_false, false_or]
    exact ⟨Attr.keepsOr_prior_iff (by simpa using volume),
      Attr.keepsOr_prior_iff (by simpa using description)⟩
  · rw [if_neg (by simpa using kept)]
    exact ⟨iff_of_true (.inl rfl) (.inl kept), iff_of_true (.inl rfl) (.inl kept)⟩

end Snapshot

/-! ### All resources -/

/-- The plan of an update of a volume, an instance, a registry or a load balancer is the proposal,
with the defaults and the prior volume type where they are left out. That of a snapshot is so only
where it asks for another snapshot or nothing is undecided. -/
theorem planUpdate_keeps_iff :
    (Volume.resource : Resource σ Volume.State).PlanKeeps
      (fun planned proposed prior _ => planned.Keeps proposed prior) ∧
    (Instance.resource : Resource σ Instance.State).PlanKeeps
      (fun planned proposed _ _ => planned.Keeps proposed) ∧
    (Registry.resource : Resource σ Registry.State).PlanKeeps
      (fun planned proposed _ _ => planned.Keeps proposed) ∧
    (LoadBalancer.resource : Resource σ LoadBalancer.State).PlanKeeps
      (fun planned proposed _ _ => planned.Keeps proposed) ∧
    (Snapshot.resource : Resource σ Snapshot.State).PlanKeeps
      (fun planned proposed prior replace =>
        Snapshot.KeepsExactly planned.volumeId proposed.volumeId prior.volumeId replace ∧
        Snapshot.KeepsExactly planned.description proposed.description prior.description
          replace) :=
  ⟨Volume.planKeeps, Instance.planKeeps, Registry.planKeeps, LoadBalancer.planKeeps,
    Snapshot.planKeeps⟩

/-- A load balancer whose backend gets other targets, and whose description and ACLs are
undecided. -/
def LoadBalancer.sampleProposal : LoadBalancer.State where
  id := .null
  name := .known "edge"
  description := .unknown
  address := .null
  status := .null
  listeners := .null
  acls := .unknown
  healthChecks := .known [⟨.null, .known "alive", .known "tcp", .unknown, .known "", .null,
    .known 7, .null, .unknown⟩]
  backends := .known [⟨.null, .known "web", .known "raw", .null, .null, .known "alive", .null⟩]

/-- The prior state of this load balancer. -/
def LoadBalancer.samplePrior : LoadBalancer.State where
  id := .known "lb-1"
  name := .known "edge"
  description := .known "old"
  address := .null
  status := .known "running"
  listeners := .known []
  acls := .known []
  healthChecks := .known []
  backends := .known [⟨.known "be-1", .known "web", .known "instance", .null, .known false, .null,
    .known []⟩]

/-- Proposals with undecided, blank and missing attributes, and what is kept of them. -/
theorem planUpdate_keeps_iff_sample :
    (let prior : Volume.State :=
      ⟨.known "vol-1", .known "data", .known 8, .known "ssd", .known "zone-a", .null,
        .known "completed"⟩
     let proposed := { prior with name := .unknown, sizeGib := .known 16, volumeType := .null }
     ∃ planned, ((Volume.resource : Resource MemoryCloud _).planUpdate prior proposed).CanReturn
         (planned, []) ∧ planned.Keeps proposed prior) ∧
    (let prior : Instance.State :=
      ⟨.known "i-1", .known "web", .known "image-1", .known "small", .null, .null, .null,
        .known "completed"⟩
     let proposed := { prior with imageId := .known "image-2", tags := .unknown }
     ∃ planned, ((Instance.resource : Resource MemoryCloud _).planUpdate prior proposed).CanReturn
         (planned, [.of "image_id"]) ∧ planned.Keeps proposed) ∧
    (let prior : Registry.State := ⟨.known "reg-1", .known "images", .known true, .null⟩
     let proposed := { prior with name := .unknown, isPublic := .null }
     ∃ planned, ((Registry.resource : Resource MemoryCloud _).planUpdate prior proposed).CanReturn
         (planned, []) ∧ planned.Keeps proposed) ∧
    (∃ planned, ((LoadBalancer.resource : Resource MemoryCloud _).planUpdate
         LoadBalancer.samplePrior LoadBalancer.sampleProposal).CanReturn (planned, []) ∧
       planned.Keeps LoadBalancer.sampleProposal) ∧
    (let prior : Snapshot.State :=
      ⟨.known "snap-1", .known "vol-1", .known "daily", .known 8, .known "completed"⟩
     let proposed := { prior with volumeId := .unknown, description := .known "weekly" }
     ∃ planned, ((Snapshot.resource : Resource MemoryCloud _).planUpdate prior proposed).CanReturn
         (planned, [.of "description"]) ∧
       planned.volumeId.KeepsOr proposed.volumeId prior.volumeId) := by
  obtain ⟨volume, machine, registry, balancer, snapshot⟩ := planUpdate_keeps_iff (σ := MemoryCloud)
  have returns {α : Type} (a : α) : (pure a : Request MemoryCloud α).CanReturn a :=
    ⟨.none, ⟨MemoryCloud.api, .default, none, 0⟩, ⟨0, .empty, []⟩, .none, ⟨0, .empty, []⟩, rfl⟩
  refine ⟨⟨_, returns _, volume _ _ _ _ (returns _)⟩, ⟨_, returns _, machine _ _ _ _ (returns _)⟩,
    ⟨_, returns _, registry _ _ _ _ (returns _)⟩, ⟨_, returns _, balancer _ _ _ _ (returns _)⟩,
    ⟨_, returns _, ?_⟩⟩
  exact (snapshot _ _ _ _ (returns _)).1.2 (.inl (by decide))

/-- The plan of a snapshot decides what was proposed to stay undecided. -/
theorem Snapshot.planUpdate_decides :
    let prior : State :=
      ⟨.known "snap-1", .known "vol-1", .known "daily", .known 8, .known "completed"⟩
    let proposed := { prior with volumeId := .unknown }
    (resource : Resource Unit State).validate proposed = pure () ∧
      (resource : Resource Unit State).planUpdate prior proposed = pure (prior, []) ∧
      ¬prior.volumeId.KeepsOr proposed.volumeId prior.volumeId :=
  ⟨rfl, rfl, fun kept => nomatch kept.eq_unknown⟩

end CloudProvision
