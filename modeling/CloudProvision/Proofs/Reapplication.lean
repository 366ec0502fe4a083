import CloudProvision.Instance
import CloudProvision.Proofs.Attr
import CloudProvision.Proofs.MemoryCloud.Objects
import CloudProvision.Registry
import CloudProvision.Snapshot
import CloudProvision.Volume
import Mathlib.Data.List.Basic

/-!
# Applying a configuration again

What a resource creates is what was asked for: sent as a request, stored by the cloud and read back,
no attribute differs from the configuration. So the same configuration planned again asks for
nothing, and its update makes no call.

## Main definitions

* `AppliesOnce`: a resource whose configurations need no second application.

## Main results

* `Volume.create_fulfils`, `Snapshot.create_fulfils`, `Instance.create_fulfils`,
  `Registry.create_fulfils`: what was created is what was asked for.
* `applies_once`: these resources need no second application.
-/

namespace CloudProvision

open Operation

variable {env : Environment (Faulty MemoryCloud)} {session after : Session (Faulty MemoryCloud)}
  {diagnostics reported : Diagnostics}

/-- A valid configuration that has been applied asks for nothing when it is applied again: on a
cloud in memory, whatever delays or fails the calls of its creation, the plan of the state that the
creation returned succeeds and asks for no other object, and the update returns the planned state.
Both make no call, on any cloud. -/
def AppliesOnce {S : Type} (r : Resource (Faulty MemoryCloud) S) : Prop :=
  ∀ config, (r.validate config).CanReturn () →
    ∀ (env : Environment (Faulty MemoryCloud)) (session after : Session (Faulty MemoryCloud))
      (diagnostics reported : Diagnostics) (s : S), env.api = Faulty.api MemoryCloud.api →
      (do r.create (← r.planCreate config)) diagnostics env session = ((some s, reported), after) →
        ∃ planned, ∀ diagnostics (env' : Environment (Faulty MemoryCloud))
          (again : Session (Faulty MemoryCloud)),
          r.planUpdate s config diagnostics env' again =
              ((some (planned, []), diagnostics), again) ∧
            r.update s planned diagnostics env' again = ((some planned, diagnostics), again)

/-! ### Volumes -/

namespace Volume

/-- A volume that is what a configuration asks for. A size that is left out counts as zero. -/
structure State.Fulfils (s config : State) : Prop where
  name : config.name.changed s.name = false
  sizeGib : s.sizeGib = .known (config.sizeGib.getD 0)
  availabilityZone : config.availabilityZone.changed s.availabilityZone = false
  snapshotId : config.snapshotId.changed s.snapshotId = false

/-- A volume that was created is what was asked for. -/
theorem create_fulfils (memory : env.api = Faulty.api MemoryCloud.api) {config s : State}
    (run : resource.create config.planCreate diagnostics env session =
      ((some s, reported), after)) : s.Fulfils config := by
  obtain ⟨id, _, there, created, awaited⟩ := Request.bind_eq_some run
  have served : MemoryCloud.createVolume config.planCreate.createRequest session.cloud.cloud =
      .ok (id, there.cloud.cloud) :=
    Faulty.served_of_call memory (Request.orReport_eq_some created).1
  rw [MemoryCloud.createVolume] at served
  obtain ⟨number, kept⟩ := MemoryCloud.create_keeps served
  obtain ⟨status, rfl⟩ := Faulty.exists_of_await_kept memory rfl kept awaited
  exact ⟨Attr.changed_nonempty? _, rfl, Attr.changed_text _, Attr.changed_nonempty? _⟩

/-- A plan for what there is does not let it shrink. -/
theorem State.Fulfils.checkSize {σ : Type} {s config : State} (h : s.Fulfils config) :
    (s.checkSize config : Request σ Unit) = pure () := by
  rw [State.checkSize, h.sizeGib]
  rcases config.sizeGib with n | _ | _
  · exact if_neg (Int.lt_irrefl n)
  · rfl
  · rfl

/-- A valid volume has a size, unless it is undecided. -/
theorem State.size_of_valid {σ : Type} {config : State}
    (valid : (resource.validate config : Request σ Unit).CanReturn ()) :
    config.sizeGib.isNull = false := by
  have valid : config.validate = [] := valid.of_checks
  rcases size : config.sizeGib with n | _ | _
  · rfl
  · simp [validate, size] at valid
  · rfl

/-- A volume needs no second application. -/
theorem appliesOnce : AppliesOnce resource := by
  intro config valid env session after diagnostics reported s memory run
  have fulfils := create_fulfils memory run
  let planned : State := { config with
    id := s.id
    status := s.status
    volumeType := config.volumeType.orElse s.volumeType }
  have replace : s.replacements planned = [] := by
    simp only [State.replacements, planned, fulfils.availabilityZone, fulfils.snapshotId]
    rfl
  have request : updateRequest s planned = ⟨none, none⟩ := by
    simp only [updateRequest, planned, fulfils.name, fulfils.sizeGib,
      Attr.changed_getD (State.size_of_valid valid)]
    rfl
  refine ⟨planned, fun diagnostics env' again => ⟨?_, ?_⟩⟩
  · have plan : State.planUpdate s config = (planned, []) := by
      rw [State.planUpdate, replace]
    change (do
      s.checkSize config
      return State.planUpdate s config : Request _ _) diagnostics env' again = _
    rw [fulfils.checkSize, plan]
    rfl
  · change (if updateRequest s planned = ⟨none, none⟩ then _ else _ : Request _ State)
      diagnostics env' again = _
    rw [if_pos request]
    rfl

end Volume

/-! ### Snapshots -/

namespace Snapshot

/-- A snapshot that is what a configuration asks for. -/
structure State.Fulfils (s config : State) : Prop where
  volumeId : config.volumeId.changed s.volumeId = false
  description : config.description.changed s.description = false

/-- A snapshot that was created is what was asked for. -/
theorem create_fulfils (memory : env.api = Faulty.api MemoryCloud.api) {config s : State}
    (run : resource.create config.planCreate diagnostics env session =
      ((some s, reported), after)) : s.Fulfils config := by
  obtain ⟨id, _, there, created, awaited⟩ := Request.bind_eq_some run
  have served : MemoryCloud.createSnapshot config.planCreate.createRequest session.cloud.cloud =
      .ok (id, there.cloud.cloud) :=
    Faulty.served_of_call memory (Request.orReport_eq_some created).1
  obtain ⟨volume, created⟩ := MemoryCloud.create_of_createSnapshot served
  obtain ⟨number, kept⟩ := MemoryCloud.create_keeps created
  obtain ⟨status, rfl⟩ := Faulty.exists_of_await_kept memory rfl kept awaited
  exact ⟨Attr.changed_text _, Attr.changed_nonempty? _⟩

/-- A snapshot needs no second application. -/
theorem appliesOnce : AppliesOnce resource := by
  intro config _ env session after diagnostics reported s memory run
  have fulfils := create_fulfils memory run
  have plan : State.planUpdate s config = (s, []) := by
    rw [State.planUpdate, State.replacements, fulfils.volumeId, fulfils.description]
    rfl
  refine ⟨s, fun diagnostics env' again => ⟨?_, rfl⟩⟩
  change (pure (State.planUpdate s config) : Request _ _) diagnostics env' again = _
  rw [plan]
  rfl

end Snapshot

/-! ### Instances -/

namespace Instance

/-- Tags that were sent are read back as they were sent. -/
theorem Tags.toRemote_ofRemote (tags : StringMap String) :
    (Tags.ofRemote tags).toRemote = tags := by
  rw [ofRemote]
  split
  · next none =>
    obtain ⟨entries, sorted⟩ := tags
    obtain rfl : entries = [] := List.isEmpty_iff.1 none
    rfl
  · have kept : (tags.map Attr.known).filterMap Attr.toOption = tags := by
      obtain ⟨entries, sorted⟩ := tags
      simp only [StringMap.map, StringMap.filterMap, StringMap.mk.injEq, List.filterMap_filterMap]
      exact (List.filterMap_congr fun _ _ => rfl).trans List.filterMap_some
    exact kept

/-- Tags do not differ from those that were sent. -/
theorem Tags.changed_toRemote (tags : Tags) : tags.changed (.ofRemote tags.toRemote) = false := by
  rw [changed, toRemote_ofRemote, bne_self_eq_false, ite_self]

/-- An instance that is what a configuration asks for. -/
structure State.Fulfils (s config : State) : Prop where
  name : config.name.changed s.name = false
  imageId : config.imageId.changed s.imageId = false
  instanceType : config.instanceType.changed s.instanceType = false
  subnetId : config.subnetId.changed s.subnetId = false
  tags : config.tags.changed s.tags = false

/-- An instance that was created is what was asked for. -/
theorem create_fulfils (memory : env.api = Faulty.api MemoryCloud.api) {config s : State}
    (run : resource.create config.planCreate diagnostics env session =
      ((some s, reported), after)) : s.Fulfils config := by
  obtain ⟨id, _, there, created, awaited⟩ := Request.bind_eq_some run
  have served : MemoryCloud.createInstance config.planCreate.createRequest session.cloud.cloud =
      .ok (id, there.cloud.cloud) :=
    Faulty.served_of_call memory (Request.orReport_eq_some created).1
  rw [MemoryCloud.createInstance] at served
  obtain ⟨number, kept⟩ := MemoryCloud.create_keeps served
  obtain ⟨status, rfl⟩ := Faulty.exists_of_await_kept memory rfl kept awaited
  exact ⟨Attr.changed_text _, Attr.changed_text _, Attr.changed_text _, Attr.changed_nonempty? _,
    Tags.changed_toRemote _⟩

/-- An instance needs no second application. -/
theorem appliesOnce : AppliesOnce resource := by
  intro config _ env session after diagnostics reported s memory run
  have fulfils := create_fulfils memory run
  have replace : s.replacements config = [] := by
    rw [State.replacements, fulfils.imageId, fulfils.subnetId]
    rfl
  let planned : State := { config with id := s.id, privateIp := s.privateIp, status := s.status }
  have request : updateRequest s planned = ⟨none, none, none⟩ := by
    simp only [updateRequest, planned, fulfils.name, fulfils.instanceType, fulfils.tags]
    rfl
  refine ⟨planned, fun diagnostics env' again => ⟨?_, ?_⟩⟩
  · change (pure (State.planUpdate s config) : Request _ _) diagnostics env' again = _
    rw [State.planUpdate, replace]
    rfl
  · change (if updateRequest s planned = ⟨none, none, none⟩ then _ else _ : Request _ State)
      diagnostics env' again = _
    rw [if_pos request]
    rfl

end Instance

/-! ### Registries -/

namespace Registry

/-- A registry that is what a configuration asks for. -/
structure State.Fulfils (s config : State) : Prop where
  name : config.name.changed s.name = false
  isPublic : config.withDefaults.isPublic.changed s.isPublic = false

/-- A registry that was created is what was asked for. -/
theorem create_fulfils (memory : env.api = Faulty.api MemoryCloud.api) {config s : State}
    (run : resource.create config.planCreate diagnostics env session =
      ((some s, reported), after)) : s.Fulfils config := by
  obtain ⟨registry, _, there, created, returned⟩ := Request.bind_eq_some run
  have served : MemoryCloud.createRegistry config.planCreate.createRequest session.cloud.cloud =
      .ok (registry, there.cloud.cloud) :=
    Faulty.served_of_call memory (Request.orReport_eq_some created).1
  obtain ⟨name, isPublic⟩ := MemoryCloud.of_createRegistry served
  obtain ⟨rfl, -⟩ := Request.pure_eq_some returned
  have given : config.withDefaults.isPublic.isNull = false := by
    rw [State.withDefaults]
    cases config.isPublic <;> rfl
  constructor
  · rw [State.ofRemote, name]
    exact Attr.changed_text _
  · rw [State.ofRemote, isPublic]
    exact Attr.changed_getD given false

/-- A registry needs no second application. -/
theorem appliesOnce : AppliesOnce resource := by
  intro config _ env session after diagnostics reported s memory run
  have fulfils := create_fulfils memory run
  let planned : State := { config.withDefaults with id := s.id, endpoint := s.endpoint }
  refine ⟨planned, fun diagnostics env' again => ⟨?_, ?_⟩⟩
  · change (pure (State.planUpdate s config) : Request _ _) diagnostics env' again = _
    rw [State.planUpdate, fulfils.name]
    rfl
  · change (if planned.isPublic.changed s.isPublic then _ else _ : Request _ State)
      diagnostics env' again = _
    rw [if_neg (Bool.eq_false_iff.1 fulfils.isPublic)]
    rfl

end Registry

/-! ### All resources -/

/-- Volumes, snapshots, instances and registries need no second application, also where a
configuration leaves attributes undecided. -/
theorem applies_once : AppliesOnce Volume.resource ∧ AppliesOnce Snapshot.resource ∧
    AppliesOnce Instance.resource ∧ AppliesOnce Registry.resource :=
  ⟨Volume.appliesOnce, Snapshot.appliesOnce, Instance.appliesOnce, Registry.appliesOnce⟩

/-! ### Sample applications -/

/-- A valid configuration is created, planned again without a change, and updated without a call. -/
def AppliedAgain {S : Type} (r : Resource (Faulty MemoryCloud) S) (config : S)
    (env : Environment (Faulty MemoryCloud)) (session : Session (Faulty MemoryCloud)) : Prop :=
  (r.validate config).CanReturn () ∧ ∃ s after planned,
    (do r.create (← r.planCreate config)) .none env session = ((some s, .none), after) ∧
    r.planUpdate s config .none env after = ((some (planned, []), .none), after) ∧
    r.update s planned .none env after = ((some planned, .none), after)

/-- A valid configuration whose creation succeeds is applied again. -/
theorem AppliesOnce.appliedAgain {S : Type} {r : Resource (Faulty MemoryCloud) S}
    (once : AppliesOnce r) {config : S} (memory : env.api = Faulty.api MemoryCloud.api)
    (valid : (r.validate config .none env session).1.1 = some ())
    (created : ((do r.create (← r.planCreate config)) .none env session).1.1.isSome = true)
    (silent : ((do r.create (← r.planCreate config)) .none env session).1.2 = .none) :
    AppliedAgain r config env session := by
  have accepted : (r.validate config).CanReturn () :=
    ⟨.none, env, session, _, _, Prod.ext (Prod.ext valid rfl) rfl⟩
  refine ⟨accepted, ?_⟩
  rcases run : (do r.create (← r.planCreate config)) .none env session with
    ⟨⟨_ | s, reported⟩, after⟩
  · rw [run] at created
    cases created
  · rw [run] at silent
    obtain rfl := silent
    obtain ⟨planned, idle⟩ := once config accepted env session after _ _ s memory run
    obtain ⟨plan, update⟩ := idle .none env after
    exact ⟨s, after, planned, run, plan, update⟩

/-- A cloud in memory whose volumes are polled every second. -/
def sampleCloud : Environment (Faulty MemoryCloud) :=
  ⟨Faulty.api MemoryCloud.api, ⟨1, 100, ⟨10, 10, 10, 10⟩⟩, none, 100⟩

/-- A session on a cloud that has one volume. -/
def sampleSession : Session (Faulty MemoryCloud) :=
  let volume : Remote.Volume :=
    ⟨"vol-7", none, 8, some "standard", some "zone-a", none, "completed", none⟩
  ⟨0, .of (MemoryCloud.withEntry "vol-7" (⟨volume, []⟩ : Entry Remote.Volume) .empty), []⟩

/-- Configurations with blank texts, and attributes, tags and a type that are left out. -/
theorem applies_once_sample :
    AppliedAgain Volume.resource
      ⟨.null, .known "", .known 8, .null, .known "zone-a", .known "", .null⟩
      sampleCloud sampleSession ∧
    AppliedAgain Snapshot.resource ⟨.null, .known "vol-7", .known "", .null, .null⟩
      sampleCloud sampleSession ∧
    AppliedAgain Instance.resource
      ⟨.null, .known "web", .known "image-1", .known "small", .known "", .null,
        .known (.ofList [("team", .known "ops"), ("old", .null), ("note", .known "")]), .null⟩
      sampleCloud sampleSession ∧
    AppliedAgain Registry.resource ⟨.null, .known "images", .null, .null⟩
      sampleCloud sampleSession :=
  ⟨applies_once.1.appliedAgain rfl (by decide +kernel) (by decide +kernel) (by decide +kernel),
    applies_once.2.1.appliedAgain rfl (by decide +kernel) (by decide +kernel) (by decide +kernel),
    applies_once.2.2.1.appliedAgain rfl (by decide +kernel) (by decide +kernel) (by decide +kernel),
    applies_once.2.2.2.appliedAgain rfl (by decide +kernel) (by decide +kernel)
      (by decide +kernel)⟩

end CloudProvision
