import CloudProvision.Proofs.Reapplication
import CloudProvision.Proofs.Retention

/-!
# What an update returns

An update of a volume or of an instance sends what differs between the plan and the prior state. If
nothing does, it makes no call and returns the plan. Either way what it returns should be what a
read finds afterwards, on any API that applies partial updates and keeps the rest. For instances it
is. For volumes it is too, but for the type, which an update cannot send: a plan for another type
alone is returned as if it had been carried out.

## Main results

* `Volume.update_reads_back_iff`: when the volume that an update returns is the one that is read.
* `Instance.update_reads_back`: an instance that an update returns is the one that is read, and what
  was planned has become of it.
-/

namespace CloudProvision

open Remote Operation

/-- A field that is sent only if it has changed gets the new value. -/
theorem getD_sent {α : Type} {changed : Bool} {old new : α} (kept : changed = false → old = new) :
    (if changed then some new else none).getD old = new := by
  cases changed with
  | false => exact kept rfl
  | true => rfl

/-! ### Volumes -/

namespace Volume

variable {σ : Type} {env : Environment σ} {session after : Session σ} {v w : Remote.Volume}
  {holds : σ → Remote.Volume → Prop} {proposed planned s : State}
  {diagnostics reported : Diagnostics}

/-- A volume but for its status. -/
def details (v : Remote.Volume) : Remote.Volume :=
  { v with status := "", errorMessage := none }

/-- An API that keeps the volume with an identifier. -/
abbrev Retained (api : Api σ) (id : String) (holds : σ → Remote.Volume → Prop) : Prop :=
  Retains api (.getVolume id) (.updateVolume id) MemoryCloud.updatedVolume details holds

/-- Nothing differs between two states of a volume, whatever their types. -/
structure State.AgreesUpToType (s t : State) : Prop where
  id : s.id.changed t.id = false
  name : s.name.changed t.name = false
  sizeGib : s.sizeGib.changed t.sizeGib = false
  availabilityZone : s.availabilityZone.changed t.availabilityZone = false
  snapshotId : s.snapshotId.changed t.snapshotId = false
  status : s.status.changed t.status = false

theorem State.AgreesUpToType.refl (s : State) : s.AgreesUpToType s := by
  constructor <;> exact Attr.changed_self _

/-- A read returns what the API holds, once it is completed. -/
theorem readsAs (laws : Retained env.api v.id holds) (held : holds session.cloud w)
    (completed : w.status = "completed") (id : s.id = .known v.id) :
    resource.ReadsAs env.api .getVolume v.id session.cloud s (.ofRemote w) := by
  refine laws.readsAs held completed "Could not read volume" ?_
  simp only [resource, id, Attr.nonempty?, String.isEmpty_iff]
  by_cases blank : v.id = ""
  · rw [if_pos blank, if_pos blank]
  · rw [if_neg blank, if_neg blank]

/-- There is nothing to send if neither the name nor the size differs. -/
theorem updateRequest_eq_none_iff {prior : State} : updateRequest prior planned = ⟨none, none⟩ ↔
    planned.name.changed prior.name = false ∧ planned.sizeGib.changed prior.sizeGib = false := by
  simp [updateRequest]

/-- A plan without another volume keeps what an update cannot send, but for the type. -/
theorem State.of_planUpdate {prior : State}
    (plan : (resource.planUpdate prior proposed : Request σ _).CanReturn (planned, [])) :
    planned.id = prior.id ∧ planned.status = prior.status ∧
      planned.availabilityZone.changed prior.availabilityZone = false ∧
      planned.snapshotId.changed prior.snapshotId = false := by
  obtain ⟨-, -, plan⟩ := plan.of_bind
  obtain ⟨rfl, replace⟩ := Prod.mk.inj plan.of_pure
  obtain ⟨zone, snapshot⟩ := List.append_eq_nil_iff.1 replace
  exact ⟨rfl, rfl, by simpa using zone, by simpa using snapshot⟩

/-- An update that succeeds returns the plan if there is nothing to send, and else the updated
volume that the API holds. -/
theorem update_outcome (laws : Retained env.api v.id holds) (held : holds session.cloud v)
    (completed : v.status = "completed")
    (run : resource.update (.ofRemote v) planned diagnostics env session =
      ((some s, reported), after)) :
    ∃ w, holds after.cloud w ∧ w.status = "completed" ∧
      (updateRequest (.ofRemote v) planned = ⟨none, none⟩ ∧ w = v ∧ s = planned ∨
        updateRequest (.ofRemote v) planned ≠ ⟨none, none⟩ ∧
          details w = details (MemoryCloud.updatedVolume (updateRequest (.ofRemote v) planned) v) ∧
          s = .ofRemote w) :=
  (laws.update_outcome held completed run).2 s rfl

/-- The volume that an update without another volume returns is the one that is read afterwards, but
for its type. The type differs from the one that is read exactly if another one was planned, and
neither another name nor another size. -/
theorem update_reads_back_iff (laws : Retained env.api v.id holds) (held : holds session.cloud v)
    (completed : v.status = "completed")
    (plan : (resource.planUpdate (.ofRemote v) proposed : Request σ _).CanReturn (planned, []))
    (run : resource.update (.ofRemote v) planned diagnostics env session =
      ((some s, reported), after)) :
    ∃ w, holds after.cloud w ∧
      resource.ReadsAs env.api .getVolume v.id after.cloud s (.ofRemote w) ∧
      s.AgreesUpToType (.ofRemote w) ∧
      (s.volumeType.changed (.ofOption w.volumeType) = true ↔
        planned.name.changed (.ofOption v.name) = false ∧
        planned.sizeGib.changed (.known v.sizeGib) = false ∧
        planned.volumeType.changed (.ofOption v.volumeType) = true) := by
  obtain ⟨id, status, zone, snapshot⟩ := State.of_planUpdate plan
  obtain ⟨w, hw, done, ⟨idle, rfl, rfl⟩ | ⟨sent, same, rfl⟩⟩ :=
    update_outcome laws held completed run
  · -- The volume stays what it was, and the plan is returned in its place.
    obtain ⟨name, size⟩ := updateRequest_eq_none_iff.1 idle
    refine ⟨w, hw, readsAs laws hw done id, ⟨?_, name, size, zone, snapshot, ?_⟩, ?_⟩
    · rw [id]
      exact Attr.changed_self _
    · rw [status]
      exact Attr.changed_self _
    · exact ⟨fun type => ⟨name, size, type⟩, fun h => h.2.2⟩
  · -- What is returned is the volume itself.
    have id : w.id = v.id := (congrArg Remote.Volume.id same :)
    refine ⟨w, hw, readsAs laws hw done (congrArg Attr.known id), .refl _, ?_⟩
    refine iff_of_false ?_ fun h => sent (updateRequest_eq_none_iff.2 ⟨h.1, h.2.1⟩)
    exact Bool.eq_false_iff.1 (Attr.changed_self _)

/-- A volume in a cloud in memory is kept. -/
theorem retained (id : String) : Retained (Faulty.api MemoryCloud.api) id
    fun s => MemoryCloud.Settling id s.cloud :=
  Faulty.retains rfl (fun _ _ _ _ served => served) (fun _ _ => rfl) fun _ => rfl

/-- The volume of the sample session. -/
def sampleVolume : Remote.Volume :=
  ⟨"vol-7", none, 8, some "standard", some "zone-a", none, "completed", none⟩

/-- The plan that renames the sample volume, enlarges it and asks for another type. -/
def samplePlan : State :=
  { State.ofRemote sampleVolume with
    name := .known "data", sizeGib := .known 16, volumeType := .known "fast" }

/-- An update that sends something is read back as it was returned. -/
theorem update_reads_back_iff_sample : ∃ s after,
    resource.update (.ofRemote sampleVolume) samplePlan .none sampleCloud sampleSession =
      ((some s, .none), after) ∧
    ∃ w, MemoryCloud.Settling "vol-7" after.cloud.cloud w ∧
      resource.ReadsAs sampleCloud.api .getVolume "vol-7" after.cloud s (.ofRemote w) ∧
      s.AgreesUpToType (.ofRemote w) ∧
      (s.volumeType.changed (.ofOption w.volumeType) = true ↔
        samplePlan.name.changed (.ofOption none) = false ∧
        samplePlan.sizeGib.changed (.known 8) = false ∧
        samplePlan.volumeType.changed (.ofOption (some "standard")) = true) := by
  obtain ⟨s, after, run⟩ := Request.exists_eq_some
    (resource.update (.ofRemote sampleVolume) samplePlan .none sampleCloud sampleSession) .none
    (by decide +kernel)
  have plan : (resource.planUpdate (.ofRemote sampleVolume) samplePlan :
      Request (Faulty MemoryCloud) _).CanReturn (samplePlan, []) :=
    ⟨.none, sampleCloud, sampleSession, .none, sampleSession, rfl⟩
  exact ⟨s, after, run,
    update_reads_back_iff (retained "vol-7") ⟨[], rfl, by simp⟩ rfl plan run⟩

/-- The plan of another type alone succeeds without a call, and is not what is read afterwards. -/
theorem update_misses_type :
    let proposed : State := { State.ofRemote sampleVolume with volumeType := .known "fast" }
    let session := sampleSession
    resource.validate proposed .none sampleCloud session = ((some (), .none), session) ∧
    resource.planUpdate (.ofRemote sampleVolume) proposed .none sampleCloud session =
      ((some (proposed, []), .none), session) ∧
    sampleVolume.status = "completed" ∧
    (Retained sampleCloud.api "vol-7" fun s => MemoryCloud.Settling "vol-7" s.cloud) ∧
    MemoryCloud.Settling "vol-7" session.cloud.cloud sampleVolume ∧
    resource.update (.ofRemote sampleVolume) proposed .none sampleCloud session =
      ((some proposed, .none), session) ∧
    ∃ found there,
      resource.read proposed .none sampleCloud session = ((some (some found), .none), there) ∧
      proposed.volumeType.changed found.volumeType = true :=
  ⟨rfl, rfl, rfl, retained "vol-7", ⟨[], rfl, by simp⟩, rfl, .ofRemote sampleVolume, _, rfl, rfl⟩

end Volume

/-! ### Instances -/

namespace Instance

variable {σ : Type} {env : Environment σ} {session after : Session σ} {i w : Remote.Instance}
  {holds : σ → Remote.Instance → Prop} {proposed planned s : State} {diagnostics : Diagnostics}

/-- An instance but for its status. -/
def details (i : Remote.Instance) : Remote.Instance :=
  { i with status := "", errorMessage := none }

/-- An API that keeps the instance with an identifier. -/
abbrev Retained (api : Api σ) (id : String) (holds : σ → Remote.Instance → Prop) : Prop :=
  Retains api (.getInstance id) (.updateInstance id) MemoryCloud.updatedInstance details holds

/-- Nothing differs between two states of an instance. -/
structure State.Agrees (s t : State) : Prop where
  id : s.id.changed t.id = false
  name : s.name.changed t.name = false
  imageId : s.imageId.changed t.imageId = false
  instanceType : s.instanceType.changed t.instanceType = false
  subnetId : s.subnetId.changed t.subnetId = false
  privateIp : s.privateIp.changed t.privateIp = false
  tags : s.tags.changed t.tags = false
  status : s.status.changed t.status = false

/-- Tags do not differ from themselves. -/
theorem Tags.changed_self (tags : Tags) : tags.changed tags = false := by
  rw [changed, bne_self_eq_false, ite_self]

theorem State.Agrees.refl (s : State) : s.Agrees s := by
  constructor <;> first | exact Attr.changed_self _ | exact Tags.changed_self _

/-- The instance has become what an update can make of it, as far as the plan decides it. Texts that
are left out are empty, and so are tags without a value. -/
structure State.Attained (planned : State) (w : Remote.Instance) : Prop where
  name : planned.name.isUnknown = false → w.name = planned.name.text
  instanceType : planned.instanceType.isUnknown = false →
    w.instanceType = planned.instanceType.text
  tags : planned.tags.isUnknown = false → planned.tags.hasUnknown = false →
    w.tags = planned.tags.toRemote

/-- Tags that are decided and do not differ from those of an instance are these tags. -/
theorem Tags.eq_of_changed_eq_false {tags : Tags} {sent : StringMap String}
    (decided : tags.isUnknown = false) (entries : tags.hasUnknown = false)
    (h : tags.changed (.ofRemote sent) = false) : sent = tags.toRemote := by
  have known : (Tags.ofRemote sent).isUnknown = false := by
    rw [ofRemote]
    split <;> rfl
  rw [changed, decided, known, entries, toRemote_ofRemote] at h
  exact (bne_eq_false_iff_eq.1 (by simpa using h)).symm

/-- A read returns what the API holds, once it is completed. -/
theorem readsAs (laws : Retained env.api i.id holds) (held : holds session.cloud w)
    (completed : w.status = "completed") (id : s.id = .known i.id) :
    resource.ReadsAs env.api .getInstance i.id session.cloud s (.ofRemote w) := by
  refine laws.readsAs held completed "Could not read instance" ?_
  simp only [resource, id, Attr.nonempty?, String.isEmpty_iff]
  by_cases blank : i.id = ""
  · rw [if_pos blank, if_pos blank]
  · rw [if_neg blank, if_neg blank]

/-- There is nothing to send if neither the name, the type nor the tags differ. -/
theorem updateRequest_eq_none_iff {prior : State} :
    updateRequest prior planned = ⟨none, none, none⟩ ↔
      planned.name.changed prior.name = false ∧
      planned.instanceType.changed prior.instanceType = false ∧
      planned.tags.changed prior.tags = false := by
  simp [updateRequest]

/-- The request for the changes of an instance, applied to it, makes it what was planned. -/
theorem attained_updatedInstance (i : Remote.Instance) (planned : State) :
    planned.Attained
      (MemoryCloud.updatedInstance (updateRequest (.ofRemote i) planned) i) where
  name decided := getD_sent (Attr.text_eq_of_changed_eq_false decided)
  instanceType decided := getD_sent (Attr.text_eq_of_changed_eq_false decided)
  tags decided entries := getD_sent (Tags.eq_of_changed_eq_false decided entries)

/-- What a plan is about are details of the instance. -/
theorem State.Attained.of_details {x : Remote.Instance} (h : planned.Attained x)
    (same : details w = details x) : planned.Attained w where
  name decided := (congrArg Remote.Instance.name same :).trans (h.name decided)
  instanceType decided :=
    (congrArg Remote.Instance.instanceType same :).trans (h.instanceType decided)
  tags decided entries := (congrArg Remote.Instance.tags same :).trans (h.tags decided entries)

/-- A plan without another instance keeps what an update cannot send. -/
theorem State.of_planUpdate {prior : State}
    (plan : (resource.planUpdate prior proposed : Request σ _).CanReturn (planned, [])) :
    planned.id = prior.id ∧ planned.privateIp = prior.privateIp ∧ planned.status = prior.status ∧
      planned.imageId.changed prior.imageId = false ∧
      planned.subnetId.changed prior.subnetId = false := by
  obtain ⟨kept, replace⟩ := Prod.mk.inj plan.of_pure
  rw [replace] at kept
  obtain rfl := kept
  obtain ⟨image, subnet⟩ := List.append_eq_nil_iff.1 replace
  exact ⟨rfl, rfl, rfl, by simpa using image, by simpa using subnet⟩

/-- An update makes no call exactly if there is nothing to send. If it succeeds, it returns the plan
in this case, and else the updated instance that the API holds. -/
theorem update_outcome (laws : Retained env.api i.id holds) (held : holds session.cloud i)
    (completed : i.status = "completed") {answer : Option State × Diagnostics}
    (run : resource.update (.ofRemote i) planned diagnostics env session = (answer, after)) :
    (after.trace = session.trace ↔ updateRequest (.ofRemote i) planned = ⟨none, none, none⟩) ∧
    ∀ s, answer.1 = some s → ∃ w, holds after.cloud w ∧ w.status = "completed" ∧
      (updateRequest (.ofRemote i) planned = ⟨none, none, none⟩ ∧ w = i ∧ s = planned ∨
        updateRequest (.ofRemote i) planned ≠ ⟨none, none, none⟩ ∧
          details w =
            details (MemoryCloud.updatedInstance (updateRequest (.ofRemote i) planned) i) ∧
          s = .ofRemote w) :=
  laws.update_outcome held completed run

/-- An update without another instance makes no call exactly if neither the name, the type nor the
tags differ. If it succeeds then they are what was planned, and what it returns is the instance that
is read afterwards. -/
theorem update_reads_back (laws : Retained env.api i.id holds) (held : holds session.cloud i)
    (completed : i.status = "completed")
    (plan : (resource.planUpdate (.ofRemote i) proposed : Request σ _).CanReturn (planned, []))
    {answer : Option State × Diagnostics}
    (run : resource.update (.ofRemote i) planned diagnostics env session = (answer, after)) :
    (after.trace = session.trace ↔ planned.name.changed (.known i.name) = false ∧
      planned.instanceType.changed (.known i.instanceType) = false ∧
      planned.tags.changed (.ofRemote i.tags) = false) ∧
    ∀ s, answer.1 = some s → ∃ w, holds after.cloud w ∧ planned.Attained w ∧
      resource.ReadsAs env.api .getInstance i.id after.cloud s (.ofRemote w) ∧
      s.Agrees (.ofRemote w) := by
  obtain ⟨id, address, status, image, subnet⟩ := State.of_planUpdate plan
  obtain ⟨trace, outcome⟩ := update_outcome laws held completed run
  refine ⟨trace.trans updateRequest_eq_none_iff, fun s ok => ?_⟩
  have attained := attained_updatedInstance i planned
  obtain ⟨w, hw, done, ⟨idle, rfl, rfl⟩ | ⟨-, same, rfl⟩⟩ := outcome s ok
  · -- An empty request leaves the instance as it is, so what differed from the plan would have been
    -- sent.
    rw [idle] at attained
    obtain ⟨name, type, tags⟩ := updateRequest_eq_none_iff.1 idle
    refine ⟨w, hw, attained, readsAs laws hw done id, ⟨?_, name, image, type, subnet, ?_, tags, ?_⟩⟩
    · rw [id]
      exact Attr.changed_self _
    · rw [address]
      exact Attr.changed_self _
    · rw [status]
      exact Attr.changed_self _
  · have id : w.id = i.id := (congrArg Remote.Instance.id same :)
    exact ⟨w, hw, attained.of_details same, readsAs laws hw done (congrArg Attr.known id), .refl _⟩

/-- An instance in a cloud in memory is kept. -/
theorem retained (id : String) : Retained (Faulty.api MemoryCloud.api) id
    fun s => MemoryCloud.Settling id s.cloud :=
  Faulty.retains rfl (fun _ _ _ _ served => served) (fun _ _ => rfl) fun _ => rfl

/-- An instance with a tag. -/
def sampleMachine : Remote.Instance :=
  ⟨"i-3", "web", "image-1", "small", none, some "10.0.0.3", .ofList [("team", "ops")], "completed",
    none⟩

/-- A session on a cloud that has this instance. -/
def sampleMachines : Session (Faulty MemoryCloud) :=
  ⟨0, .of (MemoryCloud.withEntry "i-3" ⟨sampleMachine, []⟩ .empty), []⟩

/-- The plan that gives the sample instance another type, and takes its tag from it. -/
def samplePlan : State :=
  { State.ofRemote sampleMachine with
    instanceType := .known "large"
    subnetId := .known ""
    tags := .known (.ofList [("team", .null)]) }

/-- A type and tags that are updated are read back, and a call is made for them. -/
theorem update_reads_back_sample : ∃ s after,
    resource.update (.ofRemote sampleMachine) samplePlan .none sampleCloud sampleMachines =
      ((some s, .none), after) ∧
    (after.trace = sampleMachines.trace ↔
      samplePlan.name.changed (.known sampleMachine.name) = false ∧
      samplePlan.instanceType.changed (.known sampleMachine.instanceType) = false ∧
      samplePlan.tags.changed (.ofRemote sampleMachine.tags) = false) ∧
    ∃ w, MemoryCloud.Settling "i-3" after.cloud.cloud w ∧ samplePlan.Attained w ∧
      resource.ReadsAs sampleCloud.api .getInstance "i-3" after.cloud s (.ofRemote w) ∧
      s.Agrees (.ofRemote w) := by
  obtain ⟨s, after, run⟩ := Request.exists_eq_some
    (resource.update (.ofRemote sampleMachine) samplePlan .none sampleCloud sampleMachines) .none
    (by decide +kernel)
  have plan : (resource.planUpdate (.ofRemote sampleMachine) samplePlan :
      Request (Faulty MemoryCloud) _).CanReturn (samplePlan, []) :=
    ⟨.none, sampleCloud, sampleMachines, .none, sampleMachines, rfl⟩
  obtain ⟨trace, outcome⟩ :=
    update_reads_back (retained "i-3") ⟨[], rfl, by simp⟩ rfl plan run
  exact ⟨s, after, run, trace, outcome s rfl⟩

end Instance

end CloudProvision
