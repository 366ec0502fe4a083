import CloudProvision.MemoryCloud
import CloudProvision.MemoryCloud.Fault
import CloudProvision.Proofs.Request

/-!
# Objects that a cloud in memory keeps

An object that was created is returned by every later read, until it is gone, with nothing changed
but its status. What is proved here holds of each kind of object that has a table.

## Main definitions

* `LawfulStored`: a kind whose table can be replaced, and whose objects have one status.
* `MemoryCloud.Keeps`: the object with an identifier is the one that was made, up to its status.

## Main results

* `MemoryCloud.create_keeps`: what was created is kept.
* `MemoryCloud.Keeps.read`: a read returns what is kept, and keeps it.
* `Faulty.await_kept`: so does a wait, whatever goes wrong with its calls.
-/

namespace CloudProvision

open Remote

namespace StringMap

variable {α : Type}

/-- A value that was put at a key is found there. -/
theorem get?_insert_self (m : StringMap α) (key : String) (value : α) :
    (m.insert key value).get? key = some value := by
  change (insertEntry key value m.toList).lookup key = some value
  generalize m.toList = entries
  induction entries with
  | nil => simp [insertEntry]
  | cons head rest ih =>
      obtain ⟨k, v⟩ := head
      rw [insertEntry]
      split
      · exact List.lookup_cons_self
      · split
        · next gt =>
          have ne : (key == k) = false := beq_eq_false_iff_ne.2 fun eq =>
            String.lt_irrefl k (eq ▸ gt)
          rw [List.lookup_cons, ne]
          exact ih
        · exact List.lookup_cons_self

/-- Nothing is found at a key that was erased. -/
theorem get?_erase_self (m : StringMap α) (key : String) : (m.erase key).get? key = none := by
  rw [get?, erase, List.lookup_eq_none_iff]
  intro e he
  simpa [bne_iff_ne, ne_comm] using (List.mem_filter.1 he).2

end StringMap

/-- Kinds with a table of their own, whose objects have one status. -/
class LawfulStored (α : Type) [Stored α] : Prop where
  table_withTable : ∀ (objects : StringMap (Entry α)) (cloud : MemoryCloud),
    Stored.table (Stored.withTable objects cloud) = objects
  withStatus_withStatus : ∀ (after before : String) (x : α),
    Stored.withStatus after (Stored.withStatus before x) = Stored.withStatus after x

instance : LawfulStored Volume := ⟨fun _ _ => rfl, fun _ _ _ => rfl⟩
instance : LawfulStored Snapshot := ⟨fun _ _ => rfl, fun _ _ _ => rfl⟩
instance : LawfulStored Instance := ⟨fun _ _ => rfl, fun _ _ _ => rfl⟩
instance : LawfulStored Registry := ⟨fun _ _ => rfl, fun _ _ _ => rfl⟩
instance : LawfulStored LoadBalancer := ⟨fun _ _ => rfl, fun _ _ _ => rfl⟩

namespace MemoryCloud

section Kept

variable {α : Type} [Stored α]

/-- The object is the one that was made, in some status. -/
def IsMade (made x : α) : Prop :=
  ∃ status, x = Stored.withStatus status made

/-- If the cloud has an object with the identifier, it is the one that was made. -/
def Keeps (made : α) (id : String) (cloud : MemoryCloud) : Prop :=
  ∀ entry : Entry α, (Stored.table cloud).get? id = some entry → IsMade made entry.object

variable {made x : α} {id : String} {cloud next : MemoryCloud}

/-- An entry is looked up in the table of its kind. -/
theorem entry_run : (entry id : Served (Entry α)) cloud =
    match (Stored.table cloud : StringMap (Entry α)).get? id with
    | none => .error (.notFound (Stored.kind α ++ " " ++ id))
    | some entry => .ok (entry, cloud) := by
  simp only [entry, bind, StateT.bind, Except.bind, get, getThe, MonadStateOf.get, StateT.get, pure,
    Except.pure]
  cases (Stored.table cloud : StringMap (Entry α)).get? id <;> rfl

/-- An object that is read then goes on, or is gone. -/
theorem read_run : (read id : Served α) cloud =
    match (Stored.table cloud : StringMap (Entry α)).get? id with
    | none => .error (.notFound (Stored.kind α ++ " " ++ id))
    | some entry => .ok (entry.object, match entry.afterRead with
      | some next => withEntry id next cloud
      | none => without α id cloud) := by
  simp only [read, bind, StateT.bind, Except.bind, entry_run]
  rcases (Stored.table cloud : StringMap (Entry α)).get? id with - | entry
  · rfl
  · rcases h : entry.afterRead with - | after <;> simp only [h] <;> rfl

variable [LawfulStored α]

/-- An object that goes on is the one that was made. -/
theorem IsMade.afterRead {before after : Entry α} (h : IsMade made before.object)
    (read : before.afterRead = some after) : IsMade made after.object := by
  obtain ⟨object, pending⟩ := before
  obtain ⟨status, rfl⟩ := h
  rcases pending with - | ⟨name | _, rest⟩
  · exact ⟨status, by rw [← Option.some.inj read]⟩
  · refine ⟨name, ?_⟩
    rw [← Option.some.inj read, LawfulStored.withStatus_withStatus]
  · cases read

/-- The cloud keeps an entry that is put in it. -/
theorem keeps_withEntry {entry : Entry α} (h : IsMade made entry.object) :
    Keeps made id (withEntry id entry cloud) := by
  intro found looked
  rw [withEntry, LawfulStored.table_withTable, StringMap.get?_insert_self] at looked
  exact Option.some.inj looked ▸ h

/-- A read returns the object that is kept, and keeps it. -/
theorem Keeps.read (h : Keeps made id cloud)
    (served : (MemoryCloud.read id : Served α) cloud = .ok (x, next)) :
    IsMade made x ∧ Keeps made id next := by
  rw [read_run] at served
  rcases found : (Stored.table cloud : StringMap (Entry α)).get? id with - | before
  · rw [found] at served
    cases served
  · rw [found] at served
    obtain ⟨rfl, rfl⟩ := Prod.mk.inj (Except.ok.inj served)
    refine ⟨h before found, ?_⟩
    rcases read : before.afterRead with - | after
    · intro entry looked
      rw [without, LawfulStored.table_withTable, StringMap.get?_erase_self] at looked
      cases looked
    · exact keeps_withEntry ((h before found).afterRead read)

/-- What was created is kept under the identifier that is returned. -/
theorem create_keeps {stem final : String} {object : String → Nat → α}
    (served : create stem final object cloud = .ok (id, next)) :
    ∃ number, Keeps (object id number) id next := by
  refine ⟨cloud.issued + 1, ?_⟩
  obtain ⟨volumes, snapshots, instances, registries, loadBalancers, issued, - | pending⟩ := cloud
  · obtain ⟨rfl, rfl⟩ := Prod.mk.inj (Except.ok.inj served)
    exact keeps_withEntry ⟨"creating", rfl⟩
  · obtain ⟨rfl, rfl⟩ := Prod.mk.inj (Except.ok.inj served)
    exact keeps_withEntry ⟨"creating", rfl⟩

end Kept

/-! ### Creations -/

variable {cloud next : MemoryCloud}

/-- A snapshot is created of a volume that exists. -/
theorem create_of_createSnapshot {request : SnapshotCreate} {id : String}
    (served : createSnapshot request cloud = .ok (id, next)) : ∃ volume : Volume,
      create "snap" "completed" (fun id _ =>
        ({ id
           volumeId := request.volumeId
           description := request.description
           sizeGib := some volume.sizeGib
           status := ""
           errorMessage := none } : Snapshot)) cloud = .ok (id, next) := by
  simp only [createSnapshot, find, bind, StateT.bind, Except.bind, entry_run] at served
  rcases found : (Stored.table cloud : StringMap (Entry Volume)).get? request.volumeId with
    - | volume
  · simp only [found] at served
    cases served
  · simp only [found] at served
    exact ⟨volume.object, served⟩

/-- A registry is created as it was asked for. -/
theorem of_createRegistry {request : RegistryCreate} {registry : Registry}
    (served : createRegistry request cloud = .ok (registry, next)) :
    registry.name = request.name ∧ registry.isPublic = request.isPublic := by
  by_cases taken : cloud.registries.values.any (·.object.name == request.name) = true
  · have refused : createRegistry request cloud =
        .error (.rejected 409 ("registry " ++ request.name ++ " already exists")) := by
      simp only [createRegistry, bind, StateT.bind, Except.bind, get, getThe, MonadStateOf.get,
        StateT.get, pure, Except.pure, taken]
      rfl
    cases refused.symm.trans served
  · have accepted : ∃ registry next, createRegistry request cloud = .ok (registry, next) ∧
        registry.name = request.name ∧ registry.isPublic = request.isPublic := by
      simp only [createRegistry, bind, StateT.bind, Except.bind, get, getThe, MonadStateOf.get,
        StateT.get, pure, Except.pure, taken]
      exact ⟨_, _, rfl, rfl, rfl⟩
    obtain ⟨_, _, accepted, is⟩ := accepted
    obtain ⟨rfl, -⟩ := Prod.mk.inj (Except.ok.inj (accepted.symm.trans served))
    exact is

end MemoryCloud

namespace Faulty

open Operation Request

variable {env : Environment (Faulty MemoryCloud)} {session session' : Session (Faulty MemoryCloud)}
  {c : Call}

/-- A call under faults fails as it is told to, or is served; a call that is left has no effect. -/
theorem api_reply (c : Call) (now : Nat) (s : Faulty MemoryCloud) :
    (api MemoryCloud.api c now s).abandoned.cloud = s.cloud ∧
      ((∃ e, (api MemoryCloud.api c now s).answer = .error e ∧
        (api MemoryCloud.api c now s).completed.cloud = s.cloud) ∨
      ∃ x next, MemoryCloud.serve c s.cloud = .ok (x, next) ∧
        (api MemoryCloud.api c now s).answer = .ok x ∧
        (api MemoryCloud.api c now s).completed.cloud = next) := by
  rw [api]
  rcases take c.name s.faults with ⟨⟨delay, _ | e⟩, faults⟩
  · dsimp only [MemoryCloud.api]
    rcases served : (MemoryCloud.serve c).run s.cloud with e | ⟨x, next⟩
    · exact ⟨rfl, .inl ⟨e, rfl, rfl⟩⟩
    · exact ⟨rfl, .inr ⟨x, next, served, rfl, rfl⟩⟩
  · exact ⟨rfl, .inl ⟨e, rfl, rfl⟩⟩

/-- A call that succeeds was served by the cloud. -/
theorem served_of_call (memory : env.api = api MemoryCloud.api) {x : c.Answer}
    (called : call c env session = (.ok x, session')) :
    MemoryCloud.serve c session.cloud.cloud = .ok (x, session'.cloud.cloud) := by
  obtain ⟨answer, rfl⟩ := Prod.mk.inj called
  rw [memory] at answer ⊢
  obtain ⟨-, ⟨e, failed, -⟩ | ⟨y, next, served, answered, rfl⟩⟩ :=
    api_reply c session.now session.cloud
  · cases failed.symm.trans answer
  · obtain rfl := Except.ok.inj (answered.symm.trans answer)
    exact served

/-- A wait that reads an object that is kept returns it, in the status that was waited for. -/
theorem await_kept [Polled c.Answer] [Stored c.Answer] [LawfulStored c.Answer] {made x : c.Answer}
    {id named desired : String} {timeout : Timeouts → Nat} (memory : env.api = api MemoryCloud.api)
    (reads : MemoryCloud.serve c = MemoryCloud.read id)
    (kept : MemoryCloud.Keeps made id session.cloud.cloud)
    (run : await c timeout named desired env session = (.ok x, session')) :
    MemoryCloud.IsMade made x := by
  have step (now : Nat) (s : Faulty MemoryCloud) (hs : MemoryCloud.Keeps made id s.cloud) :
      MemoryCloud.Keeps made id (env.api c now s).completed.cloud ∧
        ∀ y, (env.api c now s).answer = .ok y → MemoryCloud.IsMade made y := by
    rw [memory]
    obtain ⟨-, ⟨e, failed, same⟩ | ⟨y, next, served, answered, after⟩⟩ := api_reply c now s
    · exact ⟨same ▸ hs, fun y hy => by cases failed.symm.trans hy⟩
    · rw [reads] at served
      obtain ⟨isMade, keeps⟩ := hs.read served
      exact ⟨after ▸ keeps, fun z hz => Except.ok.inj (answered.symm.trans hz) ▸ isMade⟩
  obtain ⟨-, now, s, hs, answered, -⟩ := await_ok (P := fun s => MemoryCloud.Keeps made id s.cloud)
    (fun now s hs => (step now s hs).1) kept run
  exact (step now s hs).2 x answered

/-- What is returned of an object after a wait for it is what would be returned of the one that was
made, in some status. -/
theorem exists_of_await_kept [Polled c.Answer] [Stored c.Answer] [LawfulStored c.Answer] {S : Type}
    {readBack : c.Answer → S} {made : c.Answer} {s : S} {id named desired summary : String}
    {timeout : Timeouts → Nat} {diagnostics reported : Diagnostics}
    (memory : env.api = api MemoryCloud.api)
    (reads : MemoryCloud.serve c = MemoryCloud.read id)
    (kept : MemoryCloud.Keeps made id session.cloud.cloud)
    (run : (do return readBack (← orReport (await c timeout named desired) summary) :
      Request _ S) diagnostics env session = ((some s, reported), session')) :
    ∃ status, s = readBack (Stored.withStatus status made) := by
  obtain ⟨x, _, there, found, returned⟩ := bind_eq_some run
  obtain ⟨status, rfl⟩ := await_kept memory reads kept (orReport_eq_some found).1
  exact ⟨status, (pure_eq_some returned).1.symm⟩

end Faulty

end CloudProvision
