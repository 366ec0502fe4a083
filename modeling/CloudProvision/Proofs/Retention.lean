import CloudProvision.Proofs.MemoryCloud.Objects
import CloudProvision.Resource

/-!
# Objects that are updated in part

An update gives some of the fields of an object, and the rest of it stays as it is. `Retains` says
this of an API, for one object and whatever else its calls do: the object goes through its statuses,
an update that succeeds is applied, and nothing else becomes of it. The API of a cloud in memory is
like this, whatever delays or fails its calls.

## Main definitions

* `Retains`: an API that keeps an object, and applies partial updates to it.
* `Resource.ReadsAs`: the state that a read returns.

## Main results

* `Retains.settles`: an update and the wait after it return what the API then holds.
* `Retains.readsAs`: so does a read.
* `Faulty.retains`: a cloud in memory keeps its objects.
-/

namespace CloudProvision

open Remote Operation Request

/-! ### Revisions -/

section Revision

variable {σ S : Type}

/-- Update an object, wait for it to be completed, and return its state. -/
def revision (update fetch : Call) [Polled fetch.Answer] (timeout : Timeouts → Nat)
    (id refused unfinished : String) (readBack : fetch.Answer → S) : Request σ S := do
  let _ ← orReport (call update) refused
  return readBack (← orReport (await fetch timeout id "completed") unfinished)

/-- A revision makes the update, and then only fetches the object. -/
theorem revision_trace {update fetch : Call} [Polled fetch.Answer] {timeout : Timeouts → Nat}
    {id refused unfinished : String} {readBack : fetch.Answer → S} {env : Environment σ}
    {session after : Session σ} {diagnostics : Diagnostics} {answer : Option S × Diagnostics}
    (run : revision update fetch timeout id refused unfinished readBack diagnostics env session =
      (answer, after)) :
    ∃ fetches e, after.trace = fetches ++ e :: session.trace ∧ e.call = update ∧
      ∀ f ∈ fetches, f.call = fetch := by
  rw [revision, Request.bind_run, orReport_run] at run
  rcases called : call update env session with ⟨e | done, there⟩
  · obtain ⟨event, updated, -, -, trace⟩ := call_trace called
    rw [called] at run
    obtain ⟨-, rfl⟩ := Prod.mk.inj run
    exact ⟨[], event, trace, updated, by simp⟩
  · obtain ⟨event, updated, -, -, trace⟩ := call_trace called
    rw [called] at run
    dsimp only at run
    rw [Request.bind_run, orReport_run] at run
    rcases awaited : await fetch timeout id "completed" env there with ⟨result', later⟩
    obtain ⟨fetches, longer, fetched, -⟩ := await_trace awaited
    obtain rfl : later = after := by
      rw [awaited] at run
      rcases result' with _ | _ <;> exact (Prod.mk.inj run).2
    exact ⟨fetches, event, by rw [longer, trace], updated, fetched⟩

end Revision

/-! ### The laws -/

/-- An API that keeps an object: `fetch` returns it, and `update` applies a request to it. Which
object it is on a side of the API is told by `holds`. What an update is about are the `details` of
the object; its status may change as time passes and as it is fetched, and only when this is
`completed` does a fetch have to return the details. -/
structure Retains {σ R δ : Type} (api : Api σ) (fetch : Call) [Polled fetch.Answer]
    (update : R → Call) (apply : R → fetch.Answer → fetch.Answer) (details : fetch.Answer → δ)
    (holds : σ → fetch.Answer → Prop) : Prop where
  /-- A fetch leaves the object, in some status. -/
  kept : ∀ {s x} now, holds s x → ∃ y, holds (api fetch now s).completed y ∧ details y = details x
  /-- A fetch that returns an object that is `completed` returns this one, which is then held so. -/
  fetched : ∀ {s x y} now, holds s x → (api fetch now s).answer = .ok y →
    Polled.status y = "completed" → details y = details x ∧ holds (api fetch now s).completed y
  /-- An object that is `completed` is returned as it is. -/
  settled : ∀ {s x y} now, holds s x → Polled.status x = "completed" →
    (api fetch now s).answer = .ok y → y = x
  /-- An update that succeeds changes what the request asks for, and keeps the rest. -/
  updated : ∀ {s x r done} now, holds s x → (api (update r) now s).answer = .ok done →
    ∃ y, holds (api (update r) now s).completed y ∧ details y = details (apply r x)

/-- Reads of the state `s` of the object named `id`: at any time, in any settings, on the given side
of the API. Where the object has no identifier nothing is fetched. -/
structure Resource.ReadsAs {σ S : Type} (r : Resource σ S) (api : Api σ) (fetch : String → Call)
    (id : String) (cloud : σ) (s found : S) : Prop where
  /-- No other state is returned. -/
  only : ∀ {diagnostics reported : Diagnostics} {env : Environment σ} {session after : Session σ}
    {next : S}, env.api = api → session.cloud = cloud →
      r.read s diagnostics env session = ((some (some next), reported), after) → next = found
  /-- A read whose fetch is answered with an object returns its state. -/
  answered : id ≠ "" → ∀ {env : Environment σ} {session : Session σ} {x : (fetch id).Answer},
    env.api = api → session.cloud = cloud → (call (fetch id) env session).1 = .ok x →
      ∀ diagnostics, r.read s diagnostics env session =
        ((some (some found), diagnostics), (call (fetch id) env session).2)

namespace Retains

variable {σ R δ S : Type} {env : Environment σ} {session after : Session σ} {fetch : Call}
  [Polled fetch.Answer] {update : R → Call} {apply : R → fetch.Answer → fetch.Answer}
  {details : fetch.Answer → δ} {holds : σ → fetch.Answer → Prop} {x found : fetch.Answer}
  {readBack : fetch.Answer → S} {diagnostics reported : Diagnostics}

/-- A wait for the object to be completed returns what the API holds after it. -/
theorem await (laws : Retains env.api fetch update apply details holds)
    (held : holds session.cloud x) {timeout : Timeouts → Nat} {id : String}
    (run : Operation.await fetch timeout id "completed" env session = (.ok found, after)) :
    holds after.cloud found ∧ Polled.status found = "completed" ∧ details found = details x := by
  -- While it is polled the object goes through its statuses, and only its details are known.
  obtain ⟨completed, now, s, ⟨z, hz, same⟩, answer, left⟩ :=
    await_ok (P := fun s => ∃ z, holds s z ∧ details z = details x)
      (fun now s ⟨z, hz, same⟩ =>
        let ⟨y, hy, kept⟩ := laws.kept now hz
        ⟨y, hy, kept.trans same⟩)
      ⟨x, held, rfl⟩ run
  obtain ⟨details, holds⟩ := laws.fetched now hz answer completed
  exact ⟨left ▸ holds, completed, details.trans same⟩

/-- A revision returns what the API then holds: the object that was updated, which is completed. -/
theorem settles (laws : Retains env.api fetch update apply details holds)
    (held : holds session.cloud x) {request : R} {timeout : Timeouts → Nat}
    {id refused unfinished : String} {s : S}
    (run : revision (update request) fetch timeout id refused unfinished readBack diagnostics env
      session = ((some s, reported), after)) :
    ∃ y, holds after.cloud y ∧ Polled.status y = "completed" ∧
      details y = details (apply request x) ∧ s = readBack y := by
  obtain ⟨done, _, there, called, run⟩ := bind_eq_some run
  obtain ⟨answer, rfl⟩ := Prod.mk.inj (orReport_eq_some called).1
  obtain ⟨y, hy, asked⟩ := laws.updated session.now held answer
  obtain ⟨z, _, there, awaited, returned⟩ := bind_eq_some run
  obtain ⟨rfl, -, rfl⟩ := pure_eq_some returned
  obtain ⟨hz, completed, same⟩ := laws.await (x := y) hy (orReport_eq_some awaited).1
  exact ⟨z, hz, completed, same.trans asked, rfl⟩

/-- An update that is left out where there is nothing to ask for makes no call exactly then. What it
returns is the plan of the object as it was, or else what the API holds of the updated one. -/
theorem update_outcome (laws : Retains env.api fetch update apply details holds)
    (held : holds session.cloud x) (completed : Polled.status x = "completed") {idle : Prop}
    [Decidable idle] {request : R} {planned : S} {timeout : Timeouts → Nat}
    {id refused unfinished : String} {answer : Option S × Diagnostics}
    (run : (if idle then pure planned
      else revision (update request) fetch timeout id refused unfinished readBack :
      Request σ S) diagnostics env session = (answer, after)) :
    (after.trace = session.trace ↔ idle) ∧
    ∀ s, answer.1 = some s → ∃ y, holds after.cloud y ∧ Polled.status y = "completed" ∧
      (idle ∧ y = x ∧ s = planned ∨
        ¬idle ∧ details y = details (apply request x) ∧ s = readBack y) := by
  by_cases none : idle
  · rw [if_pos none] at run
    obtain ⟨rfl, rfl⟩ := Prod.mk.inj run
    exact ⟨iff_of_true rfl none, fun s returned =>
      ⟨x, held, completed, .inl ⟨none, rfl, (Option.some.inj returned).symm⟩⟩⟩
  · rw [if_neg none] at run
    constructor
    · obtain ⟨fetches, e, trace, -⟩ := revision_trace run
      refine iff_of_false (fun same => ?_) none
      have longer := congrArg List.length (trace.symm.trans same)
      simp only [List.length_append, List.length_cons] at longer
      omega
    · intro s returned
      obtain ⟨result, reported⟩ := answer
      obtain rfl : result = some s := returned
      obtain ⟨y, hy, done, asked, returned⟩ := laws.settles held run
      exact ⟨y, hy, done, .inr ⟨none, asked, returned⟩⟩

/-- Reads of a state, whose object has an identifier or is never fetched, return what the API holds
once this is completed. -/
theorem readsAs {api : Api σ} {cloud : σ} {get : String → Call} {id : String}
    [Polled (get id).Answer] {apply : R → (get id).Answer → (get id).Answer}
    {details : (get id).Answer → δ} {holds : σ → (get id).Answer → Prop} {x : (get id).Answer}
    {readBack : (get id).Answer → S} (laws : Retains api (get id) update apply details holds)
    (held : holds cloud x) (completed : Polled.status x = "completed") {r : Resource σ S} {s : S}
    (summary : String) (reads : r.read s =
      if id = "" then pure none else do return (← attempt (get id) summary).map readBack) :
    r.ReadsAs api get id cloud s (readBack x) where
  only := by
    rintro diagnostics reported env session after next rfl rfl run
    rw [reads] at run
    split at run
    · cases (pure_eq_some run).1
    · obtain ⟨found, _, there, attempted, returned⟩ := bind_eq_some run
      obtain ⟨y, rfl, rfl⟩ := Option.map_eq_some_iff.1 (pure_eq_some returned).1
      rw [laws.settled session.now held completed (congrArg Prod.fst (attempt_eq_some attempted))]
  answered := by
    rintro named env session y rfl rfl answer diagnostics
    obtain rfl := laws.settled session.now held completed answer
    rcases called : call (get id) env session with ⟨e | z, there⟩
    · rw [called] at answer
      cases answer
    · rw [called] at answer
      rw [reads, if_neg named, Request.bind_run, attempt_run, called, Except.ok.inj answer]
      rfl

end Retains

/-! ### Clouds in memory -/

namespace MemoryCloud

variable {α : Type} [Stored α] {x y : α} {id : String} {cloud next : MemoryCloud}

/-- The cloud has the object, which is completed or going to be. -/
def Settling (id : String) (cloud : MemoryCloud) (x : α) : Prop :=
  ∃ pending, (Stored.table cloud).get? id = some ⟨x, pending⟩ ∧
    ∀ t ∈ pending, t = .status "completed"

/-- An object is updated at once, and completed later. -/
theorem update_run (f : α → α) : update id f cloud =
    match (Stored.table cloud : StringMap (Entry α)).get? id with
    | none => .error (.notFound (Stored.kind α ++ " " ++ id))
    | some entry => .ok ((), withEntry id (.changing (f entry.object) "updating"
        (.status "completed")) cloud) := by
  simp only [update, find, bind, StateT.bind, Except.bind, entry_run]
  rcases (Stored.table cloud : StringMap (Entry α)).get? id with - | entry <;> rfl

variable [LawfulStored α]

/-- A read returns the object, which goes on to be completed. -/
theorem Settling.read (h : Settling id cloud x)
    (served : (MemoryCloud.read id : Served α) cloud = .ok (y, next)) :
    y = x ∧ (Settling id next x ∨ Settling id next (Stored.withStatus "completed" x)) := by
  obtain ⟨pending, looked, settling⟩ := h
  rw [read_run, looked] at served
  obtain ⟨rfl, rfl⟩ := Prod.mk.inj (Except.ok.inj served)
  refine ⟨rfl, ?_⟩
  rcases pending with - | ⟨t, rest⟩
  · refine .inl ⟨[], ?_, settling⟩
    simp only [Entry.afterRead, withEntry, LawfulStored.table_withTable, StringMap.get?_insert_self]
  · obtain rfl := settling t (List.mem_cons_self ..)
    refine .inr ⟨rest, ?_, fun t ht => settling t (List.mem_cons_of_mem _ ht)⟩
    simp only [Entry.afterRead, withEntry, LawfulStored.table_withTable, StringMap.get?_insert_self]

/-- An update is applied to the object, which is completed later. -/
theorem Settling.update (h : Settling id cloud x) {f : α → α} {done : Unit}
    (served : MemoryCloud.update id f cloud = .ok (done, next)) :
    Settling id next (Stored.withStatus "updating" (f x)) := by
  obtain ⟨pending, looked, -⟩ := h
  rw [update_run, looked] at served
  obtain ⟨-, rfl⟩ := Prod.mk.inj (Except.ok.inj served)
  refine ⟨[.status "completed"], ?_, by simp⟩
  rw [withEntry, LawfulStored.table_withTable, StringMap.get?_insert_self]
  rfl

end MemoryCloud

/-- A cloud in memory keeps an object that is completed or going to be, whatever delays or fails its
calls. -/
theorem Faulty.retains {R δ : Type} {fetch : Call} [Polled fetch.Answer] [Stored fetch.Answer]
    [LawfulStored fetch.Answer] {update : R → Call} {apply : R → fetch.Answer → fetch.Answer}
    {details : fetch.Answer → δ} {id : String}
    (reads : MemoryCloud.serve fetch = MemoryCloud.read id)
    (updates : ∀ r cloud done next, MemoryCloud.serve (update r) cloud = .ok (done, next) →
      MemoryCloud.update id (apply r) cloud = .ok ((), next))
    (statusless : ∀ (status : String) (x : fetch.Answer),
      details (Stored.withStatus status x) = details x)
    (current : ∀ x : fetch.Answer, Stored.withStatus (Polled.status x) x = x) :
    Retains (Faulty.api MemoryCloud.api) fetch update apply details
      fun s => MemoryCloud.Settling id s.cloud where
  kept {s x} now held := by
    obtain ⟨-, ⟨e, -, same⟩ | ⟨z, next, served, -, after⟩⟩ := api_reply fetch now s
    · exact ⟨x, same ▸ held, rfl⟩
    · rw [reads] at served
      rw [after]
      obtain ⟨-, held' | held'⟩ := held.read served
      · exact ⟨x, held', rfl⟩
      · exact ⟨_, held', statusless _ x⟩
  fetched {s x y} now held answer completed := by
    obtain ⟨-, ⟨e, failed, -⟩ | ⟨z, next, served, answered, after⟩⟩ := api_reply fetch now s
    · cases failed.symm.trans answer
    · obtain rfl := Except.ok.inj (answered.symm.trans answer)
      rw [reads] at served
      rw [after]
      obtain ⟨rfl, held' | held'⟩ := held.read served
      · exact ⟨rfl, held'⟩
      · rw [← completed, current] at held'
        exact ⟨rfl, held'⟩
  settled {s x y} now held _ answer := by
    obtain ⟨-, ⟨e, failed, -⟩ | ⟨z, next, served, answered, -⟩⟩ := api_reply fetch now s
    · cases failed.symm.trans answer
    · rw [reads] at served
      rw [← Except.ok.inj (answered.symm.trans answer)]
      exact (held.read served).1
  updated {s x r done} now held answer := by
    obtain ⟨-, ⟨e, failed, -⟩ | ⟨z, next, served, -, after⟩⟩ := api_reply (update r) now s
    · cases failed.symm.trans answer
    · rw [after]
      exact ⟨_, held.update (updates r s.cloud z next served), statusless _ _⟩

end CloudProvision
