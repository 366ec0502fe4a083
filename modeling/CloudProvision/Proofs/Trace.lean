import CloudProvision.Operation
import CloudProvision.Proofs.Polling

/-!
# Traces of operations on a load balancer

The trace of a session lists its calls, the last one first. `Orderly` says what the calls on a load
balancer look like when changes are made one at a time: a change comes right after a fetch that
found the load balancer running, none starts once the operation is cancelled, and nothing follows a
call that failed. `Converged` is the moment at which a change may be made.

## Main results

* `Operation.await_trace`: what a wait adds to the trace.
* `Orderly.wait` and `Orderly.change`: an orderly trace stays orderly under a wait, and under a
  change that is made at a converged moment.
-/

namespace CloudProvision

open Remote

namespace Event

/-- The call was answered, and not with an error. -/
def Succeeded (e : Event) : Prop :=
  ∃ x, e.answer = some (.ok x)

/-- The fetch of a load balancer that was answered with `lb`. -/
def found (id : String) (lb : Remote.LoadBalancer) (start finish : Nat) : Event :=
  ⟨.getLoadBalancer id, start, finish, some (.ok lb)⟩

end Event

namespace Operation

/-- Two operations run one after the other. -/
theorem bind_run {σ α β : Type} {env : Environment σ} {session : Session σ} (x : Operation σ α)
    (f : α → Operation σ β) : (x >>= f) env session = f (x env session).1 env (x env session).2 :=
  rfl

/-! ### Waits and calls -/

variable {σ : Type} {c : Call} {env : Environment σ} {session session' : Session σ}

/-- A call adds itself to the trace. -/
theorem call_trace {answer : Except ApiError c.Answer}
    (h : call c env session = (answer, session')) :
    ∃ e, e.call = c ∧ e.start = session.now ∧ (∀ x, answer = .ok x → e.Succeeded) ∧
      session'.trace = e :: session.trace := by
  obtain ⟨rfl, rfl⟩ := Prod.mk.inj h
  exact ⟨_, rfl, rfl, fun x hx => ⟨x, congrArg some hx⟩, rfl⟩

/-- A wait adds its fetches to the trace, and all but the last one succeeded. A wait that succeeds
ends with the fetch of its result, in the desired status and before any cancellation. -/
theorem await_trace [Polled c.Answer] {timeout : Timeouts → Nat} {id desired : String}
    {result : Except WaitError c.Answer}
    (h : await c timeout id desired env session = (result, session')) :
    ∃ events, session'.trace = events ++ session.trace ∧ (∀ e ∈ events, e.call = c) ∧
      (∀ e ∈ events.tail, e.Succeeded) ∧
      ∀ x, result = .ok x → Polled.status x = desired ∧
        Polling.isCancelled env.cancelAt session'.now = false ∧
        (∃ now s, (env.api c now s).answer = .ok x) ∧
        ∃ start rest, events = ⟨c, start, session'.now, some (.ok x)⟩ :: rest := by
  obtain ⟨rfl, rfl⟩ := Prod.mk.inj h
  refine ⟨_, rfl, ?_, ?_, ?_⟩
  · intro e he
    obtain ⟨p, -, rfl⟩ := List.mem_map.1 (List.mem_reverse.1 he)
    rfl
  · intro e he
    rw [List.tail_reverse, List.mem_reverse, ← List.map_dropLast] at he
    obtain ⟨p, hp, rfl⟩ := List.mem_map.1 he
    obtain ⟨x, hx, -⟩ := Polling.loop_pending hp
    exact ⟨x, hx⟩
  · intro x hx
    obtain ⟨polls, start, s, eq, -, answer, -, desired, uncancelled⟩ :=
      Polling.loop_ok (P := fun _ => True) (fun _ _ _ => trivial) trivial hx
    refine ⟨desired, uncancelled, ⟨start, s, answer⟩, start,
      (polls.map fun poll => ⟨c, poll.start, poll.finish, poll.answer⟩).reverse, ?_⟩
    simp only [Polling.run, eq, List.map_append, List.map_cons, List.map_nil,
      List.reverse_append, List.reverse_cons, List.reverse_nil, List.nil_append,
      List.singleton_append]

/-- What every call on an API preserves, a wait preserves. -/
theorem await_cloud [Polled c.Answer] {timeout : Timeouts → Nat} {id desired : String}
    {result : Except WaitError c.Answer} {P : σ → Prop}
    (preserved : ∀ now s, P s → P (env.api c now s).completed ∧ P (env.api c now s).abandoned)
    (before : P session.cloud)
    (h : await c timeout id desired env session = (result, session')) : P session'.cloud := by
  obtain ⟨-, rfl⟩ := Prod.mk.inj h
  exact Polling.loop_state preserved before

/-- The object that a wait returns was fetched from a side on which everything holds that answered
calls preserve, and the wait leaves what this fetch completed. -/
theorem await_ok [Polled c.Answer] {timeout : Timeouts → Nat} {id desired : String}
    {x : c.Answer} {P : σ → Prop}
    (preserved : ∀ now s, P s → P (env.api c now s).completed) (before : P session.cloud)
    (h : await c timeout id desired env session = (.ok x, session')) :
    Polled.status x = desired ∧ ∃ now s, P s ∧ (env.api c now s).answer = .ok x ∧
      session'.cloud = (env.api c now s).completed := by
  obtain ⟨ok, rfl⟩ := Prod.mk.inj h
  obtain ⟨-, start, s, -, hs, answer, left, desired, -⟩ := Polling.loop_ok preserved before ok
  exact ⟨desired, start, s, hs, answer, left⟩

end Operation

/-! ### Orderly traces -/

/-- An element of two lists in a row stands in the first one or in the second one. -/
theorem append_eq_append_cons {α : Type} {front back newer older : List α} {x : α}
    (h : front ++ back = newer ++ x :: older) :
    (∃ rest, front = newer ++ x :: rest ∧ older = rest ++ back) ∨
      ∃ before, newer = front ++ before ∧ back = before ++ x :: older := by
  rcases List.append_eq_append_iff.1 h with ⟨before, rfl, rfl⟩ | ⟨after, rfl, split⟩
  · exact .inr ⟨before, rfl, rfl⟩
  · cases after with
    | nil => exact .inr ⟨[], by simp, by simpa using split.symm⟩
    | cons y rest =>
        obtain ⟨rfl, rfl⟩ := List.cons.inj split
        exact .inl ⟨rest, rfl, rfl⟩

/-- Changes of a load balancer, made one at a time. The last call stands first. -/
structure Orderly (id : String) (cancelAt : Option Nat) (events : List Event) : Prop where
  /-- A call that is no read comes right after a fetch that found the load balancer running. -/
  guarded : ∀ newer e older, events = newer ++ e :: older → e.call.isRead = false →
    ∃ lb start finish rest, older = .found id lb start finish :: rest ∧ lb.status = "running"
  /-- A call that is no read starts before the cancellation. -/
  uncancelled : ∀ e ∈ events, e.call.isRead = false → ∀ instant, cancelAt = some instant →
    e.start < instant
  /-- Only the last call may have failed, or have been left. -/
  failFast : ∀ e ∈ events.tail, e.Succeeded

/-- All calls so far succeeded, the last one has just found the load balancer `current` running, and
the operation is not cancelled. -/
structure Converged (id : String) (cancelAt : Option Nat) (now : Nat)
    (current : Remote.LoadBalancer) (events : List Event) : Prop where
  last : ∃ start rest, events = .found id current start now :: rest
  running : current.status = "running"
  uncancelled : ∀ instant, cancelAt = some instant → now < instant
  succeeded : ∀ e ∈ events, e.Succeeded

namespace Orderly

variable {id : String} {cancelAt : Option Nat} {events : List Event}

/-- No calls are orderly. -/
theorem nil : Orderly id cancelAt [] := by
  refine ⟨?_, ?_, ?_⟩ <;> simp

/-- A wait after calls that succeeded is orderly. -/
theorem wait {polls : List Event} (h : Orderly id cancelAt events)
    (succeeded : ∀ e ∈ events, e.Succeeded) (reads : ∀ e ∈ polls, e.call.isRead = true)
    (pending : ∀ e ∈ polls.tail, e.Succeeded) : Orderly id cancelAt (polls ++ events) := by
  constructor
  · intro newer e older split change
    rcases append_eq_append_cons split with ⟨rest, rfl, -⟩ | ⟨before, -, rfl⟩
    · simp [reads e (by simp)] at change
    · exact h.guarded _ _ _ rfl change
  · intro e he change
    rcases List.mem_append.1 he with he | he
    · simp [reads e he] at change
    · exact h.uncancelled e he change
  · intro e he
    cases polls with
    | nil => exact succeeded e (List.mem_of_mem_tail he)
    | cons first rest =>
        rcases List.mem_append.1 (by simpa using he) with he | he
        · exact pending e (by simpa using he)
        · exact succeeded e he

/-- A change that starts at a converged moment is orderly. -/
theorem change {now : Nat} {current : Remote.LoadBalancer} {e : Event}
    (h : Orderly id cancelAt events) (ready : Converged id cancelAt now current events)
    (start : e.start = now) : Orderly id cancelAt (e :: events) := by
  obtain ⟨began, rest, rfl⟩ := ready.last
  constructor
  · intro newer f older eq change
    cases newer with
    | nil =>
        obtain ⟨-, rfl⟩ := List.cons.inj eq
        exact ⟨current, began, now, rest, rfl, ready.running⟩
    | cons first newer => exact h.guarded newer f older (List.cons.inj eq).2 change
  · intro f hf change instant cancelled
    rcases List.mem_cons.1 hf with rfl | hf
    · exact start ▸ ready.uncancelled instant cancelled
    · exact h.uncancelled f hf change instant cancelled
  · exact ready.succeeded

end Orderly

end CloudProvision
