import CloudProvision.Diagnostics
import CloudProvision.Polling
import CloudProvision.Settings

/-!
# Operations on the cloud

An operation calls the API and waits for objects, one call after the other. It runs in a session,
which holds the clock, the state of the API and the trace of the calls so far, and in an
environment: the behaviour of the API, the settings, and when the operation is cancelled.

`Operation.call` waits for the answer of a call; only `Operation.await` heeds a cancellation.
-/

namespace CloudProvision

open Remote

/-- A call that was started, with its answer unless the caller left before it came. -/
structure Event where
  call : Call
  start : Nat
  finish : Nat
  answer : Option (Except ApiError call.Answer)

/-- What an operation finds and leaves behind. Times are in milliseconds. -/
structure Session (σ : Type) where
  now : Nat
  cloud : σ
  /-- The calls so far, the last one first. -/
  trace : List Event

/-- What an operation runs in. -/
structure Environment (σ : Type) where
  api : Api σ
  settings : Settings
  /-- When the operation is cancelled, if ever. -/
  cancelAt : Option Nat
  /-- The page limit of listings, which stands for none (see `Remote.collectPages`). -/
  pageLimit : Nat

/-- An operation on an API with states `σ`. -/
abbrev Operation (σ : Type) : Type → Type := ReaderT (Environment σ) (StateM (Session σ))

/-- The parameters of a wait that takes at most `timeout` seconds. -/
def Settings.goal (settings : Settings) (timeout : Nat) (id desired : String) : Goal where
  id := id
  desired := desired
  interval := settings.pollInterval * 1000
  timeout := timeout * 1000

namespace Operation

variable {σ : Type}

/-- Make a call and wait for its answer. -/
def call (c : Call) : Operation σ (Except ApiError c.Answer) := fun env session =>
  let reply := env.api c session.now session.cloud
  let finish := session.now + reply.delay
  (reply.answer,
    { now := finish
      cloud := reply.completed
      trace := ⟨c, session.now, finish, some reply.answer⟩ :: session.trace })

/-- The fetch that a call makes. -/
def fetch (api : Api σ) (c : Call) (now : Nat) (cloud : σ) : Polling.Fetch σ c.Answer :=
  let reply := api c now cloud
  ⟨some reply.delay, reply.answer, reply.completed, reply.abandoned⟩

/-- Repeat a call until the object it returns, the one named `id`, has the desired status. -/
def await (c : Call) [Polled c.Answer] (timeout : Timeouts → Nat) (id desired : String) :
    Operation σ (Except WaitError c.Answer) :=
  fun env session =>
    let goal := env.settings.goal (timeout env.settings.timeouts) id desired
    let outcome := Polling.run goal (fetch env.api c) env.cancelAt session.now session.cloud
    let events := outcome.polls.map fun poll => ⟨c, poll.start, poll.finish, poll.answer⟩
    (outcome.result,
      { now := outcome.finish
        cloud := outcome.state
        trace := events.reverse ++ session.trace })

/-- The settings in effect. -/
def settings : Operation σ Settings := fun env session => (env.settings, session)

/-- The page limit of listings. -/
def pageLimit : Operation σ Nat := fun env session => (env.pageLimit, session)

end Operation

end CloudProvision
