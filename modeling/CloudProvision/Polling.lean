import CloudProvision.Remote.Call

/-!
# Polling a status

A change of a remote object is accepted before it is done: the object goes through statuses until
it reaches a final one. `Polling.run` fetches the object at once and then at every interval, until
it has the desired status, has failed, the time is over, or the wait is cancelled.

A fetch takes time, and it is left when the wait ends before its answer. Of events at the same
instant a cancellation counts first, then the answer, then the end of the time. The last pause is
cut short so that one more fetch starts when the time is over.
-/

namespace CloudProvision

open Remote

/-- What a wait is for. Times are in milliseconds. -/
structure Goal where
  id : String
  /-- The status to reach. -/
  desired : String
  /-- The pause between an answer and the next fetch. -/
  interval : Nat
  /-- The time that the wait may take. -/
  timeout : Nat
  deriving DecidableEq

/-- Why a wait failed. -/
inductive WaitError where
  /-- A fetch failed. -/
  | fetch (error : ApiError)
  /-- The object has failed. -/
  | failed (kind id status : String) (reason : Option String)
  /-- The object did not reach the status in time. -/
  | timeout (kind id desired : String) (timeout : Nat)
  /-- The wait was interrupted. -/
  | cancelled (kind id desired : String)
  deriving DecidableEq

/-- The error of a cancelled wait for an object of type `α`. -/
def Goal.cancelled (α : Type) [Polled α] (goal : Goal) : WaitError :=
  .cancelled (Polled.lifecycle α).kind goal.id goal.desired

/-- The error of a wait for an object of type `α` that took too long. -/
def Goal.timedOut (α : Type) [Polled α] (goal : Goal) : WaitError :=
  .timeout (Polled.lifecycle α).kind goal.id goal.desired goal.timeout

/-- A duration in milliseconds, in the unit that fits it, with up to three decimal places. -/
def durationText (ms : Nat) : String :=
  if ms = 0 then "0ns"
  else if ms < 1000 then toString ms ++ "ms"
  else
    let places := [ms / 100 % 10, ms / 10 % 10, ms % 10].reverse.dropWhile (· == 0)
    let fraction := String.join (places.reverse.map toString)
    toString (ms / 1000) ++ (if fraction.isEmpty then "" else "." ++ fraction) ++ "s"

namespace WaitError

/-- What a wait was for, in a message. -/
def subject (kind id desired : String) : String :=
  "waiting for " ++ kind ++ " `" ++ id ++ "` to reach status `" ++ desired ++ "`"

/-- The text of an error. -/
def message : WaitError → String
  | fetch error => error.message
  | failed kind id status reason =>
    let suffix := match reason with
      | some reason => if reason.isEmpty then "" else ": " ++ reason
      | none => ""
    kind ++ " `" ++ id ++ "` reached error status `" ++ status ++ "`" ++ suffix
  | timeout kind id desired ms =>
    "timeout after " ++ durationText ms ++ " " ++ subject kind id desired
  | cancelled kind id desired => "cancelled while " ++ subject kind id desired

instance : ToString WaitError := ⟨message⟩

/-- Whether the wait failed because the object does not exist. -/
def isNotFound : WaitError → Bool
  | fetch error => error.isNotFound
  | _ => false

end WaitError

/-- Take a missing object for an absent one, for waits on a deletion. -/
def absentWhenNotFound {α : Type} : Except WaitError α → Except WaitError (Option α)
  | .ok object => .ok (some object)
  | .error e => if e.isNotFound then .ok none else .error e

namespace Polling

variable {σ α : Type}

/-- What becomes of a fetch: it is answered after a delay, or never. `completed` is the state of the
fetched side then, and `abandoned` the one it is left in if the wait ends before. -/
structure Fetch (σ α : Type) where
  delay : Option Nat
  answer : Except ApiError α
  completed : σ
  abandoned : σ

/-- A fetch that was started. Its answer is absent if the wait ended before it came. -/
structure Poll (α : Type) where
  start : Nat
  finish : Nat
  answer : Option (Except ApiError α)

/-- How a wait ended: its result, when, and the fetches it started, in order. -/
structure Outcome (σ α : Type) where
  result : Except WaitError α
  finish : Nat
  polls : List (Poll α)
  state : σ

/-- Whether the wait is cancelled at an instant, given when the cancellation comes. -/
def isCancelled (cancelAt : Option Nat) (now : Nat) : Bool :=
  cancelAt.any (· ≤ now)

/-- How a pause or a fetch that lasts until `limit` is interrupted by the cancellation, if it is. -/
def interruption? (cancelAt : Option Nat) (limit : Nat) : Option Nat :=
  cancelAt.filter (· ≤ limit)

/-- What an answer says about the wait: its result, or nothing while the object is on its way. -/
def verdict [Polled α] (goal : Goal) : Except ApiError α → Option (Except WaitError α)
  | .error e => some (.error (.fetch e))
  | .ok object =>
    let status := Polled.status object
    if status = goal.desired then some (.ok object)
    else
      let lifecycle := Polled.lifecycle α
      if lifecycle.isError status then
        some (.error (.failed lifecycle.kind goal.id status (Polled.errorMessage object)))
      else none

/-- When a fetch that starts `now` is answered, if its answer comes before the cancellation and not
after the deadline. -/
def answeredAt? (cancelAt : Option Nat) (deadline now : Nat) (delay : Option Nat) :
    Option Nat :=
  (delay.map (now + ·)).filter fun finish => finish ≤ deadline && !isCancelled cancelAt finish

/-- Add a poll before those of an outcome. -/
def Outcome.after (poll : Poll α) (outcome : Outcome σ α) : Outcome σ α :=
  { outcome with polls := poll :: outcome.polls }

/-- Poll from `now` on. An interval of zero would not let time pass and counts as one. -/
def loop [Polled α] (goal : Goal) (fetch : Nat → σ → Fetch σ α) (cancelAt : Option Nat)
    (deadline now : Nat) (state : σ) : Outcome σ α :=
  if isCancelled cancelAt now then ⟨.error (goal.cancelled α), now, [], state⟩
  else
    let attempt := fetch now state
    match _answered : answeredAt? cancelAt deadline now attempt.delay with
    | none =>
      match interruption? cancelAt deadline with
      | some instant =>
        ⟨.error (goal.cancelled α), instant, [⟨now, instant, none⟩], attempt.abandoned⟩
      | none =>
        ⟨.error (goal.timedOut α), deadline, [⟨now, deadline, none⟩], attempt.abandoned⟩
    | some finish =>
      let poll : Poll α := ⟨now, finish, some attempt.answer⟩
      match verdict goal attempt.answer with
      | some result => ⟨result, finish, [poll], attempt.completed⟩
      | none =>
        if deadline ≤ finish then ⟨.error (goal.timedOut α), finish, [poll], attempt.completed⟩
        else
          let next := min (finish + max 1 goal.interval) deadline
          match interruption? cancelAt next with
          | some instant => ⟨.error (goal.cancelled α), instant, [poll], attempt.completed⟩
          | none => (loop goal fetch cancelAt deadline next attempt.completed).after poll
termination_by deadline - now
decreasing_by
  obtain ⟨delay, -, rfl⟩ := Option.map_eq_some_iff.1 (Option.filter_eq_some_iff.1 _answered).1
  omega

/-- Wait for the goal from `now` on. -/
def run [Polled α] (goal : Goal) (fetch : Nat → σ → Fetch σ α) (cancelAt : Option Nat)
    (now : Nat) (state : σ) : Outcome σ α :=
  loop goal fetch cancelAt (now + goal.timeout) now state

end Polling

end CloudProvision
