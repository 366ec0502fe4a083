import CloudProvision.Remote.Call
import CloudProvision.StringMap

/-!
# Faults

`Faulty.api` is a behaviour of the API on which calls are slow or fail as they are told to. The
faults of each call wait in a queue of their own, and every call takes one of them.
-/

namespace CloudProvision

open Remote

/-- What goes wrong with a call. -/
structure Fault where
  /-- How long the call takes, in milliseconds. -/
  delay : Nat
  /-- The error it fails with, without any effect. -/
  error : Option ApiError
  deriving DecidableEq

/-- A fault that does nothing. -/
def Fault.none : Fault := ⟨0, .none⟩

/-- A cloud with the faults that wait for its calls, by the name of the call. -/
structure Faulty (σ : Type) where
  cloud : σ
  faults : StringMap (List Fault)

namespace Faulty

variable {σ : Type}

/-- The cloud without faults. -/
def of (cloud : σ) : Faulty σ :=
  ⟨cloud, .empty⟩

/-- Add faults for a call. -/
def enqueue (name : String) (faults : List Fault) (s : Faulty σ) : Faulty σ :=
  { s with faults := s.faults.insert name ((s.faults.get? name).getD [] ++ faults) }

/-- The fault of the next call with this name, and the faults after it. -/
def take (name : String) (faults : StringMap (List Fault)) : Fault × StringMap (List Fault) :=
  match faults.get? name with
  | some (fault :: rest) => (fault, faults.insert name rest)
  | _ => (.none, faults)

/-- The behaviour of an API under faults. A call that is left has no effect. -/
def api (inner : Api σ) : Api (Faulty σ) := fun call now s =>
  let (fault, faults) := take call.name s.faults
  match fault.error with
  | some e => ⟨fault.delay, .error e, ⟨s.cloud, faults⟩, ⟨s.cloud, faults⟩⟩
  | none =>
    let reply := inner call (now + fault.delay) s.cloud
    ⟨fault.delay + reply.delay, reply.answer, ⟨reply.completed, faults⟩, ⟨s.cloud, faults⟩⟩

end Faulty

end CloudProvision
