import CloudProvision.Document
import CloudProvision.Operation

/-!
# Requests

A `Request` is an operation that a host asks for. It returns something or nothing, and records
diagnostics for the host. The one does not follow from the other: a request may record an error and
go on, or give up (`failure`) without a word. That nothing is returned exactly when an error has
been recorded is a convention, which every request has to keep by itself.
-/

namespace CloudProvision

open Remote

/-- An operation for a host: it returns something or nothing, and records diagnostics. -/
abbrev Request (σ : Type) : Type → Type := OptionT (StateT Diagnostics (Operation σ))

namespace Request

variable {σ α β ε S : Type}

/-! ### Diagnostics -/

/-- Record an error. -/
def error (error : Diagnostic) : Request σ Unit := OptionT.mk fun diagnostics =>
  return (some (), diagnostics.error error)

/-- Record errors. -/
def errors (errors : List Diagnostic) : Request σ Unit := OptionT.mk fun diagnostics =>
  return (some (), diagnostics.addErrors errors)

/-- Record a warning. -/
def warn (warning : Diagnostic) : Request σ Unit := OptionT.mk fun diagnostics =>
  return (some (), diagnostics.warning warning)

/-- Whether an error has been recorded so far. -/
def hasErrors : Request σ Bool := OptionT.mk fun diagnostics =>
  return (some diagnostics.hasErrors, diagnostics)

/-- Give up if an error has been recorded so far. -/
def unlessErrors : Request σ Unit := do
  if ← hasErrors then failure

/-! ### Steps -/

/-- Take a step, and report its error under a summary that names the step. -/
def orReport [ToString ε] (step : Operation σ (Except ε α)) (summary : String) : Request σ α := do
  match ← step with
  | .ok x => return x
  | .error e =>
    error (.onRoot summary (toString e))
    failure

/-- Make a call on an object, under a summary for its error. There is no answer if the object does
not exist. -/
def attempt (c : Call) (summary : String) : Request σ (Option c.Answer) := do
  match ← (Operation.call c : Operation σ _) with
  | .ok x => return some x
  | .error e =>
    if e.isNotFound then return none
    else
      error (.onRoot summary e.message)
      failure

/-- Repeat a call until the object it returns, the one named `id`, is deleted or does not exist. -/
def awaitDeletion (c : Call) [Polled c.Answer] (timeout : Timeouts → Nat) (id : String)
    (summary : String) : Request σ Unit := do
  let _ ← orReport (absentWhenNotFound <$> Operation.await c timeout id "deleted") summary
  return ()

/-! ### Documents -/

/-- Read a document, and record why it cannot be read. -/
def decode (codec : Codec S) (document : Document) : Request σ S := do
  match document.decode codec with
  | .ok x => return x
  | .error e =>
    error (.onRoot "Invalid JSON document" e.message)
    failure

/-- Run both requests even if the first one fails, and fail if one of them does. -/
def both (x : Request σ α) (y : Request σ β) : Request σ (α × β) := OptionT.mk do
  let a ← x.run
  let b ← y.run
  return a.bind fun a => b.map (a, ·)

end Request

end CloudProvision
