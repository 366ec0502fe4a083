import CloudProvision.Server

/-!
# Hosts

A `Host` runs the requests of a server one after the other, on one clock and one cloud. Each request
starts without diagnostics and with an empty trace, and `Report` is what comes out of it. The
provider may be told to stop while a request runs: waits that are under way then end, and so does
every later one.
-/

namespace CloudProvision

/-- A server with the state that its requests share. -/
structure Host (σ : Type) where
  server : Server σ
  context : Context
  session : Session σ

/-- What comes out of a request. -/
structure Report (α : Type) where
  result : Option α
  diagnostics : Diagnostics
  /-- The calls of the request, in order. -/
  calls : List Event
  /-- How long the request took, in milliseconds. -/
  duration : Nat

namespace Host

open Remote

variable {σ α : Type}

/-- The page limit of listings. It stands for none: it is the largest count that a machine has. -/
def pageLimit : Nat := Integer64.greatestUnsigned

/-- The host of the provider under a name, on a cloud that nothing was asked of yet. -/
def start (provider : String) (cloud : σ) : Host σ where
  server := .load provider Provider.offer
  context := .new
  session := ⟨0, cloud, []⟩

/-- Run a request that is told to stop at an instant, if ever. -/
def run (api : Api σ) (stopAt : Option Nat) (request : Request σ α) (h : Host σ) :
    Report α × Host σ :=
  let environment : Environment σ := {
    api := api
    settings := h.context.settings
    cancelAt := if h.context.stopped then some 0 else stopAt
    pageLimit := pageLimit }
  let ((result, diagnostics), session) :=
    request.run .none environment { h.session with trace := [] }
  (⟨result, diagnostics, session.trace.reverse, session.now - h.session.now⟩, { h with session })

/-- Configure the provider. -/
def configure (api : Api σ) (stopAt : Option Nat) (config : Document) (h : Host σ) :
    Report Context × Host σ :=
  let (report, h) := h.run api stopAt (Provider.configure h.context config)
  (report, { h with context := report.result.getD h.context })

/-- Tell the provider to stop, at an instant that is not over yet or at once. -/
def stop (instant : Nat) (h : Host σ) : Host σ :=
  { h with
    context := h.context.stop
    session := { h.session with now := max h.session.now instant } }

end Host

end CloudProvision
