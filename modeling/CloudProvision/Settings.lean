import CloudProvision.Codec.Record
import CloudProvision.Diagnostics

/-!
# Configuration and settings

`Configuration` is what a user writes into the block of the provider, and `Settings` is what the
provider works with. Values that are absent, undecided or out of range give way to defaults, and
`Configuration.validate` reports those out of range.
-/

namespace CloudProvision

/-- The block of timeouts, in minutes. -/
structure TimeoutsBlock where
  volumes : Attr Int
  snapshots : Attr Int
  instances : Attr Int
  loadBalancers : Attr Int
  deriving DecidableEq

/-- The block of the provider. -/
structure Configuration where
  /-- Seconds between two polls of a status. -/
  pollInterval : Attr Int
  /-- Number of items requested per page of a listing. -/
  pageSize : Attr Int
  timeouts : Attr TimeoutsBlock
  deriving DecidableEq

/-- How long an object of each kind may take to converge, in seconds. -/
structure Timeouts where
  volumes : Nat
  snapshots : Nat
  instances : Nat
  loadBalancers : Nat
  deriving DecidableEq

/-- What the provider works with. -/
structure Settings where
  /-- Seconds between two polls of a status. -/
  pollInterval : Nat
  pageSize : Nat
  timeouts : Timeouts
  deriving DecidableEq

namespace Settings

/-- The settings of a provider that is not configured. -/
def default : Settings where
  pollInterval := 10
  pageSize := 100
  timeouts := ⟨60 * 60, 60 * 60, 90 * 60, 90 * 60⟩

instance : Inhabited Settings := ⟨default⟩

/-- The largest page that can be requested. -/
def maxPageSize : Nat := 1000

end Settings

namespace TimeoutsBlock

/-- The fields of the block. -/
def fields : List (Field TimeoutsBlock) := [
  .of "volume" (.attr .integer) volumes fun v x => { x with volumes := v },
  .of "snapshot" (.attr .integer) snapshots fun v x => { x with snapshots := v },
  .of "instance" (.attr .integer) instances fun v x => { x with instances := v },
  .of "load_balancer" (.attr .integer) loadBalancers fun v x => { x with loadBalancers := v }]

/-- The codec of the block. -/
def codec : Codec TimeoutsBlock :=
  .record "TimeoutsConfig" fields ⟨.null, .null, .null, .null⟩

/-- The timeouts of the block with their names. -/
def named (x : TimeoutsBlock) : List (String × Attr Int) := [
  ("volume", x.volumes), ("snapshot", x.snapshots), ("instance", x.instances),
  ("load_balancer", x.loadBalancers)]

end TimeoutsBlock

namespace Configuration

/-- The fields of the block of the provider. -/
def fields : List (Field Configuration) := [
  .of "poll_interval" (.attr .integer) pollInterval fun v x => { x with pollInterval := v },
  .of "page_size" (.attr .integer) pageSize fun v x => { x with pageSize := v },
  .of "timeouts" (.block TimeoutsBlock.codec) timeouts fun v x => { x with timeouts := v }]

/-- The codec of the block of the provider. -/
def codec : Codec Configuration :=
  .record "ProviderConfig" fields ⟨.null, .null, .null⟩

/-- The errors of the configuration, one for each value out of range. -/
def validate (c : Configuration) : List Diagnostic :=
  let interval := match c.pollInterval with
    | .known n =>
      if n ≤ 0 then
        [⟨"Invalid poll interval", s!"poll_interval must be positive, got {n}",
          .of "poll_interval"⟩]
      else []
    | _ => []
  let maxSize := Settings.maxPageSize
  let page := match c.pageSize with
    | .known n =>
      if n < 1 ∨ maxSize < n then
        [⟨"Invalid page size",
          s!"page_size must be between 1 and {maxSize}, got {n}", .of "page_size"⟩]
      else []
    | _ => []
  let timeouts := match c.timeouts with
    | .known block => block.named.filterMap fun
      | (name, .known n) =>
        if n ≤ 0 then
          some ⟨"Invalid timeout", s!"{name} timeout must be positive, got {n}",
            ((AttributePath.of "timeouts").index 0).attr name⟩
        else none
      | _ => none
    | _ => []
  interval ++ page ++ timeouts

/-- Seconds of a timeout given in minutes, `default` unless it is known and positive. -/
def minutes (default : Nat) : Attr Int → Nat
  | .known n => if 0 < n then n.toNat * 60 else default
  | _ => default

/-- The settings, with defaults for what is absent, undecided or out of range. -/
def settings (c : Configuration) : Settings where
  pollInterval := match c.pollInterval with
    | .known n => if 0 < n then n.toNat else Settings.default.pollInterval
    | _ => Settings.default.pollInterval
  pageSize := match c.pageSize with
    | .known n =>
      if 1 ≤ n ∧ n ≤ Settings.maxPageSize then n.toNat else Settings.default.pageSize
    | _ => Settings.default.pageSize
  timeouts := match c.timeouts with
    | .known block =>
      let default := Settings.default.timeouts
      { volumes := minutes default.volumes block.volumes
        snapshots := minutes default.snapshots block.snapshots
        instances := minutes default.instances block.instances
        loadBalancers := minutes default.loadBalancers block.loadBalancers }
    | _ => Settings.default.timeouts

end Configuration

end CloudProvision
