import CloudProvision.Proofs.LoadBalancer.Effect

/-!
# Updates under way

`Progress` says that some steps of an update have been performed. What they keep and bring about is
said of the effects of single steps. In a cloud in memory that holds the load balancer and that
nobody else changes, the steps before one that is reached have been performed.

## Main results

* `Progress.invariant` and `Progress.eventually`: what holds when some steps have been performed.
* `Held.finished`: an update that succeeds has performed all its steps.
* `Held.progress`: a step that is reached finds what the steps before it have performed.
-/

namespace CloudProvision.LoadBalancer

open Remote (Distinct Numbered WellFormed)

variable {remote : Remote.LoadBalancer} {config : State} {start : Nat} {step : Step} {x : Stage}

/-! ### Updates under way -/

/-- Some of the steps of an update have been performed. -/
structure Progress (remote : Remote.LoadBalancer) (config : State) (start : Nat) (done : List Step)
    (x : Stage) : Prop where
  updatable : Updatable remote config
  wellFormed : WellFormed remote start
  sub : done ⊆ updateSteps remote config
  made : Performed done (remote, start) x

/-- The effect of every step keeps a property. -/
def Kept (remote : Remote.LoadBalancer) (config : State) (start : Nat) (steps : List Step)
    (Q : Stage → Prop) : Prop :=
  ∀ s ∈ steps, ∀ u v, Settled remote start u → Settled remote start v → Q u →
    Effect remote (updatePlan remote config) s u v → Q v

namespace Progress

variable {done : List Step} {I Q : Stage → Prop} (h : Progress remote config start done x)

include h

/-- A step takes one stage of the update to the next. -/
theorem advance {s : Step} (hs : s ∈ done) {u v : Stage} (hu : Settled remote start u)
    (made : Performs s u v) :
    Settled remote start v ∧ Effect remote (updatePlan remote config) s u v :=
  ⟨hu.of_performs h.updatable h.wellFormed (h.sub hs) made,
    effect_of_performs h.updatable hu.wellFormed (h.sub hs) made⟩

/-- The steps of an update keep names and identifiers. -/
theorem settled : Settled remote start x :=
  h.made.invariant (fun _ hs _ _ hu made => (h.advance hs hu made).1) (.initial h.wellFormed)

/-- What the effect of every step keeps, holds if it did at the start. -/
theorem invariant (kept : Kept remote config start done I) (initial : I (remote, start)) : I x := by
  have both : Settled remote start x ∧ I x := by
    refine h.made.invariant (I := fun u => Settled remote start u ∧ I u) ?_
      ⟨.initial h.wellFormed, initial⟩
    rintro s hs u v ⟨hu, hI⟩ made
    obtain ⟨hv, effect⟩ := h.advance hs hu made
    exact ⟨hv, kept s hs u v hu hv hI effect⟩
  exact both.2

/-- What the effect of one of the steps brings about, holds if that of every step keeps it. Both may
rely on something else that every step keeps. -/
theorem eventually_with (mem : step ∈ done) (always : Kept remote config start done I)
    (initial : I (remote, start))
    (brought : ∀ u v, Settled remote start u → Settled remote start v → I u →
      Effect remote (updatePlan remote config) step u v → Q v)
    (kept : ∀ s ∈ done, ∀ u v, Settled remote start u → Settled remote start v → I u → Q u →
      Effect remote (updatePlan remote config) s u v → Q v) : Q x := by
  refine h.made.eventually (I := fun u => Settled remote start u ∧ I u) mem ?_
    ⟨.initial h.wellFormed, initial⟩ ?_ ?_
  · rintro s hs u v ⟨hu, hI⟩ made
    obtain ⟨hv, effect⟩ := h.advance hs hu made
    exact ⟨hv, always s hs u v hu hv hI effect⟩
  · rintro u v ⟨hu, hI⟩ made
    obtain ⟨hv, effect⟩ := h.advance mem hu made
    exact brought u v hu hv hI effect
  · rintro s hs u v ⟨hu, hI⟩ hQ made
    obtain ⟨hv, effect⟩ := h.advance hs hu made
    exact kept s hs u v hu hv hI hQ effect

/-- What the effect of one of the steps brings about, holds if that of every step keeps it. -/
theorem eventually (mem : step ∈ done)
    (brought : ∀ u v, Settled remote start u → Settled remote start v →
      Effect remote (updatePlan remote config) step u v → Q v)
    (kept : Kept remote config start done Q) : Q x :=
  h.eventually_with (I := fun _ => True) mem (fun _ _ _ _ _ _ _ _ => trivial) trivial
    (fun u v hu hv _ => brought u v hu hv) fun s hs u v hu hv _ hQ => kept s hs u v hu hv hQ

end Progress

/-! ### In the cloud -/

/-- The cloud in memory holds a load balancer, which runs and whose objects have identifiers of
their own. -/
structure Held (env : Environment (Faulty MemoryCloud)) (session : Session (Faulty MemoryCloud))
    (remote : Remote.LoadBalancer) : Prop where
  memory : env.api = Faulty.api MemoryCloud.api
  there : ∃ pending, session.cloud.cloud.loadBalancers.get? remote.id = some ⟨remote, pending⟩
  runs : remote.status = "running"
  wellFormed : WellFormed remote session.cloud.cloud.issued

namespace Held

variable {env : Environment (Faulty MemoryCloud)} {session there : Session (Faulty MemoryCloud)}
  {current : Remote.LoadBalancer} (h : Held env session remote)

include h

/-- An accepted configuration has an update of the load balancer. -/
theorem updatable (accepted : config.Accepted) : Updatable remote config where
  healthCheckIds := h.wellFormed.healthCheckIds
  backendIds := h.wellFormed.backendIds
  aclIds := h.wellFormed.aclIds
  listenerIds := h.wellFormed.listenerIds
  decided := accepted.decided
  bare := accepted.bare

theorem holds : session.cloud.cloud.Holds remote.id remote session.cloud.cloud.issued where
  issued := rfl
  object entry found := by
    obtain ⟨pending, there⟩ := h.there
    obtain rfl := Option.some.inj (there.symm.trans found)
    rw [MemoryCloud.running, ← h.runs]

/-- A wait for the load balancer returns it. -/
theorem started (run : converge remote.id env session = (.ok current, there)) :
    current = remote ∧ there.cloud.cloud.Holds remote.id remote session.cloud.cloud.issued := by
  obtain ⟨holds, same⟩ := Faulty.converge_holds h.memory h.holds run
  exact ⟨same _ rfl, holds⟩

/-- An update that succeeds has performed all its steps. -/
theorem finished (accepted : config.Accepted)
    (run : converge remote.id env session = (.ok current, there)) {lb : Remote.LoadBalancer}
    {after : Session (Faulty MemoryCloud)}
    (rolled : runSteps remote.id (updateSteps remote config) current env there = (.ok lb, after)) :
    ∃ issued, Progress remote config session.cloud.cloud.issued (updateSteps remote config)
        (lb, issued) ∧ after.cloud.cloud.Holds remote.id lb issued := by
  obtain ⟨rfl, holds⟩ := h.started run
  obtain ⟨issued, made, holds⟩ :=
    @performed_of_runSteps _ _ _ _ _ _ (lb, after) h.memory holds rolled
  exact ⟨issued, ⟨h.updatable accepted, h.wellFormed, List.Subset.refl _, made⟩, holds⟩

/-- A step that is reached finds what the steps before it have performed. -/
theorem progress (accepted : config.Accepted)
    (run : converge remote.id env session = (.ok current, there))
    {here : Remote.LoadBalancer × Session (Faulty MemoryCloud)}
    (reached : Reaches env remote.id (updateSteps remote config) (current, there) step here) :
    ∃ done rest issued, updateSteps remote config = done ++ step :: rest ∧
      Progress remote config session.cloud.cloud.issued done (here.1, issued) ∧
      here.2.cloud.cloud.Holds remote.id here.1 issued := by
  obtain ⟨rfl, holds⟩ := h.started run
  obtain ⟨done, rest, issued, split, made, holds⟩ := performed_of_reaches h.memory holds reached
  exact ⟨done, rest, issued, split,
    ⟨h.updatable accepted, h.wellFormed, split ▸ List.subset_append_left _ _, made⟩, holds⟩

end Held

/-- An environment with a cloud in memory. -/
def memoryEnvironment : Environment (Faulty MemoryCloud) :=
  ⟨Faulty.api MemoryCloud.api, ⟨1, 100, ⟨10, 10, 10, 10⟩⟩, none, 100⟩

/-- A session in which the cloud holds a load balancer, has issued a number of identifiers and does
not fail. -/
def memorySession (remote : Remote.LoadBalancer) (issued : Nat) : Session (Faulty MemoryCloud) :=
  ⟨0, .of (MemoryCloud.withEntry remote.id (⟨remote, []⟩ : Entry Remote.LoadBalancer)
    { MemoryCloud.empty with issued }), []⟩

/-- A load balancer with valid references whose identifiers are numbered as the cloud does, up to
the last one issued, is held in such a session. -/
theorem held_memorySession {issued : Nat} (runs : remote.status = "running")
    (healthCheckIds : Distinct (remote.healthChecks.map (·.id)))
    (backendIds : Distinct (remote.backends.map (·.id)))
    (aclIds : Distinct (remote.acls.map (·.id)))
    (listenerIds : Distinct (remote.listeners.map (·.id)))
    (healthChecks : Numbered "hc" issued (remote.healthChecks.map (·.id)))
    (backends : Numbered "be" issued (remote.backends.map (·.id)))
    (references : ∀ b ∈ remote.backends, ∀ id ∈ b.healthCheckId,
      remote.hasHealthCheck id = true) :
    Held memoryEnvironment (memorySession remote issued) remote where
  memory := rfl
  there := ⟨[], StringMap.get?_insert_self _ _ _⟩
  runs := runs
  wellFormed :=
    ⟨healthCheckIds, backendIds, aclIds, listenerIds, healthChecks.unissued, backends.unissued,
      healthChecks.unissued.references references⟩

/-- A load balancer with a listener, two backends and two health checks. -/
def crowdedRemote : Remote.LoadBalancer where
  id := "lb-1"
  name := "edge"
  description := none
  address := none
  status := "running"
  errorMessage := none
  listeners := [⟨"ls-1", some "http", 80, "http", "be-2", none⟩]
  acls := []
  healthChecks := [⟨"hc-1", "ping", "http", 80, none, 10, 5, 3, 3⟩,
    ⟨"hc-2", "probe", "http", 80, none, 10, 5, 3, 3⟩]
  backends := [⟨"be-1", "web", "instance", none, false, some "hc-2", []⟩,
    ⟨"be-2", "old", "instance", none, false, some "hc-2", []⟩]

/-- A configuration with nothing but a listener and the backend that it sends to. -/
def pairConfig (backend targetsType : String) (healthCheck : Attr String)
    (healthChecks : List HealthCheck) : State :=
  { State.blank with
    name := .known "edge"
    listeners := .known [⟨.null, .known "http", .known 80, .known "http", .known backend, .null⟩]
    healthChecks := .known healthChecks
    backends := .known [⟨.null, .known backend, .known targetsType, .null, .null, healthCheck,
      .null⟩] }

/-- The configuration that does without the second backend and the second health check. -/
def sparseConfig : State :=
  pairConfig "web" "instance" (.known "ping")
    [⟨.null, .known "ping", .known "http", .known 80, .null, .null, .null, .null, .null⟩]

end CloudProvision.LoadBalancer
