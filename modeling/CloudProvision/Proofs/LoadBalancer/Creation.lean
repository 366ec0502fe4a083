import CloudProvision.Proofs.LoadBalancer.Plan
import CloudProvision.Proofs.LoadBalancer.Progress
import CloudProvision.Proofs.LoadBalancer.Serial
import CloudProvision.Proofs.LoadBalancer.Undisturbed

/-!
# Creations

A load balancer is created bare and rolled out to its plan: first its health checks, then the
backends that refer to them, its ACLs, and at last the listeners, which refer to backends.
References are names, and what has been made has the planned names, so a reference to something
planned is found unless it is blank. A blank reference to a health check is none. A blank reference
to a backend is one, which is valid if some backend has no name; but nothing is found by a blank
name.

## Main definitions

* `Referring`: a plan whose references are to planned objects.
* `objectSteps` and `listenerSteps`: the steps of a creation.
* `Built`: a load balancer with the planned health checks and backends, as far as names go.

## Main results

* `performed_map`: steps that can each be performed after those before it are performed.
* `create_run`: a creation is answered as its steps go.
* `create_outcome`: where nothing disturbs it the creation of a valid load balancer succeeds, unless
  a listener refers to a backend by a blank name.
-/

namespace CloudProvision

open Remote

namespace LoadBalancer

open MemoryCloud (bareLoadBalancer)
open Operation

variable {config plan : State} {id : String} {x y : Stage}

/-! ### The plan and its steps -/

/-- A creation plans what an update from nothing does. -/
theorem planCreate_collections (config : State) :
    config.planCreate.listeners = (State.blank.planUpdate config).listeners ∧
      config.planCreate.acls = (State.blank.planUpdate config).acls ∧
      config.planCreate.healthChecks = (State.blank.planUpdate config).healthChecks ∧
      config.planCreate.backends = (State.blank.planUpdate config).backends := by
  have renew : Backend.renew (.ofList []) = id := by
    funext b
    rw [Backend.renew, IdentityIndex.find?, IdentityIndex.locate?_nil]
    rfl
  have backends : (State.blank.planUpdate config).backends =
      config.planCreate.backends.map (·.map (Backend.renew (.ofList []))) := rfl
  refine ⟨rfl, rfl, rfl, ?_⟩
  rw [backends, renew]
  cases config.planCreate.backends <;> simp [Attr.map]

/-- A plan whose collections are decided and whose references are to planned objects, whatever their
names. -/
structure Referring (plan : State) : Prop where
  decided : plan.listeners.isUnknown = false ∧ plan.acls.isUnknown = false ∧
    plan.healthChecks.isUnknown = false ∧ plan.backends.isUnknown = false
  listeners : ∀ l ∈ plan.listeners.entries, ∃ name, l.backend = .known name ∧
    ∃ b ∈ plan.backends.entries, b.name = .known name
  backends : ∀ b ∈ plan.backends.entries, ∀ name, b.healthCheck.key? = some name →
    ∃ c ∈ plan.healthChecks.entries, c.name = .known name

/-- The references of a new load balancer are to planned objects. -/
theorem planCreate_referring (decided : config.isDecided = true) (valid : config.validate = []) :
    Referring config.planCreate := by
  obtain ⟨listeners, acls, healthChecks, backends⟩ := planCreate_collections config
  constructor
  · rw [listeners, acls, healthChecks, backends]
    exact planUpdate_isDecided decided
  · rw [listeners, backends]
    exact fun l hl => planned_listener_reference decided valid hl
  · rw [healthChecks, backends]
    exact fun b hb name key => planned_backend_reference decided valid hb key

/-- The steps of a creation before the listeners. -/
def objectSteps (plan : State) : List Step :=
  plan.healthChecks.entries.map .createHealthCheck
    ++ plan.backends.entries.map .createBackend
    ++ if plan.acls.entries.isEmpty then [] else [.replaceAcls plan.acls.entries]

/-- The step of a creation that makes the listeners. -/
def listenerSteps (plan : State) : List Step :=
  if plan.listeners.entries.isEmpty then [] else [.replaceListeners plan.listeners.entries]

/-- What is new is all that is planned, if there is nothing yet. -/
theorem between_bare (h : Referring plan) :
    Difference.between plan (.ofRemote (bareLoadBalancer id plan.createRequest)) =
      { topLevel := false
        healthChecks := ⟨Placed.ofList plan.healthChecks.entries, [], []⟩
        backends := ⟨Placed.ofList plan.backends.entries, [], [], [], []⟩
        acls := ⟨Placed.ofList plan.acls.entries, [], []⟩
        listeners := !plan.listeners.entries.isEmpty } := by
  obtain ⟨listeners, acls, healthChecks, backends⟩ := h.decided
  let bare : State := .ofRemote (bareLoadBalancer id plan.createRequest)
  have name : plan.name.changed bare.name = false := Attr.changed_text _
  have description : plan.description.changed bare.description = false := Attr.changed_nonempty? _
  have nothing : bare.listeners.entries = [] ∧ bare.acls.entries = [] ∧
      bare.healthChecks.entries = [] ∧ bare.backends.entries = [] := ⟨rfl, rfl, rfl, rfl⟩
  have new : (⟨Placed.ofList plan.listeners.entries, [], []⟩ : Changes Listener).isEmpty =
      plan.listeners.entries.isEmpty := by
    rw [Changes.isEmpty, Changes.membershipChanged]
    cases plan.listeners.entries <;> rfl
  change Difference.between plan bare = _
  rw [Difference.between, name, description, collections_eq listeners, collections_eq acls,
    collections_eq healthChecks, collections_eq backends]
  simp only [nothing, Changes.between_nil, BackendChanges.between, new]
  rfl

/-- The rollout of a bare load balancer makes all that is planned. -/
theorem steps_bare (h : Referring plan) :
    (Difference.between plan (.ofRemote (bareLoadBalancer id plan.createRequest))).steps plan =
      objectSteps plan ++ listenerSteps plan := by
  have entries {α : Type} (f : α → Step) (xs : List α) :
      (Placed.ofList xs).map (fun p => f p.entry) = xs.map f := by
    conv_rhs => rw [← Placed.map_entry_ofList xs, List.map_map]
    rfl
  have new : aclSteps ⟨Placed.ofList plan.acls.entries, [], []⟩ plan =
      if plan.acls.entries.isEmpty then [] else [.replaceAcls plan.acls.entries] := by
    rw [aclSteps, Changes.membershipChanged]
    cases plan.acls.entries <;> rfl
  rw [between_bare h, Difference.steps, objectSteps, listenerSteps]
  simp only [entries, new, List.map_nil, List.flatMap_nil, List.append_nil]
  cases plan.listeners.entries <;> simp [Changes.changed]

/-! ### Making what is planned -/

/-- Steps of entries are performed, if each of them can be after those before it. -/
theorem performed_map {α : Type} {step : α → Step} {I : List α → Stage → Prop} {done : List α}
    (entries : List α)
    (advance : ∀ done, ∀ entry ∈ entries, ∀ x, I done x →
      ∃ y, Performs (step entry) x y ∧ I (done ++ [entry]) y)
    (start : I done x) : ∃ y, Performed (entries.map step) x y ∧ I (done ++ entries) y := by
  induction entries generalizing done x with
  | nil => exact ⟨x, .nil, by rwa [List.append_nil]⟩
  | cons entry rest ih =>
      obtain ⟨between, first, made⟩ := advance done entry List.mem_cons_self x start
      obtain ⟨y, later, made⟩ :=
        ih (fun done e he => advance done e (List.mem_cons_of_mem _ he)) made
      exact ⟨y, .cons first later, by rwa [List.append_cons]⟩

/-- The load balancer has health checks and backends with the names of planned ones. -/
structure Built (healthChecks : List HealthCheck) (backends : List Backend) (x : Stage) : Prop where
  healthChecks : x.1.healthChecks.map (·.name) = healthChecks.map (·.name.text)
  backends : x.1.backends.map (·.name) = backends.map (·.name.text)

namespace Built

variable {healthChecks : List HealthCheck} {backends : List Backend}
  (built : Built healthChecks backends x)

include built

/-- A health check can be created. -/
theorem createHealthCheck (h : HealthCheck) :
    ∃ y, Performs (.createHealthCheck h) x y ∧ Built (healthChecks ++ [h]) backends y := by
  refine ⟨_, performs_of_applied rfl .createHealthCheck, ?_, built.backends⟩
  simp only [List.map_append, built.healthChecks]
  rfl

/-- A health check with a planned name exists. -/
theorem exists_healthCheck {c : HealthCheck} {name : String} (planned : c ∈ healthChecks)
    (named : c.name = .known name) : ∃ made ∈ x.1.healthChecks, made.name = name := by
  have mem : name ∈ x.1.healthChecks.map (·.name) := by
    rw [built.healthChecks]
    exact List.mem_map.2 ⟨c, planned, by rw [named]; rfl⟩
  exact List.mem_map.1 mem

/-- A backend with a planned name exists. -/
theorem exists_backend {b : Backend} {name : String} (planned : b ∈ backends)
    (named : b.name = .known name) : ∃ made ∈ x.1.backends, made.name = name := by
  have mem : name ∈ x.1.backends.map (·.name) := by
    rw [built.backends]
    exact List.mem_map.2 ⟨b, planned, by rw [named]; rfl⟩
  exact List.mem_map.1 mem

/-- A backend can be created if it refers to a planned health check, if to anything. -/
theorem createBackend {b : Backend} (reference : ∀ name, b.healthCheck.key? = some name →
      ∃ c ∈ healthChecks, c.name = .known name) :
    ∃ y, Performs (.createBackend b) x y ∧ Built healthChecks (backends ++ [b]) y := by
  obtain ⟨id, resolved⟩ := @exists_healthCheckId x.1 b fun name key => by
    obtain ⟨c, planned, named⟩ := reference name key
    exact built.exists_healthCheck planned named
  have required : ∀ k, id = some k → x.1.hasHealthCheck k = true := by
    rintro k rfl
    rcases healthCheckId_ok resolved with ⟨-, none⟩ | ⟨made, mem, same, -⟩
    · cases none
    · obtain rfl := Option.some.inj same
      exact LoadBalancer.hasHealthCheck_iff.2 (List.mem_map_of_mem mem)
  have change : (Step.createBackend b).resolve x.1 = .ok (.createBackend (b.spec id)) := by
    rw [Step.resolve, resolved]
    rfl
  refine ⟨_, performs_of_applied change (.createBackend required), built.healthChecks, ?_⟩
  simp only [List.map_append, built.backends]
  rfl

/-- ACLs can be made. -/
theorem replaceAcls (acls : List Acl) :
    ∃ y, Performs (.replaceAcls acls) x y ∧ Built healthChecks backends y :=
  ⟨_, performs_of_applied rfl .replaceAcls, built.healthChecks, built.backends⟩

/-- A listener that refers to a planned backend can be sent, unless by a blank name. -/
theorem exists_spec {l : Listener} {name : String} (reference : l.backend = .known name)
    (planned : ∃ b ∈ backends, b.name = .known name) (filled : name ≠ "") :
    ∃ spec, listenerSpec x.1 l = .ok spec := by
  obtain ⟨b, mem, named⟩ := planned
  obtain ⟨made, there, rfl⟩ := built.exists_backend mem named
  refine exists_listenerSpec there reference ?_
  rwa [← Bool.not_eq_true, String.isEmpty_iff]

end Built

/-- Listeners that can be sent can be made. -/
theorem performs_replaceListeners {listeners : List Listener}
    (sent : ∀ l ∈ listeners, ∃ spec, listenerSpec x.1 l = .ok spec) :
    ∃ y, Performs (.replaceListeners listeners) x y := by
  obtain ⟨specs, resolved⟩ := exists_mapM_eq_ok sent
  have required : ∀ spec ∈ specs, x.1.hasBackend spec.backendId = true := by
    intro spec mem
    obtain ⟨l, -, same⟩ := exists_of_forall₂ (mapM_eq_ok.1 resolved) spec mem
    obtain ⟨backend, there, rfl, -⟩ := listenerSpec_ok same
    exact LoadBalancer.hasBackend_iff.2 (List.mem_map_of_mem there)
  have change : (Step.replaceListeners listeners).resolve x.1 = .ok (.replaceListeners specs) := by
    rw [Step.resolve, resolved]
    rfl
  exact ⟨_, performs_of_applied change (.replaceListeners required)⟩

/-- All that comes before the listeners can be made. -/
theorem Referring.performed_objectSteps (h : Referring plan) (start : Built [] [] x) :
    ∃ y, Performed (objectSteps plan) x y ∧
      Built plan.healthChecks.entries plan.backends.entries y := by
  obtain ⟨afterHealthChecks, healthChecks, built⟩ := performed_map plan.healthChecks.entries
    (fun done h _ _ (built : Built done [] _) => built.createHealthCheck h) start
  rw [List.nil_append] at built
  obtain ⟨afterBackends, backends, built⟩ := performed_map plan.backends.entries
    (fun done b hb _ (built : Built plan.healthChecks.entries done _) =>
      built.createBackend (h.backends b hb)) built
  rw [List.nil_append] at built
  have objects := healthChecks.append backends
  rw [objectSteps]
  split
  · exact ⟨afterBackends, by rwa [List.append_nil], built⟩
  · obtain ⟨y, acls, built⟩ := built.replaceAcls plan.acls.entries
    exact ⟨y, objects.append (.cons acls .nil), built⟩

/-- The listeners can be made unless one of them refers to a backend by the blank name. -/
theorem Referring.performed_listenerSteps (h : Referring plan)
    (built : Built plan.healthChecks.entries plan.backends.entries x)
    (filled : ∀ l ∈ plan.listeners.entries, l.backend ≠ .known "") :
    ∃ y, Performed (listenerSteps plan) x y := by
  have sent : ∀ l ∈ plan.listeners.entries, ∃ spec, listenerSpec x.1 l = .ok spec := by
    intro l hl
    obtain ⟨name, reference, planned⟩ := h.listeners l hl
    exact built.exists_spec reference planned fun blank => filled l hl (blank ▸ reference)
  rw [listenerSteps]
  split
  · exact ⟨x, .nil⟩
  · obtain ⟨y, made⟩ := performs_replaceListeners sent
    exact ⟨y, .cons made .nil⟩

/-- The first listener that refers to a backend by the blank name cannot be sent, and so none can be
made. -/
theorem Referring.fails_listenerSteps (h : Referring plan)
    (built : Built plan.healthChecks.entries plan.backends.entries x) {l : Listener}
    (first : plan.listeners.entries.find? (·.backend = .known "") = some l) :
    ∃ listeners, listenerSteps plan = [.replaceListeners listeners] ∧
      (Step.replaceListeners listeners).resolve x.1 = .error (.backend l.name.text "") := by
  obtain ⟨blank, before, after, split, filled⟩ := List.find?_eq_some_iff_append.1 first
  have sent : ∀ l' ∈ before, ∃ spec, listenerSpec x.1 l' = .ok spec := by
    intro l' hl
    obtain ⟨name, reference, planned⟩ := h.listeners l' (split ▸ List.mem_append_left _ hl)
    refine built.exists_spec reference planned ?_
    rintro rfl
    simpa [reference] using filled l' hl
  refine ⟨plan.listeners.entries, ?_, ?_⟩
  · rw [listenerSteps, split]
    cases before <;> rfl
  · rw [Step.resolve, split, mapM_eq_error sent (listenerSpec_of_blank (of_decide_eq_true blank))]
    rfl

/-! ### Runs of a creation -/

section Run

variable {env : Environment (Faulty MemoryCloud)} {session : Session (Faulty MemoryCloud)}
  (obliging : Obliging env)

include obliging

/-- A load balancer that is created runs, with nothing in it. -/
theorem Obliging.created (calm : session.cloud.faults = .empty)
    (usual : session.cloud.cloud.nextCreation = none) (request : LoadBalancerCreate) :
    ∃ id issued there after, call (.createLoadBalancer request) env session = (.ok id, there) ∧
      converge id env there = (.ok (bareLoadBalancer id request), after) ∧
      AtRest after id (bareLoadBalancer id request, issued) := by
  let issued := session.cloud.cloud.issued + 1
  let id := numberedId "lb" issued
  let creating : Entry Remote.LoadBalancer :=
    .changing (bareLoadBalancer id request) "creating" (.status "running")
  let next := MemoryCloud.withEntry id creating { session.cloud.cloud with issued }
  let there : Session (Faulty MemoryCloud) := (call (.createLoadBalancer request) env session).2
  have served := MemoryCloud.serve_createLoadBalancer usual request
  have called : call (.createLoadBalancer request) env session = (.ok id, there) := by
    refine Prod.ext ?_ rfl
    simp only [call, obliging.memory, Faulty.api_of_served calm served]
    rfl
  have cloud : there.cloud = .of next := by
    simp only [there, call, obliging.memory, Faulty.api_of_served calm served]
    rfl
  have status : creating.object.status = "creating" := rfl
  obtain ⟨after, converged, rest⟩ := @converge_ok env there id obliging creating.object
    (by rw [cloud]; rfl) (by rw [cloud]; exact StringMap.get?_insert_self _ _ _)
    (by rw [status]; decide) (by rw [status]; decide)
  exact ⟨id, _, there, after, called, converged, rest⟩

/-- A creation is answered as its steps go. -/
theorem create_run (calm : session.cloud.faults = .empty)
    (usual : session.cloud.cloud.nextCreation = none) (h : Referring plan)
    (diagnostics : Diagnostics) :
    ∃ id issued there,
      AtRest there id (bareLoadBalancer id plan.createRequest, issued) ∧
      (resource.create plan diagnostics env session).1 =
        match (runSteps id (objectSteps plan ++ listenerSteps plan)
          (bareLoadBalancer id plan.createRequest) env there).1 with
        | .error e =>
          (none, diagnostics.error (.onRoot "Could not configure load balancer" (toString e)))
        | .ok changed => (some (.ofRemote changed), diagnostics) := by
  obtain ⟨id, issued, created, there, called, converged, rest⟩ :=
    obliging.created calm usual plan.createRequest
  refine ⟨id, issued, there, rest, ?_⟩
  rw [create_eq, Request.bind_run, Request.orReport_run, called]
  dsimp only
  rw [startAndRollout_run, converged]
  dsimp only
  rw [rollout, steps_bare h]
  rcases runSteps id (objectSteps plan ++ listenerSteps plan)
    (bareLoadBalancer id plan.createRequest) env there with ⟨_ | _, after⟩ <;> rfl

/-- Where nothing disturbs it the creation of a decided and valid load balancer succeeds, unless a
listener refers to a backend by the blank name. The first such listener then ends it, when the rest
has been made. -/
theorem create_outcome (calm : session.cloud.faults = .empty)
    (usual : session.cloud.cloud.nextCreation = none) (decided : config.isDecided = true)
    (valid : config.validate = []) (diagnostics : Diagnostics) :
    let answer := (resource.create config.planCreate diagnostics env session).1
    ((∀ l ∈ config.listeners.entries, l.backend ≠ .known "") →
      ∃ state, answer = (some state, diagnostics)) ∧
    ∀ l, config.listeners.entries.find? (·.backend = .known "") = some l →
      answer = (none, diagnostics.error (.onRoot "Could not configure load balancer"
        (ReferenceError.backend l.name.text "").message)) := by
  intro answer
  have referring := planCreate_referring decided valid
  obtain ⟨a, listeners, -⟩ := @planUpdate_listeners .blank config
  obtain ⟨id, issued, there, rest, answered⟩ := create_run obliging calm usual referring diagnostics
  obtain ⟨y, objects, built⟩ := referring.performed_objectSteps
    (x := (bareLoadBalancer id config.planCreate.createRequest, issued)) ⟨rfl, rfl⟩
  obtain ⟨between, made, rest⟩ := obliging.runSteps_ok objects rest
  have later := @runSteps_append _ env id (listenerSteps config.planCreate) _ there _ (y.1, between)
    made
  constructor
  · intro filled
    obtain ⟨z, performed⟩ := referring.performed_listenerSteps built fun l hl => by
      obtain ⟨c, mem, rfl⟩ := List.mem_map.1 (listeners ▸ hl)
      exact filled c mem
    obtain ⟨after, run, -⟩ := obliging.runSteps_ok performed rest
    exact ⟨.ofRemote z.1, answered.trans (by rw [later, run])⟩
  · intro l first
    have planned : config.planCreate.listeners.entries.find? (·.backend = .known "") =
        some { l with id := a l } := by
      refine (congrArg (List.find? _) listeners).trans ?_
      rw [List.find?_map]
      exact congrArg (Option.map _) first
    obtain ⟨entries, steps, unresolved⟩ := referring.fails_listenerSteps built planned
    have ends : Fails env id (.replaceListeners entries) (y.1, between) _ between :=
      .reference unresolved
    refine answered.trans ?_
    rw [later, steps, ends.runSteps_cons]
    rfl

end Run

/-! ### Creations in a cloud in memory -/

/-- Nothing disturbs the sample environment. -/
theorem obliging_memoryEnvironment : Obliging memoryEnvironment :=
  ⟨rfl, rfl, by decide⟩

/-- A session with an empty cloud that does not fail. -/
def emptySession : Session (Faulty MemoryCloud) :=
  ⟨0, .of .empty, []⟩

/-- A listener can be created with a backend that has a name, and not with one that has none. -/
theorem create_outcome_sample :
    (∃ state, (resource.create (pairConfig "web" "instance" .null []).planCreate .none
      memoryEnvironment emptySession).1 = (some state, .none)) ∧
    (resource.create (pairConfig "" "instance" .null []).planCreate .none memoryEnvironment
      emptySession).1 = (none, .error .none (.onRoot "Could not configure load balancer"
        (ReferenceError.backend "http" "").message)) := by
  have named := @create_outcome (pairConfig "web" "instance" .null []) _ emptySession
    obliging_memoryEnvironment rfl rfl (by decide) (by decide +kernel) .none
  have unnamed := @create_outcome (pairConfig "" "instance" .null []) _ emptySession
    obliging_memoryEnvironment rfl rfl (by decide) (by decide +kernel) .none
  exact ⟨named.1 (by decide),
    unnamed.2 ⟨.null, .known "http", .known 80, .known "http", .known "", .null⟩ rfl⟩

/-- A valid configuration with a listener that refers to a backend without a name is not created. -/
theorem create_refused_blank :
    let config := pairConfig "" "instance" .null []
    config.isDecided = true ∧ config.validate = [] ∧
      (resource.create config.planCreate .none memoryEnvironment emptySession).1 =
        (none, .error .none (.onRoot "Could not configure load balancer"
          "backend `` used by listener `http` does not exist")) := by
  decide +kernel

end LoadBalancer

end CloudProvision
