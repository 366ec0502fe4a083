import CloudProvision.Proofs.LoadBalancer.Progress

/-!
# How many objects an update leaves

A step that creates a health check or a backend adds one to their number, and a step that deletes
one takes one away. A backend that is made again counts as nothing. So an update leaves as many
objects as there were, with those that are new and without those that are left over, which is no
more than planned.

## Main results

* `growth_steps`: what the steps of a difference add up to.
* `length_healthChecks_le`, `length_backends_le`: an update leaves no more objects than planned.
-/

namespace CloudProvision.LoadBalancer

/-! ### Growth of steps -/

/-- What a step adds to a number of objects, if each new health check counts as `healthCheck` and
each new backend as `backend`. -/
def Step.growth (healthCheck backend : Int) : Step → Int
  | .createHealthCheck _ => healthCheck
  | .deleteHealthCheck _ => -healthCheck
  | .createBackend _ => backend
  | .deleteBackend _ => -backend
  | _ => 0

/-- What steps add to a number, if each of them adds something. -/
def growth (f : Step → Int) : List Step → Int
  | [] => 0
  | step :: steps => f step + growth f steps

section Growth

variable {f : Step → Int}

@[simp] theorem growth_nil : growth f [] = 0 := rfl

@[simp] theorem growth_cons (step : Step) (steps : List Step) :
    growth f (step :: steps) = f step + growth f steps := rfl

@[simp] theorem growth_append (steps steps' : List Step) :
    growth f (steps ++ steps') = growth f steps + growth f steps' := by
  induction steps with
  | nil => rw [List.nil_append, growth_nil, Int.zero_add]
  | cons step steps ih =>
      rw [List.cons_append, growth_cons, growth_cons, ih, Int.add_assoc]

/-- Steps that add the same add it as often as there are steps. -/
theorem growth_map {α : Type} {g : α → Step} {n : Int} (same : ∀ a, f (g a) = n) (l : List α) :
    growth f (l.map g) = n * l.length := by
  induction l with
  | nil => simp
  | cons a rest ih =>
      rw [List.map_cons, growth_cons, same, ih, List.length_cons, Int.natCast_succ, Int.mul_add,
        Int.mul_one, Int.add_comm]

/-- Steps that add nothing leave a number as it is. -/
theorem growth_eq_zero {steps : List Step} (even : ∀ s ∈ steps, f s = 0) : growth f steps = 0 := by
  induction steps with
  | nil => rfl
  | cons s rest ih =>
      have first := even s List.mem_cons_self
      have later := ih fun s' hs' => even s' (List.mem_cons_of_mem _ hs')
      rw [growth_cons, first, later, Int.add_zero]

/-- Steps that add nothing together add nothing one after the other. -/
theorem growth_flatMap {α : Type} {g : α → List Step} (even : ∀ a, growth f (g a) = 0)
    (l : List α) : growth f (l.flatMap g) = 0 := by
  induction l with
  | nil => rfl
  | cons a rest ih => rw [List.flatMap_cons, growth_append, even, ih, Int.add_zero]

end Growth

/-- What the steps of a difference add: new objects count, those left over count the other way, and
backends that are made again count as nothing. -/
theorem growth_steps (d : Difference) (plan : State) (healthCheck backend : Int) :
    growth (Step.growth healthCheck backend) (d.steps plan) =
      healthCheck * d.healthChecks.added.length - healthCheck * d.healthChecks.removed.length
        + backend * d.backends.added.length - backend * d.backends.removed.length := by
  have optional {s : Step} (even : s.growth healthCheck backend = 0) (c : Bool) :
      growth (Step.growth healthCheck backend) (if c then [s] else []) = 0 := by
    refine growth_eq_zero fun s' hs' => ?_
    obtain ⟨-, mem⟩ := List.mem_ite_nil_right.1 hs'
    rw [List.mem_singleton.1 mem, even]
  have acls : growth (Step.growth healthCheck backend) (aclSteps d.acls plan) = 0 := by
    refine growth_eq_zero fun s hs => ?_
    rcases mem_aclSteps.1 hs with ⟨-, rfl⟩ | ⟨-, m, -, rfl⟩
    · rfl
    · rfl
  have recreated (pairs : List (Pairing Backend)) :
      growth (Step.growth healthCheck backend) (pairs.flatMap fun pairing =>
        [.deleteBackend pairing.state.entry, .createBackend pairing.plan.entry]) = 0 := by
    refine growth_flatMap (fun pairing => ?_) pairs
    rw [growth_cons, growth_cons, growth_nil, Int.add_zero]
    exact Int.add_left_neg backend
  simp only [Difference.steps, growth_append]
  rw [optional rfl, growth_map (n := healthCheck) fun _ => rfl, growth_map (n := 0) fun _ => rfl,
    recreated, growth_map (n := backend) fun _ => rfl, growth_map (n := 0) fun _ => rfl,
    growth_map (n := 0) fun _ => rfl, acls, optional rfl, growth_map (n := -backend) fun _ => rfl,
    growth_map (n := -healthCheck) fun _ => rfl, Int.neg_mul, Int.neg_mul]
  omega

/-! ### Growth of an update -/

variable {remote : Remote.LoadBalancer} {config : State} {start : Nat} {step : Step} {u v x : Stage}

/-- A number to which every step that is performed adds something. -/
theorem Performed.grown {steps : List Step} {z : Stage} {I : Stage → Prop} {m : Stage → Nat}
    {f : Step → Int} (h : Performed steps x z)
    (kept : ∀ s ∈ steps, ∀ u v, I u → Performs s u v → I v ∧ (m v : Int) = m u + f s)
    (initial : I x) : (m z : Int) = m x + growth f steps := by
  induction h with
  | nil => rw [growth_nil, Int.add_zero]
  | cons first _ ih =>
      obtain ⟨after, added⟩ := kept _ List.mem_cons_self _ _ initial first
      rw [ih (fun s hs => kept s (List.mem_cons_of_mem _ hs)) after, added, growth_cons,
        Int.add_assoc]

/-- A number to which the effect of every step adds something. -/
theorem Progress.grown {done : List Step} (h : Progress remote config start done x)
    {m : Stage → Nat} {f : Step → Int}
    (added : ∀ s ∈ done, ∀ u v, Settled remote start u →
      Effect remote (updatePlan remote config) s u v → (m v : Int) = m u + f s) :
    (m x : Int) = m (remote, start) + growth f done := by
  refine h.made.grown (I := Settled remote start) (fun s hs u v hu made => ?_)
    (.initial h.wellFormed)
  obtain ⟨hv, effect⟩ := h.advance hs hu made
  exact ⟨hv, added s hs u v hu effect⟩

/-- An object is taken away by its identifier. -/
theorem length_filter_id_ne {α : Type} {objects : List α} {getId : α → String}
    (distinct : (objects.map getId).Nodup) {id : String} (mem : id ∈ objects.map getId) :
    ((objects.filter (getId · != id)).length : Int) = objects.length - 1 := by
  have kept : (objects.filter (getId · != id)).map getId = (objects.map getId).erase id := by
    rw [distinct.erase_eq_filter, List.filter_map]
    rfl
  have fewer := List.length_erase_of_mem mem
  have some_left := List.length_pos_of_mem mem
  rw [← kept, List.length_map, List.length_map] at fewer
  rw [List.length_map] at some_left
  omega

/-- What the effect of a step adds to the number of health checks. -/
theorem Effect.length_healthChecks {plan : State} (settled : Settled remote start u)
    (effect : Effect remote plan step u v) :
    (v.1.healthChecks.length : Int) = u.1.healthChecks.length + step.growth 1 0 := by
  cases effect with
  | createHealthCheck => simp [Step.growth]
  | updateHealthCheck => simp [Step.growth]
  | deleteHealthCheck hr there unused =>
      exact length_filter_id_ne settled.wellFormed.healthCheckIds.nodup there
  | _ => exact (Int.add_zero _).symm

/-- What the effect of a step adds to the number of backends. -/
theorem Effect.length_backends {plan : State} (settled : Settled remote start u)
    (effect : Effect remote plan step u v) :
    (v.1.backends.length : Int) = u.1.backends.length + step.growth 0 1 := by
  cases effect with
  | createBackend => simp [Step.growth]
  | updateBackend => simp [Step.growth]
  | replaceTargets => simp [Step.growth]
  | deleteBackend hr there unused =>
      exact length_filter_id_ne settled.wellFormed.backendIds.nodup there
  | _ => exact (Int.add_zero _).symm

section Finished

variable (progress : Progress remote config start (updateSteps remote config) x)

include progress

/-- An update leaves no more health checks than planned. -/
theorem length_healthChecks_le :
    x.1.healthChecks.length ≤ (updatePlan remote config).healthChecks.entries.length := by
  obtain ⟨healthChecks, -⟩ :=
    @between_planUpdate (.ofRemote remote) config progress.updatable.decided
  have grown := progress.grown (m := fun u => u.1.healthChecks.length)
    fun s _ u v hu effect => effect.length_healthChecks hu
  rw [updateSteps, growth_steps, updatePlan, healthChecks, ← updatePlan] at grown
  have sizes := Changes.length_state_add_added_le (updatePlan remote config).healthChecks.entries
    (State.ofRemote remote).healthChecks.entries
  have there : (State.ofRemote remote).healthChecks.entries.length =
      (remote, start).1.healthChecks.length := List.length_map _
  omega

/-- An update leaves no more backends than planned. -/
theorem length_backends_le :
    x.1.backends.length ≤ (updatePlan remote config).backends.entries.length := by
  obtain ⟨-, backends, -⟩ :=
    @between_planUpdate (.ofRemote remote) config progress.updatable.decided
  have grown := progress.grown (m := fun u => u.1.backends.length)
    fun s _ u v hu effect => effect.length_backends hu
  rw [updateSteps, growth_steps, updatePlan, backends, ← updatePlan] at grown
  have sizes := Changes.length_state_add_added_le (updatePlan remote config).backends.entries
    (State.ofRemote remote).backends.entries
  have there : (State.ofRemote remote).backends.entries.length = remote.backends.length :=
    List.length_map _
  simp only [BackendChanges.between] at grown
  omega

end Finished

end CloudProvision.LoadBalancer
