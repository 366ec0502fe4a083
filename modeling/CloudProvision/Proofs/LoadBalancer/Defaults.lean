import CloudProvision.LoadBalancer.Step
import CloudProvision.Proofs.LoadBalancer.Plan

/-!
# Defaults and requests

An attribute that is left out has a default in two places: in the plan, where `State.withDefaults`
puts it, and in the request, which is built from a plan that may still lack it. The two agree. A
state makes the same requests with its defaults as without them, so the defaults only show what is
sent.

## Main definitions

* `Attr.Filled`: a value is the given one, or the default where none is given.
* `State.Filled`: only defaulted attributes may differ, and each of them is filled.
* `State.SameRequests`: two states make the same requests.

## Main result

* `State.withDefaults_normalizes`: defaults are filled in once, in place of nulls only, and no
  request shows a difference.
-/

namespace CloudProvision

/-! ### Filling in a value -/

/-- A value is `default` where none is given. A known value stays known, related by `R` to the given
one, and an undecided one stays undecided. -/
inductive Attr.Filled {α : Type} (R : α → α → Prop) (default : α) :
    (filled given : Attr α) → Prop where
  | known {v w : α} (related : R v w) : Filled R default (known v) (known w)
  | null : Filled R default (known default) null
  | unknown : Filled R default unknown unknown

namespace LoadBalancer

section Value

variable {α : Type} {R : α → α → Prop}

/-- A default fills in a value. -/
theorem filled_orDefault (x : Attr α) (default : α) :
    (orDefault x default).Filled (· = ·) default x := by
  cases x with
  | known v => exact .known rfl
  | null => exact .null
  | unknown => exact .unknown

/-- A default fills in a list whose entries are changed too. -/
theorem filled_orDefault_map {f : α → α} (related : ∀ v, R (f v) v) (xs : Attr (List α)) :
    (orDefault (xs.map (·.map f)) []).Filled (List.Forall₂ R) [] xs := by
  cases xs with
  | known entries =>
      exact .known (List.forall₂_map_left_iff.2 (List.forall₂_same.2 fun v _ => related v))
  | null => exact .null
  | unknown => exact .unknown

/-- A value is filled in once. -/
@[simp] theorem orDefault_orDefault (x : Attr α) (default : α) :
    orDefault (orDefault x default) default = orDefault x default := by
  cases x <;> rfl

/-- The entries of a list are changed once if each of them is. -/
theorem orDefault_map_orDefault_map {f : α → α} (once : ∀ v, f (f v) = f v) (xs : Attr (List α)) :
    orDefault ((orDefault (xs.map (·.map f)) []).map (·.map f)) [] =
      orDefault (xs.map (·.map f)) [] := by
  cases xs with
  | known entries =>
      have twice : (entries.map f).map f = entries.map f :=
        List.map_map.trans (List.map_congr_left fun v _ => once v)
      exact congrArg Attr.known twice
  | null => rfl
  | unknown => rfl

/-- A request with the same default does not see that it was filled in. -/
@[simp] theorem getD_orDefault (x : Attr α) (default : α) :
    (orDefault x default).getD default = x.getD default := by
  cases x <;> rfl

end Value

/-! ### Health checks -/

/-- Only the numbers of a health check that have a default may be filled in. -/
structure HealthCheck.Filled (filled given : HealthCheck) : Prop where
  interval : filled.interval.Filled (· = ·) 10 given.interval
  timeout : filled.timeout.Filled (· = ·) 5 given.timeout
  healthyThreshold : filled.healthyThreshold.Filled (· = ·) 3 given.healthyThreshold
  unhealthyThreshold : filled.unhealthyThreshold.Filled (· = ·) 3 given.unhealthyThreshold
  rest : filled = { given with
    interval := filled.interval
    timeout := filled.timeout
    healthyThreshold := filled.healthyThreshold
    unhealthyThreshold := filled.unhealthyThreshold }

theorem HealthCheck.filled_withDefaults (h : HealthCheck) : h.withDefaults.Filled h where
  interval := filled_orDefault h.interval _
  timeout := filled_orDefault h.timeout _
  healthyThreshold := filled_orDefault h.healthyThreshold _
  unhealthyThreshold := filled_orDefault h.unhealthyThreshold _
  rest := rfl

theorem HealthCheck.withDefaults_withDefaults (h : HealthCheck) :
    h.withDefaults.withDefaults = h.withDefaults := by
  simp only [withDefaults, orDefault_orDefault]

/-- The defaults of a health check are those of its request. -/
theorem HealthCheck.spec_withDefaults (h : HealthCheck) : h.withDefaults.spec = h.spec := by
  simp only [withDefaults, spec, getD_orDefault]

/-! ### Backends -/

/-- Only the type of targets of a backend, its way of closing connections and its targets may be
filled in. -/
structure Backend.Filled (filled given : Backend) : Prop where
  targetsType : filled.targetsType.Filled (· = ·) "instance" given.targetsType
  closeConnections : filled.closeConnections.Filled (· = ·) false given.closeConnections
  targets : filled.targets.Filled (· = ·) [] given.targets
  rest : filled = { given with
    targetsType := filled.targetsType
    closeConnections := filled.closeConnections
    targets := filled.targets }

theorem Backend.filled_withDefaults (b : Backend) : b.withDefaults.Filled b where
  targetsType := filled_orDefault b.targetsType _
  closeConnections := filled_orDefault b.closeConnections _
  targets := filled_orDefault b.targets _
  rest := rfl

theorem Backend.withDefaults_withDefaults (b : Backend) :
    b.withDefaults.withDefaults = b.withDefaults := by
  simp only [withDefaults, orDefault_orDefault]

theorem Backend.remoteTargets_withDefaults (b : Backend) :
    b.withDefaults.remoteTargets = b.remoteTargets := by
  rw [remoteTargets, remoteTargets, withDefaults, entries_orDefault]

/-- The defaults of a backend are those of its request. A blank type of targets is one that is left
out for the request, and it is not filled in. -/
theorem Backend.spec_withDefaults (b : Backend) : b.withDefaults.spec = b.spec := by
  have type : (if b.withDefaults.targetsType.text.isEmpty then instanceTargets
      else b.withDefaults.targetsType.text) =
      if b.targetsType.text.isEmpty then instanceTargets else b.targetsType.text := by
    rcases b with ⟨id, name, targetsType, threshold, close, healthCheck, targets⟩
    cases targetsType <;> rfl
  funext reference
  simp only [spec, type, remoteTargets_withDefaults]
  simp only [withDefaults, getD_orDefault]

theorem Backend.update_withDefaults (b : Backend) : b.withDefaults.update = b.update := by
  funext reference
  simp only [withDefaults, update, getD_orDefault]

/-- A backend refers to the same health check with its defaults. -/
theorem healthCheckId_withDefaults (current : Remote.LoadBalancer) (b : Backend) :
    healthCheckId current b.withDefaults = healthCheckId current b := rfl

/-! ### Load balancers -/

/-- Only the collections of a load balancer may be filled in, and what has a default in their
entries. -/
structure State.Filled (filled given : State) : Prop where
  listeners : filled.listeners.Filled (· = ·) [] given.listeners
  acls : filled.acls.Filled (· = ·) [] given.acls
  healthChecks : filled.healthChecks.Filled (List.Forall₂ HealthCheck.Filled) [] given.healthChecks
  backends : filled.backends.Filled (List.Forall₂ Backend.Filled) [] given.backends
  rest : filled = { given with
    listeners := filled.listeners
    acls := filled.acls
    healthChecks := filled.healthChecks
    backends := filled.backends }

/-- Two states make the same requests for their nested objects, in the same order. Requests of
backends and listeners are compared as functions of the identifier that they refer to, and also with
the reference looked up on a load balancer. -/
structure State.SameRequests (s t : State) : Prop where
  acls : s.acls.entries.map Acl.spec = t.acls.entries.map Acl.spec
  healthChecks : s.healthChecks.entries.map HealthCheck.spec =
    t.healthChecks.entries.map HealthCheck.spec
  backends : s.backends.entries.map Backend.spec = t.backends.entries.map Backend.spec
  updates : s.backends.entries.map Backend.update = t.backends.entries.map Backend.update
  targets : s.backends.entries.map Backend.remoteTargets =
    t.backends.entries.map Backend.remoteTargets
  listeners : s.listeners.entries.map Listener.spec = t.listeners.entries.map Listener.spec
  references : ∀ current, s.backends.entries.map (healthCheckId current) =
    t.backends.entries.map (healthCheckId current)
  resolved : ∀ current, s.listeners.entries.map (listenerSpec current) =
    t.listeners.entries.map (listenerSpec current)

theorem State.withDefaults_withDefaults (s : State) :
    s.withDefaults.withDefaults = s.withDefaults := by
  simp only [withDefaults, orDefault_orDefault,
    orDefault_map_orDefault_map HealthCheck.withDefaults_withDefaults,
    orDefault_map_orDefault_map Backend.withDefaults_withDefaults]

theorem State.filled_withDefaults (s : State) : s.withDefaults.Filled s where
  listeners := filled_orDefault s.listeners _
  acls := filled_orDefault s.acls _
  healthChecks := filled_orDefault_map HealthCheck.filled_withDefaults s.healthChecks
  backends := filled_orDefault_map Backend.filled_withDefaults s.backends
  rest := rfl

/-- A request of every entry is the same if it is for each of them. -/
theorem map_withDefaults {α β : Type} {entries : List α} {f : α → α} {g : α → β}
    (same : ∀ x, g (f x) = g x) : (entries.map f).map g = entries.map g :=
  List.map_map.trans (List.map_congr_left fun x _ => same x)

theorem State.sameRequests_withDefaults (s : State) : s.withDefaults.SameRequests s := by
  obtain ⟨listeners, acls, healthChecks, backends⟩ := entries_withDefaults s
  constructor
  case acls => rw [acls]
  case healthChecks => rw [healthChecks, map_withDefaults HealthCheck.spec_withDefaults]
  case backends => rw [backends, map_withDefaults Backend.spec_withDefaults]
  case updates => rw [backends, map_withDefaults Backend.update_withDefaults]
  case targets => rw [backends, map_withDefaults Backend.remoteTargets_withDefaults]
  case listeners => rw [listeners]
  case references =>
    intro current
    rw [backends, map_withDefaults (healthCheckId_withDefaults current)]
  case resolved =>
    intro current
    rw [listeners]

/-- Defaults are filled in once and for all, only where nothing is given, and the requests are the
same as without them. -/
theorem State.withDefaults_normalizes (s : State) :
    s.withDefaults.withDefaults = s.withDefaults ∧ s.withDefaults.Filled s ∧
      s.withDefaults.SameRequests s :=
  ⟨s.withDefaults_withDefaults, s.filled_withDefaults, s.sameRequests_withDefaults⟩

end LoadBalancer

end CloudProvision
