import CloudProvision.LoadBalancer.State

/-!
# Between states and remote load balancers

`State.ofRemote` is the state that describes a remote load balancer: identifiers that nested
objects refer to become names. The other way, `spec` and `update` build the requests of nested
objects, given the identifiers that their references stand for.
-/

namespace CloudProvision.LoadBalancer

/-! ### Defaults -/

/-- The type of targets that are network cards. -/
def instanceTargets : String := "instance"

/-- The type of targets that are addresses. -/
def rawTargets : String := "raw"

/-- Seconds between two probes. -/
def defaultInterval : Int := 10

/-- Seconds until a probe is given up. -/
def defaultTimeout : Int := 5

/-- Successful probes until a target counts as healthy. -/
def defaultHealthyThreshold : Int := 3

/-- Failed probes until a target counts as unhealthy. -/
def defaultUnhealthyThreshold : Int := 3

/-! ### From remote objects -/

/-- The state of a remote target. -/
def Target.ofRemote (t : Remote.Target) : Target where
  nicId := .ofOption t.nicId
  ipAddress := .ofOption t.ipAddress
  port := .known t.port

/-- The state of a remote ACL. -/
def Acl.ofRemote (a : Remote.Acl) : Acl where
  id := .known a.id
  name := .known a.name
  action := .known a.action
  cidr := .known a.cidr
  priority := .known a.priority
  description := .ofOption a.description

/-- The state of a remote health check. -/
def HealthCheck.ofRemote (h : Remote.HealthCheck) : HealthCheck where
  id := .known h.id
  name := .known h.name
  protocol := .known h.protocol
  port := .known h.port
  path := .ofOption h.path
  interval := .known h.interval
  timeout := .known h.timeout
  healthyThreshold := .known h.healthyThreshold
  unhealthyThreshold := .known h.unhealthyThreshold

/-- The name of the health check with an identifier. A reference to nothing has no name. -/
def healthCheckName (lb : Remote.LoadBalancer) (id : Option String) : Attr String :=
  .ofOption do
    let id ← id
    let healthCheck ← lb.healthChecks.find? (·.id == id)
    return healthCheck.name

/-- The name of the backend with an identifier. A reference to nothing has no name. -/
def backendName (lb : Remote.LoadBalancer) (id : String) : Attr String :=
  .ofOption ((lb.backends.find? (·.id == id)).map (·.name))

/-- The state of a backend of a remote load balancer. -/
def Backend.ofRemote (lb : Remote.LoadBalancer) (b : Remote.Backend) : Backend where
  id := .known b.id
  name := .known b.name
  targetsType := .known b.targetsType
  panicThreshold := .ofOption b.panicThreshold
  closeConnections := .known b.closeConnections
  healthCheck := healthCheckName lb b.healthCheckId
  targets := .known (b.targets.map Target.ofRemote)

/-- The state of a listener of a remote load balancer. -/
def Listener.ofRemote (lb : Remote.LoadBalancer) (l : Remote.Listener) : Listener where
  id := .known l.id
  name := .ofOption l.name
  port := .known l.port
  protocol := .known l.protocol
  backend := backendName lb l.backendId
  certificateId := .ofOption l.certificateId

/-- The state of a remote load balancer. -/
def State.ofRemote (lb : Remote.LoadBalancer) : State where
  id := .known lb.id
  name := .known lb.name
  description := .ofOption lb.description
  address := .ofOption lb.address
  status := .known lb.status
  listeners := .known (lb.listeners.map (Listener.ofRemote lb))
  acls := .known (lb.acls.map Acl.ofRemote)
  healthChecks := .known (lb.healthChecks.map HealthCheck.ofRemote)
  backends := .known (lb.backends.map (Backend.ofRemote lb))

/-! ### To requests -/

/-- The remote target of a planned one. -/
def Target.toRemote (t : Target) : Remote.Target where
  nicId := t.nicId.nonempty?
  ipAddress := t.ipAddress.nonempty?
  port := t.port.getD 0

/-- The fields of an ACL. -/
def Acl.spec (a : Acl) : Remote.AclSpec where
  name := a.name.text
  action := a.action.text
  cidr := a.cidr.text
  priority := a.priority.getD 0
  description := a.description.nonempty?

/-- The fields of a health check. -/
def HealthCheck.spec (h : HealthCheck) : Remote.HealthCheckSpec where
  name := h.name.text
  protocol := h.protocol.text
  port := h.port.getD 0
  path := h.path.nonempty?
  interval := h.interval.getD defaultInterval
  timeout := h.timeout.getD defaultTimeout
  healthyThreshold := h.healthyThreshold.getD defaultHealthyThreshold
  unhealthyThreshold := h.unhealthyThreshold.getD defaultUnhealthyThreshold

/-- The targets of a backend as the API takes them. -/
def Backend.remoteTargets (b : Backend) : List Remote.Target :=
  b.targets.entries.map Target.toRemote

/-- The fields of a new backend that uses the health check with the given identifier. -/
def Backend.spec (b : Backend) (healthCheckId : Option String) : Remote.BackendSpec where
  name := b.name.text
  targetsType := if b.targetsType.text.isEmpty then instanceTargets else b.targetsType.text
  panicThreshold := b.panicThreshold.toOption
  closeConnections := b.closeConnections.getD false
  healthCheckId := healthCheckId
  targets := b.remoteTargets

/-- The fields of a backend that can be updated. -/
def Backend.update (b : Backend) (healthCheckId : Option String) : Remote.BackendUpdate where
  name := b.name.text
  panicThreshold := b.panicThreshold.toOption
  closeConnections := b.closeConnections.getD false
  healthCheckId := healthCheckId

/-- The fields of a listener that sends to the backend with the given identifier. -/
def Listener.spec (l : Listener) (backendId : String) : Remote.ListenerSpec where
  name := l.name.nonempty?
  port := l.port.getD 0
  protocol := l.protocol.text
  backendId := backendId
  certificateId := l.certificateId.nonempty?

/-! ### Attributes that are left out -/

/-- A value in place of `null`. -/
def orDefault {α : Type} (x : Attr α) (default : α) : Attr α :=
  x.orElse (.known default)

/-- The health check with defaults for what is left out. -/
def HealthCheck.withDefaults (h : HealthCheck) : HealthCheck :=
  { h with
    interval := orDefault h.interval defaultInterval
    timeout := orDefault h.timeout defaultTimeout
    healthyThreshold := orDefault h.healthyThreshold defaultHealthyThreshold
    unhealthyThreshold := orDefault h.unhealthyThreshold defaultUnhealthyThreshold }

/-- The backend with defaults for what is left out. -/
def Backend.withDefaults (b : Backend) : Backend :=
  { b with
    targetsType := orDefault b.targetsType instanceTargets
    closeConnections := orDefault b.closeConnections false
    targets := orDefault b.targets [] }

/-- The load balancer with defaults for what is left out. -/
def State.withDefaults (s : State) : State :=
  { s with
    listeners := orDefault s.listeners []
    acls := orDefault s.acls []
    healthChecks := orDefault (s.healthChecks.map (·.map HealthCheck.withDefaults)) []
    backends := orDefault (s.backends.map (·.map Backend.withDefaults)) [] }

end CloudProvision.LoadBalancer
