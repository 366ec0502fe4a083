import CloudProvision.Diagnostics
import CloudProvision.LoadBalancer.Difference
import CloudProvision.LoadBalancer.Mapping

/-!
# Well-formed load balancers

What is wrong with a load balancer as a user describes it: entries of a collection that cannot be
told apart, backends with impossible fields, and references to entries that are not defined.
Whatever is undecided is left for later.
-/

namespace CloudProvision.LoadBalancer

/-! ### Entries that cannot be told apart -/

/-- What tells an entry from the others of its collection, as far as it is decided: its name, or its
natural key if it has no name. -/
inductive Distinction where
  | name (name : String)
  | naturalKey (key : String)
  deriving DecidableEq

/-- What tells an entry from the others of its collection. -/
def distinction? {α : Type} [Identified α] (entry : α) : Option Distinction :=
  match (Identified.name entry).normalized with
  | .known name => some (.name name)
  | .unknown => none
  | .null => (Identified.naturalKey entry).map .naturalKey

/-- The error of an entry that an earlier one cannot be told from. -/
def Distinction.duplicate (collection : String) (position : Nat) : Distinction → Diagnostic
  | name text =>
    ⟨"Duplicate name", s!"`{text}` is used by several {collection}",
      ((AttributePath.of collection).index position).attr "name"⟩
  | naturalKey key =>
    ⟨"Duplicate entry", s!"several unnamed {collection} are defined for `{key}`",
      (AttributePath.of collection).index position⟩

/-- The errors of the entries from `position` on, given what was seen before. -/
def duplicatesFrom {α : Type} [Identified α] (collection : String) :
    (position : Nat) → (seen : List Distinction) → List α → List Diagnostic
  | _, _, [] => []
  | position, seen, entry :: rest =>
    match distinction? entry with
    | none => duplicatesFrom collection (position + 1) seen rest
    | some d =>
      let errors := if d ∈ seen then [d.duplicate collection position] else []
      errors ++ duplicatesFrom collection (position + 1) (d :: seen) rest

/-- The errors of the entries that an earlier one cannot be told from. -/
def duplicates {α : Type} [Identified α] (collection : String) (entries : List α) :
    List Diagnostic :=
  duplicatesFrom collection 0 [] entries

/-! ### Backends -/

/-- The types of targets. -/
inductive TargetsType where
  | networkCard
  | address
  deriving DecidableEq

namespace TargetsType

/-- The name of a type. -/
def name : TargetsType → String
  | networkCard => instanceTargets
  | address => rawTargets

/-- The field that targets of a type need, with its name. -/
def required (kind : TargetsType) (t : Target) : String × Attr String :=
  match kind with
  | networkCard => ("nic_id", t.nicId)
  | address => ("ip_address", t.ipAddress)

/-- The field that targets of a type cannot have, with its name. -/
def forbidden (kind : TargetsType) (t : Target) : String × Attr String :=
  match kind with
  | networkCard => ("ip_address", t.ipAddress)
  | address => ("nic_id", t.nicId)

/-- The type with a name, if there is one. Without a name targets are network cards. -/
def ofName? (name : String) : Option TargetsType :=
  if name.isEmpty || name == instanceTargets then some networkCard
  else if name == rawTargets then some address
  else none

end TargetsType

/-- The errors of a target. -/
def Target.errors (kind : TargetsType) (path : AttributePath) (t : Target) : List Diagnostic :=
  let (needed, value) := kind.required t
  let (unwanted, other) := kind.forbidden t
  (if value.isNull then
    [⟨"Invalid target", s!"{kind.name} targets need a {needed}", path.attr needed⟩] else [])
  ++ (if other.isKnown then
    [⟨"Invalid target", s!"{kind.name} targets cannot have a {unwanted}", path.attr unwanted⟩]
    else [])

/-- Zero and one, the least and the greatest panic threshold. -/
def panicThresholds : Binary64 × Binary64 :=
  (.zero false, ⟨false, Nat.pow 2 52, 1022, by decide, by decide, .inr (by decide)⟩)

/-- The errors of a panic threshold. -/
def panicThresholdErrors (path : AttributePath) : Attr Binary64 → List Diagnostic
  | .known x =>
    if panicThresholds.1 ≤ x ∧ x ≤ panicThresholds.2 then []
    else
      let got := x.text .plain
      [⟨"Invalid panic threshold", s!"panic_threshold must be between 0 and 1, got {got}",
        path.attr "panic_threshold"⟩]
  | _ => []

/-- The errors of the targets of a backend, and of their type. Targets of an undecided type are not
looked at. -/
def targetsErrors (path : AttributePath) (b : Backend) : List Diagnostic :=
  if b.targetsType.isUnknown then []
  else
    match TargetsType.ofName? b.targetsType.text with
    | none =>
      let got := b.targetsType.text
      [⟨"Invalid targets type",
        s!"targets_type must be `{instanceTargets}` or `{rawTargets}`, got `{got}`",
        path.attr "targets_type"⟩]
    | some kind =>
      (Placed.ofList b.targets.entries).flatMap fun t =>
        t.entry.errors kind ((path.attr "targets").index t.position)

/-! ### References -/

/-- The names that a collection defines, none while the collection is undecided. -/
def definedNames? {α : Type} [Identified α] (collection : Attr (List α)) : Option (List String) :=
  if collection.isUnknown then none
  else some (collection.entries.filterMap fun entry => (Identified.name entry).toOption)

/-- The errors of a backend's reference to a health check. -/
def healthCheckErrors (path : AttributePath) (defined : Option (List String)) (b : Backend) :
    List Diagnostic :=
  match defined, b.healthCheck with
  | some names, .known name =>
    if name.isEmpty || names.contains name then []
    else [⟨"Unknown health check", s!"health check `{name}` is not defined",
      path.attr "health_check"⟩]
  | _, _ => []

/-- The errors of a listener's reference to a backend. -/
def listenerErrors (path : AttributePath) (defined : Option (List String)) (l : Listener) :
    List Diagnostic :=
  match defined, l.backend with
  | _, .null => [.short "Missing listener backend" (path.attr "backend")]
  | some names, .known name =>
    if names.contains name then []
    else [⟨"Unknown backend", s!"backend `{name}` is not defined", path.attr "backend"⟩]
  | _, _ => []

/-! ### Load balancers -/

/-- The errors of a load balancer. -/
def State.validate (s : State) : List Diagnostic :=
  let missing := if s.name.isNull then [.short "Missing load balancer name" (.of "name")] else []
  let healthChecks := definedNames? s.healthChecks
  let backends := definedNames? s.backends
  missing
    ++ duplicates "health_checks" s.healthChecks.entries
    ++ duplicates "backends" s.backends.entries
    ++ duplicates "acls" s.acls.entries
    ++ duplicates "listeners" s.listeners.entries
    ++ (Placed.ofList s.backends.entries).flatMap (fun b =>
      let path := (AttributePath.of "backends").index b.position
      panicThresholdErrors path b.entry.panicThreshold ++ targetsErrors path b.entry
        ++ healthCheckErrors path healthChecks b.entry)
    ++ (Placed.ofList s.listeners.entries).flatMap fun l =>
      listenerErrors ((AttributePath.of "listeners").index l.position) backends l.entry

end CloudProvision.LoadBalancer
