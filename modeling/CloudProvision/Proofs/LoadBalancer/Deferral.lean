import CloudProvision.Proofs.Deferral
import CloudProvision.Proofs.LoadBalancer.Restatement

/-!
# A plan with undecided attributes asks for no more changes

A plan of a load balancer may be made before all its attributes are decided. Whatever is left open,
be it a field, a field of a target, the targets of a backend or a whole collection, the plan asks
for no change that the decided plan does not ask for. Nested objects keep their identifiers and
names, and listeners without a name the port and the protocol that they are found by.

A target with an undecided field stands for any target that is left over, so fewer targets have to
be found. A backend whose type of targets is undecided is not created again but updated in place, so
its other changes show up where they did not before.

## Main definitions

* `State.Defers`: a plan that leaves attributes of another one undecided.
* `Difference.Within`: a difference that asks for nothing else than another one.

## Main results

* `targetsChanged_of_defers`: deferred targets have not changed if they had not before.
* `Difference.between_deferred`: the difference of a deferred plan is within the one from before.
-/

namespace CloudProvision.LoadBalancer

/-! ### Targets -/

/-- A target with fields left undecided. -/
@[mk_iff]
structure Target.Defers (after before : Target) : Prop where
  nicId : after.nicId.Defers before.nicId
  ipAddress : after.ipAddress.Defers before.ipAddress
  port : after.port.Defers before.port

instance (after before : Target) : Decidable (after.Defers before) :=
  decidable_of_iff' _ (Target.defers_iff after before)

/-- A target that is still decided is as it was. -/
theorem Target.Defers.eq_of_decided {after before : Target} (h : after.Defers before)
    (decided : after.hasUnknown = false) : after = before := by
  simp only [hasUnknown, Bool.or_eq_false_iff] at decided
  obtain ⟨⟨nicId, ipAddress⟩, port⟩ := decided
  cases after
  cases before
  rw [mk.injEq]
  exact ⟨h.nicId.eq_of_decided nicId, h.ipAddress.eq_of_decided ipAddress,
    h.port.eq_of_decided port⟩

/-- The targets that are still decided are some of those that were. -/
theorem sublist_decided {after before : List Target} (h : List.Forall₂ Target.Defers after before) :
    (after.filter (!·.hasUnknown)).Sublist (before.filter (!·.hasUnknown)) := by
  induction h with
  | nil => exact List.Sublist.slnil
  | @cons t u _ _ first _ ih =>
      cases decided : t.hasUnknown with
      | true =>
          rw [List.filter_cons_of_neg (by simp [decided])]
          exact ih.trans ((List.sublist_cons_self _ _).filter _)
      | false =>
          obtain rfl := first.eq_of_decided decided
          rw [List.filter_cons_of_pos (by simp [decided]),
            List.filter_cons_of_pos (by simp [decided])]
          exact ih.cons_cons _

/-- Fewer targets are covered if all are. -/
theorem coveredBy_of_sublist {some all state : List Target} (h : some.Sublist all)
    (covered : coveredBy all state = true) : coveredBy some state = true := by
  rw [coveredBy_iff_subperm] at covered ⊢
  exact (h.map Target.normalized).subperm.trans covered

/-- Targets have changed if both lists are decided, and if those of the plan do not cover as many.
-/
theorem targetsChanged_iff {plan state : Attr (List Target)} : targetsChanged plan state = true ↔
    plan.isUnknown = false ∧ state.isUnknown = false ∧
      (plan.entries.length = state.entries.length →
        coveredBy (plan.entries.filter (!·.hasUnknown)) state.entries = false) := by
  rw [targetsChanged]
  cases plan.isUnknown <;> cases state.isUnknown <;>
    by_cases length : plan.entries.length = state.entries.length <;> simp [length]

/-- Deferred targets that have changed had changed before. -/
theorem targetsChanged_of_defers {after before state : Attr (List Target)}
    (h : after.DefersEntries Target.Defers before) (changed : targetsChanged after state = true) :
    targetsChanged before state = true := by
  rcases h with rfl | related
  · cases changed
  cases related with
  | null => exact changed
  | unknown => exact changed
  | @known after before targets =>
      obtain ⟨-, decided, uncovered⟩ := targetsChanged_iff.1 changed
      refine targetsChanged_iff.2
        ⟨rfl, decided, fun length => Bool.eq_false_iff.2 fun covered => ?_⟩
      have still := coveredBy_of_sublist (sublist_decided targets) covered
      exact Bool.eq_false_iff.1 (uncovered (targets.length_eq.trans length)) still

/-! ### Nested objects -/

/-- A listener with fields left undecided. Without a known name it keeps its port and its
protocol. -/
structure Listener.Defers (after before : Listener) : Prop where
  id : after.id = before.id
  name : after.name = before.name
  port : after.port.Defers before.port
  protocol : after.protocol.Defers before.protocol
  backend : after.backend.Defers before.backend
  certificateId : after.certificateId.Defers before.certificateId
  unnamed : before.name.key? = none → after.port = before.port ∧ after.protocol = before.protocol

/-- An ACL with fields left undecided. -/
structure Acl.Defers (after before : Acl) : Prop where
  id : after.id = before.id
  name : after.name = before.name
  action : after.action.Defers before.action
  cidr : after.cidr.Defers before.cidr
  priority : after.priority.Defers before.priority
  description : after.description.Defers before.description

/-- A health check with fields left undecided. -/
structure HealthCheck.Defers (after before : HealthCheck) : Prop where
  id : after.id = before.id
  name : after.name = before.name
  protocol : after.protocol.Defers before.protocol
  port : after.port.Defers before.port
  path : after.path.Defers before.path
  interval : after.interval.Defers before.interval
  timeout : after.timeout.Defers before.timeout
  healthyThreshold : after.healthyThreshold.Defers before.healthyThreshold
  unhealthyThreshold : after.unhealthyThreshold.Defers before.unhealthyThreshold

/-- A backend with fields, targets or fields of targets left undecided. -/
structure Backend.Defers (after before : Backend) : Prop where
  id : after.id = before.id
  name : after.name = before.name
  targetsType : after.targetsType.Defers before.targetsType
  panicThreshold : after.panicThreshold.Defers before.panicThreshold
  closeConnections : after.closeConnections.Defers before.closeConnections
  healthCheck : after.healthCheck.Defers before.healthCheck
  targets : after.targets.DefersEntries Target.Defers before.targets

/-- Entries with the same name and, without one, the same natural key have the same label. -/
theorem label?_eq_of_name_eq {α : Type} [Identified α] {x y : α}
    (name : Identified.name x = Identified.name y)
    (naturalKey : (Identified.name y).key? = none →
      Identified.naturalKey x = Identified.naturalKey y) :
    IdentityIndex.label? x = IdentityIndex.label? y :=
  label?_eq_of_normalized_eq (congrArg Attr.normalized name) naturalKey

/-- Deferred listeners add no change. -/
theorem deferring_listener : Deferring Listener.Defers where
  id h := congrArg Attr.key? h.id
  label {x y} h := by
    refine label?_eq_of_name_eq h.name fun unnamed => ?_
    obtain ⟨port, protocol⟩ := h.unnamed unnamed
    change x.naturalKey = y.naturalKey
    rw [Listener.naturalKey, Listener.naturalKey, port, protocol]
  changed {p q x} h differs := by
    change q.changedFrom x = true
    change p.changedFrom x = true at differs
    simp only [Listener.changedFrom, Bool.or_eq_true, h.name] at differs ⊢
    exact differs.imp (.imp (.imp (.imp_right h.port.changed) h.protocol.changed) h.backend.changed)
      h.certificateId.changed

/-- Deferred ACLs add no change. -/
theorem deferring_acl : Deferring Acl.Defers where
  id h := congrArg Attr.key? h.id
  label h := label?_eq_of_name_eq h.name fun _ => rfl
  changed {p q x} h differs := by
    change q.changedFrom x = true
    change p.changedFrom x = true at differs
    simp only [Acl.changedFrom, Bool.or_eq_true, h.name] at differs ⊢
    exact differs.imp (.imp (.imp (.imp_right h.action.changed) h.cidr.changed) h.priority.changed)
      h.description.changed

/-- Deferred health checks add no change. -/
theorem deferring_healthCheck : Deferring HealthCheck.Defers where
  id h := congrArg Attr.key? h.id
  label h := label?_eq_of_name_eq h.name fun _ => rfl
  changed {p q x} h differs := by
    change q.changedFrom x = true
    change p.changedFrom x = true at differs
    simp only [HealthCheck.changedFrom, Bool.or_eq_true, h.name] at differs ⊢
    exact differs.imp (.imp (.imp (.imp (.imp (.imp (.imp_right h.protocol.changed) h.port.changed)
      h.path.changed) h.interval.changed) h.timeout.changed) h.healthyThreshold.changed)
      h.unhealthyThreshold.changed

namespace Backend.Defers

variable {after before state : Backend} (h : after.Defers before)

include h

theorem targetsTypeChanged (differs : after.targetsTypeChanged state = true) :
    before.targetsTypeChanged state = true :=
  h.targetsType.changed differs

theorem fieldsChanged (differs : after.fieldsChanged state = true) :
    before.fieldsChanged state = true := by
  simp only [Backend.fieldsChanged, Bool.or_eq_true, h.name] at differs ⊢
  exact differs.imp (.imp (.imp_right h.panicThreshold.changed) h.closeConnections.changed)
    h.healthCheck.changed

end Backend.Defers

/-- Deferred backends add no change. -/
theorem deferring_backend : Deferring Backend.Defers where
  id h := congrArg Attr.key? h.id
  label h := label?_eq_of_name_eq h.name fun _ => rfl
  changed {p q x} h differs := by
    change q.changedFrom x = true
    change p.changedFrom x = true at differs
    simp only [Backend.changedFrom, Bool.or_eq_true] at differs ⊢
    exact differs.imp (.imp h.targetsTypeChanged h.fieldsChanged)
      (targetsChanged_of_defers h.targets)

/-! ### Backends -/

namespace BackendChanges

/-- Changes of backends that are among others. A backend may be updated now that had to be created
again before. -/
structure Within (after before : BackendChanges) : Prop where
  added : Among (Placed.MovedFrom id Backend.Defers) after.added before.added
  removed : after.removed ⊆ before.removed
  recreated : Among (Pairing.PlanMoved id Backend.Defers) after.recreated before.recreated
  fields : Among (Pairing.PlanMoved id Backend.Defers) after.fields
    (before.recreated ++ before.fields)
  targets : Among (Pairing.PlanMoved id Backend.Defers) after.targets
    (before.recreated ++ before.targets)

variable {plan plan' state : List Backend}

/-- The changes of deferred backends are among those from before. -/
theorem within_of_forall₂ (h : List.Forall₂ Backend.Defers plan' plan) :
    (between plan' state).Within (between plan state) := by
  have changes : (Changes.between plan' state).Within Backend.Defers (Changes.between plan state) :=
    Changes.within_of_forall₂ deferring_backend h
  have pairs := Among.of_forall₂ (Changes.forall₂_matched state deferring_backend.toAlike h)
  refine ⟨changes.added, changes.removed, ?recreated, ?fields, ?targets⟩
  case recreated =>
    intro m' hm'
    obtain ⟨matched, again⟩ := mem_recreated.1 hm'
    obtain ⟨m, hm, moved⟩ := pairs m' matched
    rw [moved.state] at again
    exact ⟨m, mem_recreated.2 ⟨hm, moved.plan.entry.targetsTypeChanged again⟩, moved⟩
  case fields =>
    intro m' hm'
    obtain ⟨matched, -, differs⟩ := mem_fields.1 hm'
    obtain ⟨m, hm, moved⟩ := pairs m' matched
    rw [moved.state] at differs
    refine ⟨m, List.mem_append.2 ?_, moved⟩
    cases again : m.plan.entry.targetsTypeChanged m.state.entry with
    | true => exact .inl (mem_recreated.2 ⟨hm, again⟩)
    | false => exact .inr (mem_fields.2 ⟨hm, again, moved.plan.entry.fieldsChanged differs⟩)
  case targets =>
    intro m' hm'
    obtain ⟨matched, -, differs⟩ := mem_targets.1 hm'
    obtain ⟨m, hm, moved⟩ := pairs m' matched
    rw [moved.state] at differs
    refine ⟨m, List.mem_append.2 ?_, moved⟩
    cases again : m.plan.entry.targetsTypeChanged m.state.entry with
    | true => exact .inl (mem_recreated.2 ⟨hm, again⟩)
    | false =>
        exact .inr (mem_targets.2 ⟨hm, again,
          targetsChanged_of_defers moved.plan.entry.targets differs⟩)

/-- No changes of backends are among all. -/
theorem within_nil (before : BackendChanges) : (between [] []).Within before where
  added := .nil _
  removed := List.nil_subset _
  recreated := .nil _
  fields := .nil _
  targets := .nil _

/-- If there was nothing to do before, there is nothing to do now. -/
theorem Within.isEmpty {after before : BackendChanges} (h : after.Within before)
    (empty : before.isEmpty = true) : after.isEmpty = true := by
  simp only [BackendChanges.isEmpty, Bool.and_eq_true, List.isEmpty_iff] at empty ⊢
  obtain ⟨⟨⟨⟨added, removed⟩, recreated⟩, fields⟩, targets⟩ := empty
  have none : before.recreated ++ before.fields = [] ∧ before.recreated ++ before.targets = [] := by
    simp [recreated, fields, targets]
  exact ⟨⟨⟨⟨(added ▸ h.added).eq_nil, List.subset_nil.1 (removed ▸ h.removed)⟩,
    (recreated ▸ h.recreated).eq_nil⟩, (none.1 ▸ h.fields).eq_nil⟩, (none.2 ▸ h.targets).eq_nil⟩

end BackendChanges

/-! ### Load balancers -/

/-- A plan that leaves attributes of another one undecided. -/
structure State.Defers (after before : State) : Prop where
  id : after.id.Defers before.id
  name : after.name.Defers before.name
  description : after.description.Defers before.description
  address : after.address.Defers before.address
  status : after.status.Defers before.status
  listeners : after.listeners.DefersEntries Listener.Defers before.listeners
  acls : after.acls.DefersEntries Acl.Defers before.acls
  healthChecks : after.healthChecks.DefersEntries HealthCheck.Defers before.healthChecks
  backends : after.backends.DefersEntries Backend.Defers before.backends

/-- A plan with all its collections left undecided. -/
def State.withOpenCollections (plan : State) : State :=
  { plan with
    listeners := .unknown, acls := .unknown, healthChecks := .unknown, backends := .unknown }

theorem State.withOpenCollections_defers (plan : State) : plan.withOpenCollections.Defers plan :=
  ⟨.inr rfl, .inr rfl, .inr rfl, .inr rfl, .inr rfl, .inl rfl, .inl rfl, .inl rfl, .inl rfl⟩

/-- What is compared of a deferred collection: nothing, or its entries with those of the state. -/
theorem collections_of_defers {α : Type} {R : α → α → Prop} {plan plan' : Attr (List α)}
    (state : Attr (List α)) (h : plan'.DefersEntries R plan) :
    collections plan' state = ([], []) ∨
      List.Forall₂ R (collections plan' state).1 (collections plan state).1 ∧
        (collections plan' state).2 = (collections plan state).2 := by
  rcases h with rfl | related
  · exact .inl rfl
  · cases related with
    | known entries => exact .inr ⟨entries, rfl⟩
    | null => exact .inr ⟨.nil, rfl⟩
    | unknown => exact .inl rfl

/-- The changes of a deferred collection are among those from before. -/
theorem within_collections {α : Type} [Reconcilable α] {R : α → α → Prop} (deferring : Deferring R)
    {plan plan' : Attr (List α)} (state : Attr (List α)) (h : plan'.DefersEntries R plan) :
    Changes.Within R
      (Changes.between (collections plan' state).1 (collections plan' state).2)
      (Changes.between (collections plan state).1 (collections plan state).2) := by
  rcases collections_of_defers state h with nothing | ⟨entries, same⟩
  · rw [nothing]
    exact Changes.within_nil _
  · rw [same]
    exact Changes.within_of_forall₂ deferring entries

namespace Difference

/-- A difference that asks for nothing else than another one. -/
structure Within (after before : Difference) : Prop where
  topLevel : after.topLevel = true → before.topLevel = true
  healthChecks : after.healthChecks.Within HealthCheck.Defers before.healthChecks
  backends : after.backends.Within before.backends
  acls : after.acls.Within Acl.Defers before.acls
  listeners : after.listeners = true → before.listeners = true

variable {plan plan' : State}

/-- The difference of a deferred plan is within the one from before. -/
theorem within_of_defers (h : plan'.Defers plan) (state : State) :
    (between plan' state).Within (between plan state) where
  topLevel differs := by
    rw [between, Bool.or_eq_true] at differs ⊢
    exact differs.imp h.name.changed h.description.changed
  healthChecks := within_collections deferring_healthCheck state.healthChecks h.healthChecks
  backends := by
    rcases collections_of_defers state.backends h.backends with nothing | ⟨entries, same⟩
    · rw [between, nothing]
      exact BackendChanges.within_nil _
    · rw [between, between, same]
      exact BackendChanges.within_of_forall₂ entries
  acls := within_collections deferring_acl state.acls h.acls
  listeners differs := by
    have within := within_collections deferring_listener state.listeners h.listeners
    rw [between, Bool.not_eq_true'] at differs ⊢
    exact Bool.eq_false_iff.2 fun empty => Bool.eq_false_iff.1 differs (within.isEmpty empty)

/-- If there was nothing to do before, there is nothing to do now. -/
theorem Within.isEmpty {after before : Difference} (h : after.Within before)
    (empty : before.isEmpty = true) : after.isEmpty = true := by
  simp only [Difference.isEmpty, Bool.and_eq_true, Bool.not_eq_true'] at empty ⊢
  obtain ⟨⟨⟨⟨topLevel, listeners⟩, healthChecks⟩, backends⟩, acls⟩ := empty
  have still {now then_ : Bool} (only : now = true → then_ = true) (unchanged : then_ = false) :
      now = false :=
    Bool.eq_false_iff.2 fun differs => Bool.eq_false_iff.1 unchanged (only differs)
  exact ⟨⟨⟨⟨still h.topLevel topLevel, still h.listeners listeners⟩,
    h.healthChecks.isEmpty healthChecks⟩, h.backends.isEmpty backends⟩, h.acls.isEmpty acls⟩

/-- Attributes that are left undecided add no change to a plan. What is new, changed, created again
or left over is so without them, and where the plan asks for nothing it still does. -/
theorem between_deferred (state : State) (h : plan'.Defers plan) :
    (between plan' state).Within (between plan state) ∧
      ((between plan state).isEmpty = true → (between plan' state).isEmpty = true) :=
  ⟨within_of_defers h state, (within_of_defers h state).isEmpty⟩

end Difference

/-- A plan for the restated sample with other targets of another type, another certificate and
another interval. -/
def decidedSample : State :=
  { restatedSample with
    listeners := .known [
      ⟨.null, .known "http", .known 80, .known "http", .known "web", .known "cert-2"⟩,
      ⟨.null, .null, .known 443, .known "https", .known "web", .known "cert-1"⟩]
    healthChecks := .known [⟨.null, .known "alive", .known "http", .known 80, .known "/",
      .known 20, .known 5, .known 2, .known 3⟩]
    backends := .known [⟨.null, .known "web", .known "raw", .null, .known true, .known "alive",
      .known [⟨.null, .known "10.0.0.1", .known 80⟩, ⟨.null, .known "10.0.0.2", .null⟩]⟩] }

/-- The plan while most of this is undecided, the ACLs as well. -/
def deferredSample : State :=
  { decidedSample with
    name := .unknown
    acls := .unknown
    listeners := .known [
      ⟨.null, .known "http", .unknown, .known "http", .unknown, .unknown⟩,
      ⟨.null, .null, .known 443, .known "https", .unknown, .known "cert-1"⟩]
    healthChecks := .known [⟨.null, .known "alive", .known "http", .known 80, .known "/",
      .unknown, .known 5, .known 2, .known 3⟩]
    backends := .known [⟨.null, .known "web", .unknown, .null, .known true, .known "alive",
      .known [⟨.null, .unknown, .known 80⟩, ⟨.null, .known "10.0.0.2", .null⟩]⟩] }

/-- The deferred sample leaves attributes of the other one undecided. -/
theorem deferredSample_defers : deferredSample.Defers decidedSample where
  id := .inr rfl
  name := .inl rfl
  description := .inr rfl
  address := .inr rfl
  status := .inr rfl
  listeners := by
    refine .inr (.known (.cons ?named (.cons ?unnamed .nil)))
    case named =>
      exact ⟨rfl, rfl, .inl rfl, .inr rfl, .inl rfl, .inl rfl, fun unnamed => nomatch unnamed⟩
    case unnamed => exact ⟨rfl, rfl, .inr rfl, .inr rfl, .inl rfl, .inr rfl, fun _ => ⟨rfl, rfl⟩⟩
  acls := .inl rfl
  healthChecks := .inr (.known (.cons ⟨rfl, rfl, .inr rfl, .inr rfl, .inr rfl, .inl rfl, .inr rfl,
    .inr rfl, .inr rfl⟩ .nil))
  backends := .inr (.known (.cons ⟨rfl, rfl, .inl rfl, .inr rfl, .inr rfl, .inr rfl,
    .inr (.known (.cons (by decide) (.cons (by decide) .nil)))⟩ .nil))

/-- While its type of targets is undecided, the backend of the sample is to have other targets in
place of being created again. The health check and the listeners need nothing, and neither does a
restated plan once its collections are undecided. -/
theorem between_deferred_sample :
    deferredSample.Defers decidedSample ∧
    (let before := Difference.between decidedSample restatedSample
     let after := Difference.between deferredSample restatedSample
     (before.backends.recreated.length = 1 ∧ before.backends.targets.length = 0 ∧
       before.healthChecks.changed.length = 1 ∧ before.listeners = true) ∧
     (after.backends.recreated.length = 0 ∧ after.backends.targets.length = 1 ∧
       after.healthChecks.changed.length = 0 ∧ after.listeners = false) ∧
     after.Within before) ∧
    (Difference.between restatedSample.withOpenCollections restatedSample).isEmpty = true :=
  ⟨deferredSample_defers, ⟨by decide, by decide,
    (Difference.between_deferred restatedSample deferredSample_defers).1⟩,
    (Difference.between_deferred restatedSample (State.withOpenCollections_defers _)).2
      (by decide)⟩

end CloudProvision.LoadBalancer
