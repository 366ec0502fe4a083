import CloudProvision.Proofs.LoadBalancer.Restatement
import CloudProvision.Proofs.LoadBalancer.Plan
import CloudProvision.Proofs.Reordering

/-!
# The difference does not depend on the order of lists

A load balancer lists its nested objects and the targets of its backends. In another order they are
the same objects: as long as identifiers, names and the natural keys of unnamed listeners tell the
objects of the state apart, a plan asks for the same changes.

## Main definitions

* `State.Reordered`: a load balancer whose collections and targets are in another order.
* `Difference.SameForState`, `Difference.SameForPlan`: what a difference has in common with the one
  of a reordered state, and of a reordered plan.

## Main results

* `targetsChanged_congr`: targets are compared as multisets on both sides.
* `State.exists_reordered`: collections and targets may be in any order.
* `Difference.between_reordered`: the difference of a reordered state and of a reordered plan.
-/

namespace CloudProvision.LoadBalancer

/-! ### Targets -/

/-- Whether targets differ does not depend on their order. -/
theorem targetsChanged_congr {plan plan' state state' : Attr (List Target)}
    (hplan : plan'.Related List.Perm plan) (hstate : state'.Related List.Perm state) :
    targetsChanged plan' state' = targetsChanged plan state := by
  have undecided {x y : Attr (List Target)} (h : x.Related List.Perm y) :
      x.isUnknown = y.isUnknown := by
    cases h <;> rfl
  have entries {x y : Attr (List Target)} (h : x.Related List.Perm y) :
      x.entries.Perm y.entries := by
    cases h with
    | known perm => exact perm
    | null => exact .refl _
    | unknown => exact .refl _
  have decided := (entries hplan).filter (!·.hasUnknown)
  have covered : coveredBy (plan'.entries.filter (!·.hasUnknown)) state'.entries =
      coveredBy (plan.entries.filter (!·.hasUnknown)) state.entries := by
    rw [Bool.eq_iff_iff, coveredBy_iff_subperm, coveredBy_iff_subperm,
      (decided.map _).subperm_right, ((entries hstate).map _).subperm_left]
  rw [targetsChanged, targetsChanged, undecided hplan, undecided hstate,
    (entries hplan).length_eq, (entries hstate).length_eq, covered]

/-- A backend with its targets in another order. -/
structure Backend.Reordered (after before : Backend) : Prop where
  id : after.id = before.id
  name : after.name = before.name
  targetsType : after.targetsType = before.targetsType
  panicThreshold : after.panicThreshold = before.panicThreshold
  closeConnections : after.closeConnections = before.closeConnections
  healthCheck : after.healthCheck = before.healthCheck
  targets : after.targets.Related List.Perm before.targets

namespace Backend.Reordered

variable {plan plan' state state' : Backend}

theorem targetsTypeChanged (hplan : plan'.Reordered plan) (hstate : state'.Reordered state) :
    plan'.targetsTypeChanged state' = plan.targetsTypeChanged state := by
  rw [Backend.targetsTypeChanged, Backend.targetsTypeChanged, hplan.targetsType,
    hstate.targetsType]

theorem fieldsChanged (hplan : plan'.Reordered plan) (hstate : state'.Reordered state) :
    plan'.fieldsChanged state' = plan.fieldsChanged state := by
  rw [Backend.fieldsChanged, Backend.fieldsChanged, hplan.name, hstate.name, hplan.panicThreshold,
    hstate.panicThreshold, hplan.closeConnections, hstate.closeConnections, hplan.healthCheck,
    hstate.healthCheck]

theorem refl (b : Backend) : b.Reordered b := by
  refine ⟨rfl, rfl, rfl, rfl, rfl, rfl, ?_⟩
  cases b.targets with
  | known targets => exact .known (.refl _)
  | null => exact .null
  | unknown => exact .unknown

/-- The order of targets does not matter when backends are compared. -/
theorem interchangeable : Interchangeable Backend.Reordered where
  id h := congrArg Attr.key? h.id
  label h := label?_eq_of_normalized_eq (congrArg Attr.normalized h.name) fun _ => rfl
  refl := refl
  changed hplan hstate := by
    change Backend.changedFrom _ _ = Backend.changedFrom _ _
    rw [changedFrom, changedFrom, targetsTypeChanged hplan hstate, fieldsChanged hplan hstate,
      targetsChanged_congr hplan.targets hstate.targets]

end Backend.Reordered

/-! ### Backends -/

namespace BackendChanges

variable (former : Nat → Nat)

/-- What the order of the state leaves of changes of backends. -/
structure SameForState (after before : BackendChanges) : Prop where
  added : after.added = before.added
  removed : SameUpToOrder (Placed.MovedFrom former Backend.Reordered) after.removed before.removed
  recreated : List.Forall₂ (Pairing.StateMoved former Backend.Reordered)
    after.recreated before.recreated
  fields : List.Forall₂ (Pairing.StateMoved former Backend.Reordered) after.fields before.fields
  targets : List.Forall₂ (Pairing.StateMoved former Backend.Reordered)
    after.targets before.targets

/-- What the order of the plan leaves of changes of backends. -/
structure SameForPlan (after before : BackendChanges) : Prop where
  added : InOrder Placed.position (Placed.MovedFrom former Backend.Reordered)
    after.added before.added
  removed : after.removed = before.removed
  recreated : InOrder (·.plan.position) (Pairing.PlanMoved former Backend.Reordered)
    after.recreated before.recreated
  fields : InOrder (·.plan.position) (Pairing.PlanMoved former Backend.Reordered)
    after.fields before.fields
  targets : InOrder (·.plan.position) (Pairing.PlanMoved former Backend.Reordered)
    after.targets before.targets

variable {former} {plan plan' state state' : List Backend}

/-- The parts of changed backends are parts of the pairs. -/
theorem between_eq (plan state : List Backend) : between plan state =
    let matched := (Changes.between plan state).matched
    let again (m : Pairing Backend) := m.plan.entry.targetsTypeChanged m.state.entry
    { added := (Changes.between plan state).added
      removed := (Changes.between plan state).removed
      recreated := matched.filter again
      fields := (matched.filter (!again ·)).filter
        fun m => m.plan.entry.fieldsChanged m.state.entry
      targets := (matched.filter (!again ·)).filter
        fun m => targetsChanged m.plan.entry.targets m.state.entry.targets } := by
  rw [between, List.partition_eq_filter_filter]
  rfl

/-- The order of backends and targets in the state does not matter. -/
theorem sameForState
    (h : CloudProvision.Reordered former Backend.Reordered state' state)
    (ids : CloudProvision.DistinctIds state) (labels : CloudProvision.DistinctLabels state) :
    SameForState former (between plan state') (between plan state) := by
  have changes : Changes.SameForState former Backend.Reordered (Changes.between plan state')
      (Changes.between plan state) :=
    Changes.sameForState Backend.Reordered.interchangeable h ids labels
  have again (m' m : Pairing Backend) (moved : m'.StateMoved former Backend.Reordered m) :
      m'.plan.entry.targetsTypeChanged m'.state.entry =
        m.plan.entry.targetsTypeChanged m.state.entry := by
    rw [moved.plan, Backend.Reordered.targetsTypeChanged (.refl _) moved.state.entry]
  have kept := forall₂_filter changes.matched fun m' m moved => congrArg (!·) (again m' m moved)
  rw [between_eq, between_eq]
  refine ⟨changes.added, changes.removed, forall₂_filter changes.matched again,
    forall₂_filter kept fun m' m moved => ?_, forall₂_filter kept fun m' m moved => ?_⟩
  · rw [moved.plan, Backend.Reordered.fieldsChanged (.refl _) moved.state.entry]
  · rw [moved.plan, targetsChanged_congr (Backend.Reordered.refl _).targets
      moved.state.entry.targets]

/-- The order of backends and targets in the plan does not matter. -/
theorem sameForPlan (h : CloudProvision.Reordered former Backend.Reordered plan' plan) :
    SameForPlan former (between plan' state) (between plan state) := by
  have changes : Changes.SameForPlan former Backend.Reordered (Changes.between plan' state)
      (Changes.between plan state) :=
    Changes.sameForPlan Backend.Reordered.interchangeable h
  have again (m' m : Pairing Backend) (moved : m'.PlanMoved former Backend.Reordered m) :
      m'.plan.entry.targetsTypeChanged m'.state.entry =
        m.plan.entry.targetsTypeChanged m.state.entry := by
    rw [moved.state, Backend.Reordered.targetsTypeChanged moved.plan.entry (.refl _)]
  have kept := changes.matched.filter fun m' m moved => congrArg (!·) (again m' m moved)
  rw [between_eq, between_eq]
  refine ⟨changes.added, changes.removed, changes.matched.filter again,
    kept.filter fun m' m moved => ?_, kept.filter fun m' m moved => ?_⟩
  · rw [moved.state, Backend.Reordered.fieldsChanged moved.plan.entry (.refl _)]
  · rw [moved.state, targetsChanged_congr moved.plan.entry.targets
      (Backend.Reordered.refl _).targets]

end BackendChanges

/-! ### Load balancers -/

/-- Where the entries of the collections of a load balancer stood before. -/
structure Places where
  listeners : Nat → Nat
  acls : Nat → Nat
  healthChecks : Nat → Nat
  backends : Nat → Nat

/-- A load balancer with its collections and the targets of its backends in another order. -/
structure State.Reordered (former : Places) (after before : State) : Prop where
  id : after.id = before.id
  name : after.name = before.name
  description : after.description = before.description
  address : after.address = before.address
  status : after.status = before.status
  listeners : after.listeners.Related (CloudProvision.Reordered former.listeners Eq)
    before.listeners
  acls : after.acls.Related (CloudProvision.Reordered former.acls Eq) before.acls
  healthChecks : after.healthChecks.Related (CloudProvision.Reordered former.healthChecks Eq)
    before.healthChecks
  backends : after.backends.Related (CloudProvision.Reordered former.backends Backend.Reordered)
    before.backends

/-- Collections that are the same up to order are reordered. -/
theorem exists_related_reordered {α : Type} {R : α → α → Prop} {after before : Attr (List α)}
    (h : after.Related (SameUpToOrder R) before) :
    ∃ former, after.Related (CloudProvision.Reordered former R) before := by
  cases h with
  | known entries =>
      obtain ⟨former, reordered⟩ := exists_reordered entries
      exact ⟨former, .known reordered⟩
  | null => exact ⟨id, .null⟩
  | unknown => exact ⟨id, .unknown⟩

/-- The collections and the targets of a load balancer may be put in any order. -/
theorem State.exists_reordered {s : State} {listeners : Attr (List Listener)}
    {acls : Attr (List Acl)} {healthChecks : Attr (List HealthCheck)}
    {backends : Attr (List Backend)}
    (hl : listeners.Related (SameUpToOrder Eq) s.listeners)
    (ha : acls.Related (SameUpToOrder Eq) s.acls)
    (hh : healthChecks.Related (SameUpToOrder Eq) s.healthChecks)
    (hb : backends.Related (SameUpToOrder Backend.Reordered) s.backends) :
    ∃ former, State.Reordered former { s with listeners, acls, healthChecks, backends } s := by
  obtain ⟨listeners, hl⟩ := exists_related_reordered hl
  obtain ⟨acls, ha⟩ := exists_related_reordered ha
  obtain ⟨healthChecks, hh⟩ := exists_related_reordered hh
  obtain ⟨backends, hb⟩ := exists_related_reordered hb
  exact ⟨⟨listeners, acls, healthChecks, backends⟩, rfl, rfl, rfl, rfl, rfl, hl, ha, hh, hb⟩

section Collections

variable {α : Type} {former : Nat → Nat} {R : α → α → Prop}
  {plan plan' state state' : Attr (List α)}

/-- The entries of reordered attributes are reordered. -/
theorem reordered_entries (h : state'.Related (CloudProvision.Reordered former R) state) :
    CloudProvision.Reordered former R state'.entries state.entries := by
  cases h with
  | known reordered => exact reordered
  | null => exact ⟨[], .nil, .nil⟩
  | unknown => exact ⟨[], .nil, .nil⟩

/-- What is compared of a reordered state. -/
theorem collections_of_state
    (h : state'.Related (CloudProvision.Reordered former R) state) :
    (collections plan state').1 = (collections plan state).1 ∧
      CloudProvision.Reordered former R (collections plan state').2 (collections plan state).2 := by
  rw [collections, collections]
  cases plan.isUnknown with
  | true => exact ⟨rfl, [], .nil, .nil⟩
  | false => exact ⟨rfl, reordered_entries h⟩

/-- What is compared of a reordered plan. -/
theorem collections_of_plan
    (h : plan'.Related (CloudProvision.Reordered former R) plan) :
    CloudProvision.Reordered former R (collections plan' state).1 (collections plan state).1 ∧
      (collections plan' state).2 = (collections plan state).2 := by
  have undecided : plan'.isUnknown = plan.isUnknown := by
    cases h <;> rfl
  rw [collections, collections, undecided]
  cases plan.isUnknown with
  | true => exact ⟨⟨[], .nil, .nil⟩, rfl⟩
  | false => exact ⟨reordered_entries h, rfl⟩

/-- Identifiers that are given once in a state are given once in what is compared of it. -/
theorem distinctIds_collections [Identified α] (plan : Attr (List α))
    (h : CloudProvision.DistinctIds state.entries) :
    CloudProvision.DistinctIds (collections plan state).2 := by
  rw [collections]
  split
  · exact List.nodup_nil
  · exact h

/-- The same for labels. -/
theorem distinctLabels_collections [Identified α] (plan : Attr (List α))
    (h : CloudProvision.DistinctLabels state.entries) :
    CloudProvision.DistinctLabels (collections plan state).2 := by
  rw [collections]
  split
  · exact List.nodup_nil
  · exact h

/-- The changes of a collection in a reordered state. -/
theorem sameForState_collections [Reconcilable α] (interchangeable : Interchangeable R)
    (plan : Attr (List α)) (h : state'.Related (CloudProvision.Reordered former R) state)
    (ids : CloudProvision.DistinctIds state.entries)
    (labels : CloudProvision.DistinctLabels state.entries) :
    Changes.SameForState former R
      (Changes.between (collections plan state').1 (collections plan state').2)
      (Changes.between (collections plan state).1 (collections plan state).2) := by
  obtain ⟨same, reordered⟩ := collections_of_state h
  rw [same]
  exact Changes.sameForState interchangeable reordered (distinctIds_collections plan ids)
    (distinctLabels_collections plan labels)

/-- The changes of a collection in a reordered plan. -/
theorem sameForPlan_collections [Reconcilable α] (interchangeable : Interchangeable R)
    (state : Attr (List α)) (h : plan'.Related (CloudProvision.Reordered former R) plan) :
    Changes.SameForPlan former R
      (Changes.between (collections plan' state).1 (collections plan' state).2)
      (Changes.between (collections plan state).1 (collections plan state).2) := by
  obtain ⟨reordered, same⟩ := collections_of_plan h
  rw [same]
  exact Changes.sameForPlan interchangeable reordered

end Collections

namespace Difference

/-- What the order of the state leaves of a difference: all but the order of what is left over. -/
structure SameForState (former : Places) (after before : Difference) : Prop where
  topLevel : after.topLevel = before.topLevel
  healthChecks : after.healthChecks.SameForState former.healthChecks Eq before.healthChecks
  backends : after.backends.SameForState former.backends before.backends
  acls : after.acls.SameForState former.acls Eq before.acls
  listeners : after.listeners = before.listeners

/-- What the order of the plan leaves of a difference: new entries and pairs are the same, in the
order of the plan. -/
structure SameForPlan (former : Places) (after before : Difference) : Prop where
  topLevel : after.topLevel = before.topLevel
  healthChecks : after.healthChecks.SameForPlan former.healthChecks Eq before.healthChecks
  backends : after.backends.SameForPlan former.backends before.backends
  acls : after.acls.SameForPlan former.acls Eq before.acls
  listeners : after.listeners = before.listeners

variable {former : Places} {plan plan' state state' : State}

/-- The order of the state does not matter. -/
theorem sameForState (h : state'.Reordered former state) (ids : state.DistinctIds)
    (labels : state.DistinctLabels) :
    (between plan state').SameForState former (between plan state) where
  topLevel := by rw [between, between, h.name, h.description]
  healthChecks := sameForState_collections interchangeable_eq plan.healthChecks h.healthChecks
    ids.healthChecks labels.healthChecks
  backends := by
    obtain ⟨same, reordered⟩ := collections_of_state h.backends
    rw [between, between, same]
    exact BackendChanges.sameForState reordered
      (distinctIds_collections plan.backends ids.backends)
      (distinctLabels_collections plan.backends labels.backends)
  acls := sameForState_collections interchangeable_eq plan.acls h.acls ids.acls labels.acls
  listeners := congrArg (!·) (sameForState_collections interchangeable_eq plan.listeners
    h.listeners ids.listeners labels.listeners).isEmpty_eq

/-- The order of the plan does not matter. -/
theorem sameForPlan (h : plan'.Reordered former plan) :
    (between plan' state).SameForPlan former (between plan state) where
  topLevel := by rw [between, between, h.name, h.description]
  healthChecks := sameForPlan_collections interchangeable_eq state.healthChecks h.healthChecks
  backends := by
    obtain ⟨reordered, same⟩ := collections_of_plan h.backends
    rw [between, between, same]
    exact BackendChanges.sameForPlan reordered
  acls := sameForPlan_collections interchangeable_eq state.acls h.acls
  listeners := congrArg (!·) (sameForPlan_collections interchangeable_eq state.listeners
    h.listeners).isEmpty_eq

/-- In another order, lists of the state leave the difference as it is, except that what is left
over is in another order too, and lists of the plan only bring what they ask for into their own
order. It is enough that the objects of the state are told apart. -/
theorem between_reordered (plan state : State) (ids : state.DistinctIds)
    (labels : state.DistinctLabels) :
    (∀ former state', state'.Reordered former state →
      (between plan state').SameForState former (between plan state)) ∧
    ∀ former plan', plan'.Reordered former plan →
      (between plan' state).SameForPlan former (between plan state) :=
  ⟨fun _ _ h => sameForState h ids labels, fun _ _ h => sameForPlan h⟩

end Difference

/-- Two ACLs, two unnamed listeners and a backend with two targets. -/
def arrangedSample : State where
  id := .known "lb-1"
  name := .known "edge"
  description := .null
  address := .null
  status := .unknown
  listeners := .known [
    ⟨.known "ls-1", .null, .known 80, .known "http", .known "web", .null⟩,
    ⟨.null, .known "", .known 443, .known "https", .known "web", .known "cert-1"⟩]
  acls := .known [
    ⟨.known "acl-1", .known "office", .known "allow", .known "10.0.0.0/8", .known 1, .null⟩,
    ⟨.known "acl-2", .known "rest", .known "deny", .known "0.0.0.0/0", .known 2, .null⟩]
  healthChecks := .null
  backends := .known [⟨.known "be-1", .known "web", .known "instance", .null, .known true, .null,
    .known [⟨.known "nic-1", .null, .known 80⟩, ⟨.known "nic-3", .null, .null⟩]⟩]

/-- The same, each list in the other order. -/
def rearrangedSample : State :=
  { arrangedSample with
    listeners := arrangedSample.listeners.map List.reverse
    acls := arrangedSample.acls.map List.reverse
    backends := arrangedSample.backends.map fun bs =>
      bs.map fun b => { b with targets := b.targets.map List.reverse } }

/-- Where the entries of the sample stood. -/
def samplePlaces : Places := ⟨(1 - ·), (1 - ·), id, id⟩

/-- The samples differ in the order of their lists. -/
theorem rearrangedSample_reordered : rearrangedSample.Reordered samplePlaces arrangedSample where
  id := rfl
  name := rfl
  description := rfl
  address := rfl
  status := rfl
  listeners := .known ⟨_, .swap _ _ _, .cons ⟨rfl, rfl⟩ (.cons ⟨rfl, rfl⟩ .nil)⟩
  acls := .known ⟨_, .swap _ _ _, .cons ⟨rfl, rfl⟩ (.cons ⟨rfl, rfl⟩ .nil)⟩
  healthChecks := .null
  backends := .known ⟨_, .refl _,
    .cons ⟨rfl, rfl, rfl, rfl, rfl, rfl, rfl, .known (.swap _ _ _)⟩ .nil⟩

/-- As a state the sample may be rearranged, with the same difference to another plan. -/
theorem between_reordered_sample :
    rearrangedSample.Reordered samplePlaces arrangedSample ∧
    (Difference.between restatedSample rearrangedSample).SameForState samplePlaces
      (Difference.between restatedSample arrangedSample) :=
  have reordered := rearrangedSample_reordered
  ⟨reordered, (Difference.between_reordered restatedSample arrangedSample
    ⟨by decide, by decide, by decide, by decide⟩
    ⟨by decide, by decide, by decide, by decide⟩).1 _ _ reordered⟩

end CloudProvision.LoadBalancer
