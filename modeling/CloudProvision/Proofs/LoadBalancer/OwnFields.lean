import CloudProvision.Proofs.Attr
import CloudProvision.Proofs.LoadBalancer.Addressing

/-!
# The name and the description of a load balancer

An update of a load balancer's own fields leaves a field untouched that the request leaves out. A
rollout leaves out the fields that have no text in the plan. That is right for a field that is
undecided. But a text that the plan takes away stays, so that the plan still differs after it.

## Main definitions

* `Remote.LoadBalancerUpdate.applyTo`: what an update makes of the own fields.
* `Attr.Clears`: the plan takes a text away.

## Main results

* `Attr.requested_nonempty?`: what becomes of a text whose planned value is sent unless it is blank.
* `update_of_rollout`: what the updates in a rollout make of the own fields.
-/

namespace CloudProvision

/-- The own fields after an update. A field that the request leaves out is left untouched. -/
def Remote.LoadBalancerUpdate.applyTo (request : LoadBalancerUpdate) (s : LoadBalancer.State) :
    LoadBalancer.State :=
  { s with
    name := request.name.elim s.name .known
    description := request.description.elim s.description .known }

namespace Attr

/-- The plan takes a text away: it has decided that there is none, and the state has one. -/
def Clears (plan state : Attr String) : Prop :=
  plan.isUnknown = false ∧ plan.isPresent = false ∧ state.isPresent = true

/-- What an update leaves of a text: the plan differs from it exactly if the plan takes the text
away, and it is what it was if the plan is undecided or has no text. -/
def Requested (plan state after : Attr String) : Prop :=
  (plan.changed after = true ↔ plan.Clears state) ∧ (plan.isPresent = false → after = state)

/-- A plan that has decided that there is no text differs from a state with one. -/
theorem requested_of_normalized_eq_null {plan state : Attr String}
    (decided : plan.isUnknown = false) (blank : plan.normalized = null) :
    plan.Requested state state := by
  have absent : plan.isPresent = false := by
    rw [isPresent, blank]
    rfl
  have differs : plan.changed state = state.isPresent := by
    rw [changed, blank, isPresent]
    rcases state.normalized with _ | _ | _ <;> rfl
  rw [Requested, Clears, differs]
  exact ⟨⟨fun there => ⟨decided, absent, there⟩, fun clears => clears.2.2⟩, fun _ => rfl⟩

/-- A text of the plan is sent unless it is blank, and then the field is left untouched. -/
theorem requested_nonempty? (plan state : Attr String) :
    plan.Requested state (plan.nonempty?.elim state known) := by
  cases plan with
  | known t =>
      by_cases blank : t.isEmpty
      · obtain rfl := String.isEmpty_iff.1 blank
        exact requested_of_normalized_eq_null rfl rfl
      · have present : (known t).isPresent = true := by
          rw [isPresent_eq, key?_of_not_isEmpty (Bool.eq_false_iff.2 blank)]
          rfl
        rw [nonempty?, if_neg blank]
        refine ⟨iff_of_false ?_ fun clears => ?_, fun absent => ?_⟩
        · exact Bool.eq_false_iff.1 (changed_self _)
        · cases present.symm.trans clears.2.1
        · cases present.symm.trans absent
  | null => exact requested_of_normalized_eq_null rfl rfl
  | unknown =>
      refine ⟨iff_of_false Bool.false_ne_true fun clears => ?_, fun _ => rfl⟩
      cases clears.1

end Attr

namespace LoadBalancer

open Operation

variable {σ : Type} {env : Environment σ} {id : String} {current : Remote.LoadBalancer}
  {session session' : Session σ} {plan state : State}

/-- The updates in a rollout, which are made only if the name or the description differs, change
them into those of the plan, but for a text that the plan takes away. Such a text stays, as it does
where the plan is undecided. -/
theorem update_of_rollout {result : Except RolloutError Remote.LoadBalancer} {events : List Event}
    (run : rollout id plan state current env session = (result, session'))
    (traced : session'.trace = events ++ session.trace) :
    ∀ e ∈ events, ∀ target request, e.call = .changeLoadBalancer target (.update request) →
      (plan.name.changed state.name || plan.description.changed state.description) = true ∧
      plan.name.Requested state.name (request.applyTo state).name ∧
      plan.description.Requested state.description (request.applyTo state).description := by
  intro e he target request called
  obtain ⟨later, traced', issued⟩ := exists_issues run
  obtain rfl := List.append_cancel_right (traced'.symm.trans traced)
  obtain ⟨newer, older, split⟩ := List.append_of_mem he
  obtain ⟨step, here, change, ⟨done, rest, steps, -⟩, resolved, call, -⟩ :=
    issued newer e older split (by rw [called]; rfl)
  obtain ⟨-, rfl⟩ := Remote.Call.changeLoadBalancer.inj (call.symm.trans called)
  have mem : step ∈ (Difference.between plan state).steps plan :=
    steps ▸ List.mem_append_right _ List.mem_cons_self
  -- No other step makes an update, and the steps of a difference have one for the plan alone.
  cases resolved_of_resolve resolved with
  | update =>
      obtain ⟨differs, rfl⟩ : _ ∧ _ = plan := by
        simpa [Difference.mem_steps, mem_aclSteps] using mem
      exact ⟨differs, Attr.requested_nonempty? _ _, Attr.requested_nonempty? _ _⟩

/-- The sample load balancer with a description. -/
def describedRemote : Remote.LoadBalancer :=
  { sampleRemote with description := some "old" }

/-- Its rollout to a plan, on a cloud in memory that has it. -/
def describedRun (plan : State) :
    Except RolloutError Remote.LoadBalancer × Session MemoryCloud :=
  rollout "lb-1" plan (.ofRemote describedRemote) describedRemote sampleEnvironment
    ⟨0, MemoryCloud.withEntry "lb-1" (⟨describedRemote, []⟩ : Entry Remote.LoadBalancer) .empty, []⟩

/-- The plan of another name, whose description is undecided. -/
def renamingPlan : State :=
  { State.ofRemote describedRemote with name := .known "front", description := .unknown }

/-- The new name is set, and the description that is undecided is left untouched. -/
theorem update_of_rollout_sample :
    (∃ e ∈ (describedRun renamingPlan).2.trace,
      e.call = .changeLoadBalancer "lb-1" (.update ⟨some "front", none⟩)) ∧
    ∀ e ∈ (describedRun renamingPlan).2.trace, ∀ target request,
      e.call = .changeLoadBalancer target (.update request) →
      (renamingPlan.name.changed (.known "edge")
        || renamingPlan.description.changed (.known "old")) = true ∧
      renamingPlan.name.Requested (.known "edge")
        (request.applyTo (.ofRemote describedRemote)).name ∧
      renamingPlan.description.Requested (.known "old")
        (request.applyTo (.ofRemote describedRemote)).description := by
  have run : describedRun renamingPlan =
      ((describedRun renamingPlan).1, (describedRun renamingPlan).2) := rfl
  exact ⟨by decide +kernel, update_of_rollout run (List.append_nil _).symm⟩

/-- The plan to do without the description. -/
def undescribedPlan : State :=
  { State.ofRemote describedRemote with description := .null }

/-- The update for a plan without a description leaves it out, so that the old one stays. -/
theorem update_keeps_description :
    let request : Remote.LoadBalancerUpdate := ⟨some "edge", none⟩
    (∃ e ∈ (describedRun undescribedPlan).2.trace,
      e.call = .changeLoadBalancer "lb-1" (.update request)) ∧
    (request.applyTo (.ofRemote describedRemote)).description = .known "old" ∧
    undescribedPlan.description.changed
      (request.applyTo (.ofRemote describedRemote)).description = true :=
  ⟨by decide +kernel, rfl, rfl⟩

end LoadBalancer

end CloudProvision
