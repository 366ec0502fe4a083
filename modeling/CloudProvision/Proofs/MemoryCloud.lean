import CloudProvision.LoadBalancer.Rollout
import CloudProvision.Proofs.MemoryCloud.Change
import CloudProvision.Proofs.MemoryCloud.Objects

/-!
# A load balancer in a cloud in memory

`Holds` says what the load balancer with an identifier is, apart from its status, which changes as
it is read. Fetches keep it, and a change that is accepted turns it into what `Change.apply` says,
whatever faults delay or fail the calls.

## Main results

* `MemoryCloud.serve_getLoadBalancer`, `MemoryCloud.serve_changeLoadBalancer`,
  `MemoryCloud.serve_createLoadBalancer`: the calls.
* `Faulty.converge_holds`: a wait for the load balancer returns it.
* `Faulty.change_holds`: what a change leaves, accepted or not.
-/

namespace CloudProvision

open Remote

namespace MemoryCloud

/-- The load balancer that a request creates, once it runs. -/
def bareLoadBalancer (id : String) (request : LoadBalancerCreate) : LoadBalancer where
  id := id
  name := request.name
  description := request.description
  address := some "203.0.113.10"
  status := "running"
  errorMessage := none
  listeners := []
  acls := []
  healthChecks := []
  backends := []

/-- The load balancer while it runs. -/
def running (lb : LoadBalancer) : LoadBalancer :=
  { lb with status := "running" }

/-- If the cloud has a load balancer with the identifier then it is `lb` while it runs, and `issued`
identifiers have been issued. -/
structure Holds (cloud : MemoryCloud) (id : String) (lb : LoadBalancer) (issued : Nat) : Prop where
  issued : cloud.issued = issued
  object : ∀ entry, cloud.loadBalancers.get? id = some entry → running entry.object = lb

variable {cloud next : MemoryCloud} {id : String} {lb : LoadBalancer} {issued : Nat}

/-- A fetch returns the load balancer, which then goes on. -/
theorem serve_getLoadBalancer : serve (.getLoadBalancer id) cloud =
    match cloud.loadBalancers.get? id with
    | none => .error (.notFound ("load balancer " ++ id))
    | some entry => .ok (entry.object, match entry.afterRead with
      | some next => withEntry id next cloud
      | none => without LoadBalancer id cloud) := by
  refine (read_run (α := LoadBalancer)).trans ?_
  rw [Stored.table]
  rcases cloud.loadBalancers.get? id with - | ⟨object, - | ⟨_ | _, rest⟩⟩ <;> rfl

/-- A change is made of a load balancer that runs, which then goes through an update. -/
theorem serve_changeLoadBalancer {change : Change} :
    serve (.changeLoadBalancer id change) cloud =
      match cloud.loadBalancers.get? id with
      | none => .error (.notFound ("load balancer " ++ id))
      | some entry =>
        if entry.object.status = "running" then
          match change.apply entry.object cloud.issued with
          | .error e => .error e
          | .ok (changed, issued) =>
            .ok ((), withEntry id (.changing changed "updating" (.status "running"))
              { cloud with issued })
        else .error (.rejected 409 ("load balancer " ++ id ++ " is " ++ entry.object.status)) := by
  simp only [serve, changeLoadBalancer, find, bind, StateT.bind, Except.bind, entry_run]
  rcases cloud.loadBalancers.get? id with - | entry
  · rfl
  · have found : (pure entry.object : Served LoadBalancer) cloud = .ok (entry.object, cloud) := rfl
    simp only [found]
    by_cases h : entry.object.status = "running"
    · rw [if_neg (not_not.2 h), if_pos h]
      simp only [StateT.run, get, getThe, MonadStateOf.get, StateT.get, pure, Except.pure,
        StateT.bind, bind, Except.bind, liftM, monadLift, MonadLift.monadLift, StateT.lift,
        modify, modifyGet, MonadStateOf.modifyGet, StateT.modifyGet, put]
      cases change.apply entry.object cloud.issued <;> rfl
    · rw [if_pos h, if_neg h]
      rfl

/-- A load balancer is created bare. -/
theorem serve_createLoadBalancer (usual : cloud.nextCreation = none)
    (request : LoadBalancerCreate) :
    let id := numberedId "lb" (cloud.issued + 1)
    serve (.createLoadBalancer request) cloud =
      .ok (id, withEntry id (.changing (bareLoadBalancer id request) "creating" (.status "running"))
        { cloud with issued := cloud.issued + 1 }) := by
  obtain ⟨volumes, snapshots, instances, registries, loadBalancers, issued, next⟩ := cloud
  obtain rfl : next = none := usual
  rfl

/-! ### The load balancer of a cloud -/

/-- A load balancer that goes on is the same up to its status. -/
theorem running_of_afterRead {before after : Entry LoadBalancer}
    (h : before.afterRead = some after) :
    running after.object = running before.object := by
  obtain ⟨object, pending⟩ := before
  rcases pending with - | ⟨_ | _, rest⟩
  · rw [← Option.some.inj h]
  · rw [← Option.some.inj h]
    rfl
  · cases h

/-- A fetch returns the load balancer that the cloud holds, which it still holds after that. -/
theorem Holds.get (h : Holds cloud id lb issued) {x : LoadBalancer}
    (served : serve (.getLoadBalancer id) cloud = .ok (x, next)) :
    running x = lb ∧ Holds next id lb issued := by
  rw [serve_getLoadBalancer] at served
  rcases found : cloud.loadBalancers.get? id with - | before
  · rw [found] at served
    cases served
  · rw [found] at served
    obtain ⟨rfl, rfl⟩ := Prod.mk.inj (Except.ok.inj served)
    refine ⟨h.object before found, ?_, fun entry found' => ?_⟩
    · rcases before.afterRead with - | after <;> exact h.issued
    · rcases read : before.afterRead with - | after
      · rw [read] at found'
        cases (StringMap.get?_erase_self _ _).symm.trans found'
      · rw [read] at found'
        obtain rfl := Option.some.inj ((StringMap.get?_insert_self _ _ _).symm.trans found')
        rw [running_of_afterRead read]
        exact h.object before found

/-- A change that is accepted turns the load balancer that the cloud holds into what the change
makes of it. -/
theorem Holds.change (h : Holds cloud id lb issued) {change : Change} {done : Unit}
    (served : serve (.changeLoadBalancer id change) cloud = .ok (done, next)) :
    ∃ lb' issued', change.apply lb issued = .ok (lb', issued') ∧ Holds next id lb' issued' := by
  rw [serve_changeLoadBalancer] at served
  rcases found : cloud.loadBalancers.get? id with - | before
  · rw [found] at served
    cases served
  · simp only [found] at served
    by_cases status : before.object.status = "running"
    · have same : before.object = lb := by
        rw [← h.object before found, running, ← status]
      rw [if_pos status, same, h.issued] at served
      rcases applied : change.apply lb issued with e | ⟨lb', issued'⟩
      · rw [applied] at served
        cases served
      · rw [applied] at served
        obtain ⟨-, rfl⟩ := Prod.mk.inj (Except.ok.inj served)
        refine ⟨lb', issued', rfl, rfl, fun entry found' => ?_⟩
        obtain rfl := Option.some.inj ((StringMap.get?_insert_self _ _ _).symm.trans found')
        have running' : lb'.status = "running" :=
          (applied_of_apply applied).status_eq.2.trans (same ▸ status)
        rw [running, ← running']
        rfl
    · rw [if_neg status] at served
      cases served

end MemoryCloud

namespace Faulty

open Operation LoadBalancer

variable {env : Environment (Faulty MemoryCloud)} {id : String} {lb : Remote.LoadBalancer}
  {issued : Nat} {session session' : Session (Faulty MemoryCloud)}

/-- A wait for a load balancer that the cloud holds keeps it, and returns it if it succeeds. -/
theorem converge_holds (memory : env.api = api MemoryCloud.api)
    (h : session.cloud.cloud.Holds id lb issued) {result : Except WaitError Remote.LoadBalancer}
    (run : converge id env session = (result, session')) :
    session'.cloud.cloud.Holds id lb issued ∧ ∀ x, result = .ok x → x = lb := by
  have reply (now : Nat) (s : Faulty MemoryCloud) (hs : s.cloud.Holds id lb issued) :
      (env.api (.getLoadBalancer id) now s).completed.cloud.Holds id lb issued ∧
        (env.api (.getLoadBalancer id) now s).abandoned.cloud.Holds id lb issued ∧
        ∀ x, (env.api (.getLoadBalancer id) now s).answer = .ok x → MemoryCloud.running x = lb := by
    rw [memory]
    obtain ⟨left, ⟨e, failed, kept⟩ | ⟨x, next, served, answer, after⟩⟩ :=
      api_reply (.getLoadBalancer id) now s
    · exact ⟨kept ▸ hs, left ▸ hs, fun x hx => by cases failed.symm.trans hx⟩
    · obtain ⟨same, holds⟩ := hs.get served
      exact ⟨after ▸ holds, left ▸ hs, fun y hy => Except.ok.inj (answer.symm.trans hy) ▸ same⟩
  refine ⟨await_cloud (P := fun s => s.cloud.Holds id lb issued)
    (fun now s hs => ⟨(reply now s hs).1, (reply now s hs).2.1⟩) h run, fun x hx => ?_⟩
  subst hx
  obtain ⟨status, now, s, hs, answer, -⟩ := await_ok (P := fun s => s.cloud.Holds id lb issued)
    (fun now s hs => (reply now s hs).1) h run
  rw [← (reply now s hs).2.2 x answer, MemoryCloud.running]
  rw [← (show x.status = "running" from status)]

/-- A change of a load balancer that the cloud holds is made if it is accepted, and else has no
effect. -/
theorem change_holds (memory : env.api = api MemoryCloud.api)
    (h : session.cloud.cloud.Holds id lb issued) {change : Remote.Change}
    {answer : Except ApiError Unit}
    (called : call (.changeLoadBalancer id change) env session = (answer, session')) :
    (∃ e, answer = .error e ∧ session'.cloud.cloud.Holds id lb issued) ∨
      (∃ lb' issued', answer = .ok () ∧ change.apply lb issued = .ok (lb', issued') ∧
        session'.cloud.cloud.Holds id lb' issued') := by
  obtain ⟨rfl, rfl⟩ := Prod.mk.inj called
  rw [memory]
  obtain ⟨-, ⟨e, failed, kept⟩ | ⟨x, next, served, accepted, after⟩⟩ :=
    api_reply (.changeLoadBalancer id change) session.now session.cloud
  · exact .inl ⟨e, failed, kept ▸ h⟩
  · obtain ⟨lb', issued', applied, holds⟩ := h.change served
    exact .inr ⟨lb', issued', accepted, applied, after ▸ holds⟩

end Faulty

end CloudProvision
