import CloudProvision.MemoryCloud.Change
import Mathlib.Data.List.Nodup

/-!
# What changes do to a load balancer

`Applied` says what the load balancer is after a change that is accepted, one case for each change,
and why it was accepted. Identifiers are distinct, so a change of one object is a map over its
collection.

## Main results

* `applied_of_apply` and `apply_of_applied`: a change is accepted exactly with the effect that
  `Applied` says.
* `rejected_of_apply`: only the deletion of an object in use is rejected.
* `updateFirst?_eq_map`: an object is changed alone.
* `issueAll_ids_nodup`: identifiers that are issued together are distinct.
-/

namespace CloudProvision.Remote

open Changing

/-! ### Identifiers -/

/-- The identifier with a number. -/
def numberedId (stem : String) (number : Nat) : String :=
  stem ++ "-" ++ toString number

/-- The objects of requests with the identifiers that follow the first `issued` ones. -/
def issueAll {α ρ : Type} (stem : String) (withId : ρ → String → α) : Nat → List ρ → List α
  | _, [] => []
  | issued, request :: rest =>
    withId request (numberedId stem (issued + 1)) :: issueAll stem withId (issued + 1) rest

/-- Identifiers with the same stem have their own numbers. -/
theorem numberedId_inj {stem : String} {m n : Nat} :
    numberedId stem m = numberedId stem n ↔ m = n := by
  refine ⟨fun h => ?_, fun h => h ▸ rfl⟩
  have digits := congrArg String.toList ((String.append_right_inj _).1 h)
  rw [Nat.toString_eq_repr, Nat.toString_eq_repr, Nat.toList_repr, Nat.toList_repr] at digits
  rw [← @Nat.ofDigitChars_ten_toDigits m, digits, Nat.ofDigitChars_ten_toDigits]

/-- Identifiers with a number are not blank. -/
theorem numberedId_not_isEmpty (stem : String) (number : Nat) :
    (numberedId stem number).isEmpty = false := by
  simp [numberedId, ← Bool.not_eq_true, String.isEmpty_iff]

section IssueAll

variable {α ρ : Type} {stem : String} {withId : ρ → String → α} {issued : Nat} {requests : List ρ}

@[simp] theorem length_issueAll :
    (issueAll stem withId issued requests).length = requests.length := by
  induction requests generalizing issued with
  | nil => rfl
  | cons request rest ih => rw [issueAll, List.length_cons, ih, List.length_cons]

/-- Objects that are issued together are those of the requests, with identifiers of their own. -/
theorem mem_issueAll {x : α} (h : x ∈ issueAll stem withId issued requests) :
    ∃ request ∈ requests, ∃ number, issued < number ∧
      x = withId request (numberedId stem number) := by
  induction requests generalizing issued with
  | nil => cases h
  | cons request rest ih =>
      rcases List.mem_cons.1 h with rfl | h
      · exact ⟨request, List.mem_cons_self, issued + 1, by omega, rfl⟩
      · obtain ⟨request, mem, number, lt, rfl⟩ := ih h
        exact ⟨request, List.mem_cons_of_mem _ mem, number, by omega, rfl⟩

/-- Every request is served. -/
theorem exists_mem_issueAll {request : ρ} (h : request ∈ requests) :
    ∃ id, withId request id ∈ issueAll stem withId issued requests := by
  induction requests generalizing issued with
  | nil => cases h
  | cons first rest ih =>
      rcases List.mem_cons.1 h with rfl | h
      · exact ⟨_, List.mem_cons_self⟩
      · obtain ⟨id, mem⟩ := ih h
        exact ⟨id, List.mem_cons_of_mem _ mem⟩

/-- Identifiers that are issued together are distinct. -/
theorem issueAll_ids_nodup {getId : α → String} (get : ∀ r id, getId (withId r id) = id) :
    ((issueAll stem withId issued requests).map getId).Nodup := by
  induction requests generalizing issued with
  | nil => exact .nil
  | cons request rest ih =>
      refine List.nodup_cons.2 ⟨fun mem => ?_, ih⟩
      obtain ⟨x, hx, same⟩ := List.mem_map.1 mem
      obtain ⟨later, -, number, lt, rfl⟩ := mem_issueAll hx
      rw [get, get, numberedId_inj] at same
      omega

end IssueAll

/-! ### Accepted changes -/

/-- The load balancer and the number of identifiers issued after a change. -/
inductive Applied (lb : LoadBalancer) (issued : Nat) : Change → LoadBalancer → Nat → Prop
  | update {request : LoadBalancerUpdate} :
      Applied lb issued (.update request)
        { lb with name := request.name.getD lb.name, description := request.description } issued
  | createHealthCheck {request : HealthCheckSpec} :
      Applied lb issued (.createHealthCheck request)
        { lb with
          healthChecks := lb.healthChecks ++ [request.withId (numberedId "hc" (issued + 1))] }
        (issued + 1)
  | updateHealthCheck {id : String} {request : HealthCheckSpec} {healthChecks : List HealthCheck} :
      updateFirst? (HealthCheck.id · == id) (fun _ => request.withId id) lb.healthChecks =
        some healthChecks →
      Applied lb issued (.updateHealthCheck id request) { lb with healthChecks } issued
  | deleteHealthCheck {id : String} :
      lb.usesHealthCheck id = false →
      Applied lb issued (.deleteHealthCheck id)
        { lb with healthChecks := lb.healthChecks.filter (·.id != id) } issued
  | createBackend {request : BackendSpec} :
      (∀ id, request.healthCheckId = some id → lb.hasHealthCheck id = true) →
      Applied lb issued (.createBackend request)
        { lb with backends := lb.backends ++ [request.withId (numberedId "be" (issued + 1))] }
        (issued + 1)
  | updateBackend {id : String} {request : BackendUpdate} {backends : List Backend} :
      (∀ id, request.healthCheckId = some id → lb.hasHealthCheck id = true) →
      updateFirst? (Backend.id · == id) request.applyTo lb.backends = some backends →
      Applied lb issued (.updateBackend id request) { lb with backends } issued
  | deleteBackend {id : String} :
      lb.usesBackend id = false →
      Applied lb issued (.deleteBackend id)
        { lb with backends := lb.backends.filter (·.id != id) } issued
  | replaceTargets {id : String} {targets : List Target} {backends : List Backend} :
      updateFirst? (Backend.id · == id) (fun b => { b with targets }) lb.backends = some backends →
      Applied lb issued (.replaceTargets id targets) { lb with backends } issued
  | updateAcl {id : String} {request : AclSpec} {acls : List Acl} :
      updateFirst? (Acl.id · == id) (fun _ => request.withId id) lb.acls = some acls →
      Applied lb issued (.updateAcl id request) { lb with acls } issued
  | replaceAcls {requests : List AclSpec} :
      Applied lb issued (.replaceAcls requests)
        { lb with acls := issueAll "acl" AclSpec.withId issued requests }
        (issued + requests.length)
  | replaceListeners {requests : List ListenerSpec} :
      (∀ request ∈ requests, lb.hasBackend request.backendId = true) →
      Applied lb issued (.replaceListeners requests)
        { lb with listeners := issueAll "ls" ListenerSpec.withId issued requests }
        (issued + requests.length)

variable {lb lb' : LoadBalancer} {issued issued' : Nat} {change : Change}

/-- What follows a part of a change that is accepted is accepted too. -/
theorem bind_run_eq_ok {α β : Type} {x : Changing α} {f : α → Changing β} {b : β}
    (h : (x >>= f) issued = .ok (b, issued')) :
    ∃ a between, x issued = .ok (a, between) ∧ f a between = .ok (b, issued') := by
  change Except.bind (x issued) (fun r => f r.1 r.2) = _ at h
  rcases hx : x issued with e | ⟨a, between⟩
  · rw [hx] at h
    cases h
  · rw [hx] at h
    exact ⟨a, between, rfl, h⟩

theorem pure_run_eq_ok {α : Type} {a b : α} (h : (pure a : Changing α) issued = .ok (b, issued')) :
    a = b ∧ issued = issued' :=
  Prod.mk.inj (Except.ok.inj h)

/-- Objects are given identifiers one after the other. -/
theorem mapM_newId_run {α ρ : Type} (stem : String) (withId : ρ → String → α) (requests : List ρ)
    (issued : Nat) : requests.mapM (fun request => withId request <$> newId stem) issued =
      .ok (issueAll stem withId issued requests, issued + requests.length) := by
  induction requests generalizing issued with
  | nil => rfl
  | cons request rest ih =>
      let issue (request : ρ) : Changing α := withId request <$> newId stem
      have first : issue request issued =
          .ok (withId request (numberedId stem (issued + 1)), issued + 1) := rfl
      rw [List.mapM_cons]
      change Except.bind (issue request issued) (fun r => Except.bind (rest.mapM issue r.2)
        fun q => .ok (r.1 :: q.1, q.2)) = _
      rw [first]
      change Except.bind (rest.mapM issue (issued + 1)) _ = _
      rw [ih, List.length_cons, Nat.add_comm rest.length 1, ← Nat.add_assoc]
      rfl

theorem mapM_newId {α ρ : Type} {stem : String} {withId : ρ → String → α} {requests : List ρ}
    {objects : List α}
    (h : requests.mapM (fun request => withId request <$> newId stem) issued =
      .ok (objects, issued')) :
    objects = issueAll stem withId issued requests ∧ issued' = issued + requests.length := by
  rw [mapM_newId_run] at h
  obtain ⟨rfl, rfl⟩ := Prod.mk.inj (Except.ok.inj h)
  exact ⟨rfl, rfl⟩

/-- An object that is changed exists. -/
theorem replace_run_eq_ok {α : Type} {kind id : String} {getId : α → String} {f : α → α}
    {objects changed : List α}
    (h : replace kind getId id f objects issued = .ok (changed, issued')) :
    updateFirst? (getId · == id) f objects = some changed ∧ issued = issued' := by
  rcases found : updateFirst? (getId · == id) f objects with - | rest
  · rw [replace, found] at h
    cases h
  · rw [replace, found] at h
    obtain ⟨rfl, rfl⟩ := pure_run_eq_ok h
    exact ⟨rfl, rfl⟩

/-- A health check that a request refers to exists. -/
theorem requireHealthCheck_run_eq_ok {reference : Option String} {done : Unit}
    (h : lb.requireHealthCheck reference issued = .ok (done, issued')) :
    (∀ id, reference = some id → lb.hasHealthCheck id = true) ∧ issued = issued' := by
  cases reference with
  | none => exact ⟨nofun, (pure_run_eq_ok h).2⟩
  | some id =>
      rw [LoadBalancer.requireHealthCheck] at h
      by_cases there : lb.hasHealthCheck id
      · rw [if_pos there] at h
        refine ⟨?_, (pure_run_eq_ok h).2⟩
        rintro id' same
        obtain rfl := Option.some.inj same
        exact there
      · rw [if_neg there] at h
        cases h

/-- A change that is accepted has the effect that `Applied` says. -/
theorem applied_of_apply (h : change.apply lb issued = .ok (lb', issued')) :
    Applied lb issued change lb' issued' := by
  cases change with
  | update request =>
      obtain ⟨rfl, rfl⟩ := pure_run_eq_ok h
      exact .update
  | createHealthCheck request =>
      obtain ⟨id, between, hid, h⟩ := bind_run_eq_ok h
      obtain ⟨rfl, rfl⟩ := pure_run_eq_ok h
      obtain ⟨rfl, rfl⟩ := Prod.mk.inj (Except.ok.inj hid)
      exact .createHealthCheck
  | updateHealthCheck id request =>
      obtain ⟨changed, between, hchanged, h⟩ := bind_run_eq_ok h
      obtain ⟨rfl, rfl⟩ := pure_run_eq_ok h
      obtain ⟨found, rfl⟩ := replace_run_eq_ok hchanged
      exact .updateHealthCheck found
  | deleteHealthCheck id =>
      rw [Change.apply] at h
      rcases used : lb.usesHealthCheck id
      · rw [used] at h
        obtain ⟨rfl, rfl⟩ := pure_run_eq_ok h
        exact .deleteHealthCheck used
      · rw [used] at h
        cases h
  | createBackend request =>
      obtain ⟨done, between, hdone, h⟩ := bind_run_eq_ok h
      obtain ⟨required, rfl⟩ := requireHealthCheck_run_eq_ok hdone
      obtain ⟨id, between, hid, h⟩ := bind_run_eq_ok h
      obtain ⟨rfl, rfl⟩ := pure_run_eq_ok h
      obtain ⟨rfl, rfl⟩ := Prod.mk.inj (Except.ok.inj hid)
      exact .createBackend required
  | updateBackend id request =>
      obtain ⟨done, between, hdone, h⟩ := bind_run_eq_ok h
      obtain ⟨required, rfl⟩ := requireHealthCheck_run_eq_ok hdone
      obtain ⟨changed, between, hchanged, h⟩ := bind_run_eq_ok h
      obtain ⟨rfl, rfl⟩ := pure_run_eq_ok h
      obtain ⟨found, rfl⟩ := replace_run_eq_ok hchanged
      exact .updateBackend required found
  | deleteBackend id =>
      rw [Change.apply] at h
      rcases used : lb.usesBackend id
      · rw [used] at h
        obtain ⟨rfl, rfl⟩ := pure_run_eq_ok h
        exact .deleteBackend used
      · rw [used] at h
        cases h
  | replaceTargets id targets =>
      obtain ⟨changed, between, hchanged, h⟩ := bind_run_eq_ok h
      obtain ⟨rfl, rfl⟩ := pure_run_eq_ok h
      obtain ⟨found, rfl⟩ := replace_run_eq_ok hchanged
      exact .replaceTargets found
  | updateAcl id request =>
      obtain ⟨changed, between, hchanged, h⟩ := bind_run_eq_ok h
      obtain ⟨rfl, rfl⟩ := pure_run_eq_ok h
      obtain ⟨found, rfl⟩ := replace_run_eq_ok hchanged
      exact .updateAcl found
  | replaceAcls requests =>
      obtain ⟨changed, between, hchanged, h⟩ := bind_run_eq_ok h
      obtain ⟨rfl, rfl⟩ := pure_run_eq_ok h
      obtain ⟨rfl, rfl⟩ := mapM_newId hchanged
      exact .replaceAcls
  | replaceListeners requests =>
      rw [Change.apply] at h
      rcases unmet : requests.find? (!lb.hasBackend ·.backendId) with - | request
      · rw [unmet] at h
        obtain ⟨changed, between, hchanged, h⟩ := bind_run_eq_ok h
        obtain ⟨rfl, rfl⟩ := pure_run_eq_ok h
        obtain ⟨rfl, rfl⟩ := mapM_newId hchanged
        have there : ∀ request ∈ requests, lb.hasBackend request.backendId = true := by
          intro request hr
          simpa using List.find?_eq_none.1 unmet request hr
        exact .replaceListeners there
      · rw [unmet] at h
        cases h

/-- What comes first is done, and then the rest. -/
theorem bind_run_of_eq_ok {α β : Type} {x : Changing α} {a : α} {between : Nat}
    (f : α → Changing β) (h : x issued = .ok (a, between)) : (x >>= f) issued = f a between := by
  change Except.bind (x issued) (fun r => f r.1 r.2) = _
  rw [h]
  rfl

/-- An object that is found is changed. -/
theorem replace_run {α : Type} {id : String} {getId : α → String} {f : α → α}
    {objects changed : List α} (kind : String)
    (found : updateFirst? (getId · == id) f objects = some changed) :
    replace kind getId id f objects issued = .ok (changed, issued) := by
  rw [replace, found]
  rfl

/-- A health check that exists may be referred to. -/
theorem requireHealthCheck_run {reference : Option String}
    (there : ∀ id, reference = some id → lb.hasHealthCheck id = true) :
    lb.requireHealthCheck reference issued = .ok ((), issued) := by
  cases reference with
  | none => rfl
  | some id =>
      rw [LoadBalancer.requireHealthCheck, if_pos (there id rfl)]
      rfl

/-- A change whose effect `Applied` says is accepted. -/
theorem apply_of_applied (h : Applied lb issued change lb' issued') :
    change.apply lb issued = .ok (lb', issued') := by
  cases h with
  | update => rfl
  | createHealthCheck => rfl
  | updateHealthCheck found => exact bind_run_of_eq_ok _ (replace_run _ found)
  | deleteHealthCheck unused =>
      rw [Change.apply, unused]
      rfl
  | createBackend required => exact bind_run_of_eq_ok _ (requireHealthCheck_run required)
  | updateBackend required found =>
      exact (bind_run_of_eq_ok _ (requireHealthCheck_run required)).trans
        (bind_run_of_eq_ok _ (replace_run _ found))
  | deleteBackend unused =>
      rw [Change.apply, unused]
      rfl
  | replaceTargets found => exact bind_run_of_eq_ok _ (replace_run _ found)
  | updateAcl found => exact bind_run_of_eq_ok _ (replace_run _ found)
  | replaceAcls => exact bind_run_of_eq_ok _ (mapM_newId_run ..)
  | @replaceListeners requests required =>
      have met : requests.find? (!lb.hasBackend ·.backendId) = none :=
        List.find?_eq_none.2 fun request mem => by simp [required request mem]
      rw [Change.apply, met]
      exact bind_run_of_eq_ok _ (mapM_newId_run ..)

/-- Nothing is rejected: the only errors are objects that do not exist. -/
def Unrejected {α : Type} (x : Changing α) : Prop :=
  ∀ issued status text, x issued ≠ .error (.rejected status text)

theorem unrejected_pure {α : Type} (a : α) : Unrejected (pure a) := nofun

theorem unrejected_newId (stem : String) : Unrejected (newId stem) := nofun

theorem Unrejected.bind {α β : Type} {x : Changing α} {f : α → Changing β} (hx : Unrejected x)
    (hf : ∀ a, Unrejected (f a)) : Unrejected (x >>= f) := by
  intro issued status text h
  change Except.bind (x issued) (fun r => f r.1 r.2) = _ at h
  rcases ran : x issued with e | ⟨a, between⟩
  · rw [ran] at h
    exact hx issued status text (ran.trans (congrArg _ (Except.error.inj h)))
  · rw [ran] at h
    exact hf a between status text h

theorem unrejected_replace {α : Type} (kind id : String) (getId : α → String) (f : α → α)
    (objects : List α) : Unrejected (replace kind getId id f objects) := by
  intro issued status text h
  rw [replace] at h
  rcases found : updateFirst? (getId · == id) f objects with - | changed
  · rw [found] at h
    cases h
  · rw [found] at h
    cases h

theorem unrejected_requireHealthCheck (lb : LoadBalancer) (reference : Option String) :
    Unrejected (lb.requireHealthCheck reference) := by
  intro issued status text h
  cases reference with
  | none => cases h
  | some id =>
      rw [LoadBalancer.requireHealthCheck] at h
      by_cases there : lb.hasHealthCheck id
      · rw [if_pos there] at h
        cases h
      · rw [if_neg there] at h
        cases h

theorem unrejected_mapM {α ρ : Type} {f : ρ → Changing α} (h : ∀ request, Unrejected (f request))
    (requests : List ρ) : Unrejected (requests.mapM f) := by
  induction requests with
  | nil => exact unrejected_pure _
  | cons request rest ih =>
      rw [List.mapM_cons]
      exact (h request).bind fun _ => ih.bind fun _ => unrejected_pure _

/-- Only the deletion of an object in use is rejected. -/
theorem rejected_of_apply {status : Nat} {text : String}
    (h : change.apply lb issued = .error (.rejected status text)) :
    (∃ id, change = .deleteHealthCheck id ∧ lb.usesHealthCheck id = true) ∨
      ∃ id, change = .deleteBackend id ∧ lb.usesBackend id = true := by
  have issue {α ρ : Type} (stem : String) (withId : ρ → String → α) (requests : List ρ) :
      Unrejected (requests.mapM fun request => withId request <$> newId stem) :=
    unrejected_mapM (fun _ => (unrejected_newId stem).bind fun _ => unrejected_pure _) requests
  cases change with
  | update request => exact absurd h (unrejected_pure _ _ _ _)
  | createHealthCheck request =>
      have accepted : Unrejected ((Change.createHealthCheck request).apply lb) :=
        (unrejected_newId _).bind fun _ => unrejected_pure _
      exact absurd h (accepted _ _ _)
  | updateHealthCheck id request =>
      have accepted : Unrejected ((Change.updateHealthCheck id request).apply lb) :=
        (unrejected_replace _ _ _ _ _).bind fun _ => unrejected_pure _
      exact absurd h (accepted _ _ _)
  | deleteHealthCheck id =>
      rcases used : lb.usesHealthCheck id
      · rw [Change.apply, used] at h
        exact absurd h (unrejected_pure _ _ _ _)
      · exact .inl ⟨id, rfl, used⟩
  | createBackend request =>
      have accepted : Unrejected ((Change.createBackend request).apply lb) :=
        (unrejected_requireHealthCheck _ _).bind fun _ =>
          (unrejected_newId _).bind fun _ => unrejected_pure _
      exact absurd h (accepted _ _ _)
  | updateBackend id request =>
      have accepted : Unrejected ((Change.updateBackend id request).apply lb) :=
        (unrejected_requireHealthCheck _ _).bind fun _ =>
          (unrejected_replace _ _ _ _ _).bind fun _ => unrejected_pure _
      exact absurd h (accepted _ _ _)
  | deleteBackend id =>
      rcases used : lb.usesBackend id
      · rw [Change.apply, used] at h
        exact absurd h (unrejected_pure _ _ _ _)
      · exact .inr ⟨id, rfl, used⟩
  | replaceTargets id targets =>
      have accepted : Unrejected ((Change.replaceTargets id targets).apply lb) :=
        (unrejected_replace _ _ _ _ _).bind fun _ => unrejected_pure _
      exact absurd h (accepted _ _ _)
  | updateAcl id request =>
      have accepted : Unrejected ((Change.updateAcl id request).apply lb) :=
        (unrejected_replace _ _ _ _ _).bind fun _ => unrejected_pure _
      exact absurd h (accepted _ _ _)
  | replaceAcls requests =>
      have accepted : Unrejected ((Change.replaceAcls requests).apply lb) :=
        (issue _ _ _).bind fun _ => unrejected_pure _
      exact absurd h (accepted _ _ _)
  | replaceListeners requests =>
      rw [Change.apply] at h
      rcases unmet : requests.find? (!lb.hasBackend ·.backendId) with - | request
      · rw [unmet] at h
        exact absurd h ((issue _ _ _).bind (fun _ => unrejected_pure _) _ _ _)
      · rw [unmet] at h
        cases h

/-- A change does not touch the identifier and the status. -/
theorem Applied.status_eq (h : Applied lb issued change lb' issued') :
    lb'.id = lb.id ∧ lb'.status = lb.status := by
  cases h <;> exact ⟨rfl, rfl⟩

/-! ### Single objects -/

section Single

variable {α : Type} {getId : α → String} {id : String} {f : α → α} {objects changed : List α}

/-- An object is changed alone, as no other one has its identifier. -/
theorem updateFirst?_eq_map (distinct : (objects.map getId).Nodup)
    (h : updateFirst? (getId · == id) f objects = some changed) :
    id ∈ objects.map getId ∧ changed = objects.map fun x => if getId x = id then f x else x := by
  induction objects generalizing changed with
  | nil => cases h
  | cons x rest ih =>
      obtain ⟨fresh, distinct⟩ := List.nodup_cons.1 distinct
      rw [updateFirst?] at h
      by_cases same : getId x = id
      · rw [if_pos (beq_iff_eq.2 same)] at h
        obtain rfl := Option.some.inj h
        have others : rest.map (fun y => if getId y = id then f y else y) = rest := by
          refine (List.map_congr_left ?_).trans (List.map_id rest)
          intro y hy
          have ne : getId y ≠ id := by
            intro eq
            have there : getId y ∈ rest.map getId := List.mem_map_of_mem hy
            exact fresh (same.trans eq.symm ▸ there)
          exact if_neg ne
        constructor
        · simp [same]
        · simp [same, others]
      · rw [if_neg (by simpa using same)] at h
        obtain ⟨rest', found, rfl⟩ := Option.map_eq_some_iff.1 h
        obtain ⟨mem, rfl⟩ := ih distinct found
        exact ⟨List.mem_cons_of_mem _ mem, by simp [same]⟩

end Single

end CloudProvision.Remote
