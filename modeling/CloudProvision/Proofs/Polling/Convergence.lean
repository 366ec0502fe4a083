import CloudProvision.Proofs.Polling.Soundness

/-!
# A wait sees what converges in time

The polls of a wait whose fetches are answered at once start an interval apart, and the last one
starts when the time is over. So an object that gets ready by then is found ready by some poll: the
first one that starts once it is ready. That poll starts less than an interval later, also where
the deadline cut the last pause short.

## Main results

* `loop_eq`: one poll of such a wait.
* `run_of_second`: a wait whose second fetch decides.
* `run_converges`: the object is found, less than an interval after it got ready.
-/

namespace CloudProvision.Polling

open Remote

variable {σ α : Type} [Polled α]

/-- Every fetch is answered at once, with an object in the status of that instant. -/
def Showing (fetch : Nat → σ → Fetch σ α) (status : Nat → String) : Prop :=
  ∀ now state, (fetch now state).delay = some 0 ∧
    ∃ x, (fetch now state).answer = .ok x ∧ Polled.status x = status now

variable {goal : Goal} {fetch : Nat → σ → Fetch σ α} {status : Nat → String}
  {deadline now : Nat} {state : σ}

/-- One poll of a wait that is not cancelled, whose fetch is answered at once: its verdict is known
then, and without one the wait pauses unless the time is over. -/
theorem loop_eq (answered : (fetch now state).delay = some 0) (ahead : now ≤ deadline) :
    loop goal fetch none deadline now state =
      let poll : Poll α := ⟨now, now, some (fetch now state).answer⟩
      match verdict goal (fetch now state).answer with
      | some result => ⟨result, now, [poll], (fetch now state).completed⟩
      | none =>
        if deadline ≤ now then
          ⟨.error (goal.timedOut α), now, [poll], (fetch now state).completed⟩
        else
          (loop goal fetch none deadline (min (now + max 1 goal.interval) deadline)
            (fetch now state).completed).after poll := by
  have counted : answeredAt? none deadline now (fetch now state).delay = some now :=
    answeredAt?_eq_some_iff.2 ⟨0, answered, rfl, ahead, by simp⟩
  conv => lhs; rw [loop]
  simp only [isCancelled, Option.any_none, Bool.false_eq_true, if_false]
  split
  · next unanswered => simp [counted] at unanswered
  · next finish answered =>
      cases counted.symm.trans answered
      rfl

/-- A wait with any time at all ends with its second fetch, if the first one finds the object on its
way and the second one decides, both answered at once. -/
theorem run_of_second {now : Nat} {final : σ} {result : Except WaitError α}
    (patient : 0 < goal.timeout) (answered : (fetch now state).delay = some 0)
    (pending : verdict goal (fetch now state).answer = none)
    (second : ∀ t, (fetch t (fetch now state).completed).delay = some 0 ∧
      verdict goal (fetch t (fetch now state).completed).answer = some result ∧
      (fetch t (fetch now state).completed).completed = final) :
    (run goal fetch none now state).result = result ∧
      (run goal fetch none now state).state = final := by
  let deadline := now + goal.timeout
  let next := min (now + max 1 goal.interval) deadline
  obtain ⟨answered', decided, completed⟩ := second next
  have early : ¬ now + goal.timeout ≤ now := by omega
  have inTime : next ≤ deadline := Nat.min_le_right ..
  rw [run, loop_eq answered (Nat.le_add_right ..)]
  simp only [pending, if_neg early]
  rw [loop_eq answered' inTime]
  simp only [decided]
  exact ⟨rfl, completed⟩

namespace Showing

/-- A poll that finds the object ready decides the wait. -/
theorem verdict_of_ready (h : Showing fetch status) (state : σ)
    (ready : status now = goal.desired) :
    ∃ x, verdict goal (fetch now state).answer = some (.ok x) ∧
      Polled.status x = goal.desired := by
  obtain ⟨x, answer, shown⟩ := (h now state).2
  have desired : Polled.status x = goal.desired := shown.trans ready
  exact ⟨x, by simp [verdict, answer, desired], desired⟩

/-- A poll that finds the object on its way decides nothing. -/
theorem verdict_of_transitional (h : Showing fetch status) (undesired : status now ≠ goal.desired)
    (unfailed : (Polled.lifecycle α).isError (status now) = false) :
    verdict goal (fetch now state).answer = none := by
  obtain ⟨x, answer, shown⟩ := (h now state).2
  exact verdict_eq_none_iff.2 ⟨x, answer, shown ▸ undesired, shown ▸ unfailed⟩

end Showing

/-- A poll that starts less than an interval after the object gets ready, or before, leads to it: by
induction on the time left, where the next poll starts less than an interval after it gets ready as
well. -/
theorem loop_converges {ready : Nat} (h : Showing fetch status) (paced : 0 < goal.interval)
    (transitional : ∀ t, now ≤ t → t < ready →
      status t ≠ goal.desired ∧ (Polled.lifecycle α).isError (status t) = false)
    (converged : ∀ t, ready ≤ t → status t = goal.desired)
    (inTime : ready ≤ deadline) (ahead : now ≤ deadline) (near : now < ready + goal.interval) :
    let outcome := loop goal fetch none deadline now state
    (∃ x, outcome.result = .ok x ∧ Polled.status x = goal.desired) ∧
      ready ≤ outcome.finish ∧ outcome.finish < ready + goal.interval ∧
      outcome.finish ≤ deadline := by
  induction left : deadline - now using Nat.strongRecOn generalizing now state with
  | ind left ih =>
      rw [loop_eq (h now state).1 ahead]
      by_cases due : ready ≤ now
      · obtain ⟨x, decided, desired⟩ := h.verdict_of_ready state (converged now due)
        simp only [decided]
        exact ⟨⟨x, rfl, desired⟩, due, near, ahead⟩
      · have transit := transitional now (Nat.le_refl _) (Nat.not_le.1 due)
        have early : ¬ deadline ≤ now := by omega
        simp only [h.verdict_of_transitional transit.1 transit.2, if_neg early]
        exact ih _ (by omega) (fun t ht => transitional t (by omega)) (Nat.min_le_right ..)
          (by omega) rfl

/-- An object that is on its way before some instant within the time and in the desired status from
then on is found by a wait that is not cancelled, less than an interval after that instant and
within the time. -/
theorem run_converges {now ready : Nat} (goal : Goal) (fetch : Nat → σ → Fetch σ α)
    (status : Nat → String) (state : σ) (paced : 0 < goal.interval) (showing : Showing fetch status)
    (begun : now ≤ ready) (inTime : ready ≤ now + goal.timeout)
    (transitional : ∀ t, now ≤ t → t < ready →
      status t ≠ goal.desired ∧ (Polled.lifecycle α).isError (status t) = false)
    (converged : ∀ t, ready ≤ t → status t = goal.desired) :
    let outcome := run goal fetch none now state
    (∃ x, outcome.result = .ok x ∧ Polled.status x = goal.desired) ∧
      ready ≤ outcome.finish ∧ outcome.finish < ready + goal.interval ∧
      outcome.finish ≤ now + goal.timeout :=
  loop_converges showing paced transitional converged inTime (Nat.le_add_right ..) (by omega)

/-! ### Sample wait -/

/-- Wait for a snapshot, with a last pause of half the interval. -/
def sampleGoal : Goal := ⟨"snap-1", "completed", 10, 35⟩

/-- The snapshot is completed between the last regular poll and the end of the time. -/
def sampleStatus (now : Nat) : String := if now < 33 then "creating" else "completed"

/-- A fetch of the snapshot. -/
def sampleFetch (now : Nat) (_ : Unit) : Fetch Unit Snapshot :=
  ⟨some 0, .ok ⟨"snap-1", "vol-1", none, some 8, sampleStatus now, none⟩, (), ()⟩

/-- The snapshot that gets ready shortly before the deadline is seen by the last poll. -/
theorem run_converges_sample :
    let outcome := run sampleGoal sampleFetch none 0 ()
    (∃ x, outcome.result = .ok x ∧ Polled.status x = "completed") ∧
      33 ≤ outcome.finish ∧ outcome.finish < 43 ∧ outcome.finish ≤ 35 :=
  run_converges sampleGoal sampleFetch sampleStatus () (by decide)
    (fun now _ => ⟨rfl, _, rfl, rfl⟩) (by decide) (by decide)
    (fun t _ early => by
      have status : sampleStatus t = "creating" := if_pos early
      rw [status]
      decide)
    (fun t late => if_neg (Nat.not_lt.2 late))

end CloudProvision.Polling
