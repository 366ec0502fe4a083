import CloudProvision.Polling

/-!
# What a wait leaves behind

A wait goes through fetches until one of them decides it. The statements here tie the result of a
wait to its fetches: the fetches before the last one found the object on its way, and a wait that
succeeds returns the answer of its last fetch.

## Main results

* `loop_state`: what every fetch preserves, answered or left, the whole wait preserves.
* `loop_pending`: every fetch before the last one was answered and decided nothing.
* `loop_ok`: a wait that succeeds ends with a fetch of its result, before any cancellation.
-/

namespace CloudProvision.Polling

open Remote

variable {σ α : Type} [Polled α] {goal : Goal} {fetch : Nat → σ → Fetch σ α}
  {cancelAt : Option Nat} {deadline now : Nat} {state : σ}

/-! ### Answers -/

/-- Only an object in the desired status ends a wait well. -/
theorem verdict_ok {answer : Except ApiError α} {x : α}
    (h : verdict goal answer = some (.ok x)) :
    answer = .ok x ∧ Polled.status x = goal.desired := by
  cases answer with
  | error e => simp [verdict] at h
  | ok y =>
      simp only [verdict] at h
      split at h
      · next desired =>
          cases h
          exact ⟨rfl, desired⟩
      · split at h <;> simp at h

/-- An answer that decides nothing is an object. -/
theorem verdict_none {answer : Except ApiError α} (h : verdict goal answer = none) :
    ∃ x, answer = .ok x := by
  cases answer with
  | error e => simp [verdict] at h
  | ok x => exact ⟨x, rfl⟩

/-- An answer that counts comes before the cancellation. -/
theorem isCancelled_of_answeredAt? {delay : Option Nat} {finish : Nat}
    (h : answeredAt? cancelAt deadline now delay = some finish) :
    isCancelled cancelAt finish = false := by
  have hp := (Option.filter_eq_some_iff.1 h).2
  simp only [Bool.and_eq_true, Bool.not_eq_true'] at hp
  exact hp.2

/-! ### Whole waits -/

/-- What holds of the fetched side at the start, and is preserved by a fetch whether its answer is
awaited or not, holds at the end of a wait. -/
theorem loop_state {P : σ → Prop}
    (preserved : ∀ now s, P s → P (fetch now s).completed ∧ P (fetch now s).abandoned)
    (h : P state) : P (loop goal fetch cancelAt deadline now state).state := by
  fun_induction loop goal fetch cancelAt deadline now state with
  | case1 => exact h
  | case2 | case3 => exact (preserved _ _ h).2
  | case4 | case5 | case6 => exact (preserved _ _ h).1
  | case7 now state running attempt finish answered poll pending early next quiet ih =>
      exact ih (preserved _ _ h).1

/-- Every fetch before the last one was answered with an object that decides nothing. -/
theorem loop_pending {p : Poll α}
    (h : p ∈ (loop goal fetch cancelAt deadline now state).polls.dropLast) :
    ∃ x, p.answer = some (.ok x) ∧ verdict goal (.ok x) = none := by
  fun_induction loop goal fetch cancelAt deadline now state with
  | case1 | case2 | case3 | case4 | case5 | case6 => simp at h
  | case7 now state running attempt finish answered poll pending early next quiet ih =>
      obtain ⟨x, hx⟩ := verdict_none pending
      simp only [Outcome.after] at h
      cases hpolls : (loop goal fetch cancelAt deadline next attempt.completed).polls with
      | nil => simp [hpolls] at h
      | cons second rest =>
          rw [hpolls, List.dropLast_cons_cons] at h
          rcases List.mem_cons.1 h with rfl | hp
          · exact ⟨x, by simp [poll, hx], hx ▸ pending⟩
          · exact ih (hpolls ▸ hp)

/-- A wait that succeeds ends with a fetch of the object it returns, and in the state which that
completes. The object has the desired status, and the wait is not cancelled yet. What every answered
fetch preserves holds of the side that this last fetch found. -/
theorem loop_ok {P : σ → Prop} {x : α} (preserved : ∀ now s, P s → P (fetch now s).completed)
    (h : P state) (ok : (loop goal fetch cancelAt deadline now state).result = .ok x) :
    ∃ polls start found,
      (loop goal fetch cancelAt deadline now state).polls =
        polls ++ [⟨start, (loop goal fetch cancelAt deadline now state).finish,
          some (.ok x)⟩] ∧
      P found ∧ (fetch start found).answer = .ok x ∧
      (loop goal fetch cancelAt deadline now state).state = (fetch start found).completed ∧
      Polled.status x = goal.desired ∧
      isCancelled cancelAt (loop goal fetch cancelAt deadline now state).finish = false := by
  fun_induction loop goal fetch cancelAt deadline now state with
  | case1 | case2 | case3 | case5 | case6 => simp at ok
  | case4 now state running attempt finish answered poll result decided =>
      simp only at ok
      subst ok
      obtain ⟨answer, desired⟩ := verdict_ok decided
      exact ⟨[], now, state, by simp [poll, answer], h, answer, rfl, desired,
        isCancelled_of_answeredAt? answered⟩
  | case7 now state running attempt finish answered poll pending early next quiet ih =>
      obtain ⟨polls, start, found, eq, rest⟩ := ih (preserved _ _ h) ok
      exact ⟨poll :: polls, start, found, by simp [Outcome.after, eq], rest⟩

end CloudProvision.Polling
