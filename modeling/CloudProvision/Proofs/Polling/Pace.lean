import CloudProvision.Proofs.Polling.Convergence
import Mathlib.Algebra.Order.Floor.Div

/-!
# The pace of a wait

A wait pauses after each answer, for an interval or until the time is over. So each fetch but the
last one uses up an interval of the time that is left, or the part of it that is left at the end,
and the number of fetches is bounded however slow their answers are. Only the last fetch can follow
the answer before it by less than an interval, and it starts when the time is over.

## Main definitions

* `Paced`: polls that start after such pauses.
* `KeepsPace`: what this says of the outcome of a wait.

## Main results

* `Paced.length_le`: a bound on the number of polls, by the time that is left.
* `run_keepsPace`: every wait keeps the pace, whatever its fetches do and whenever it is cancelled.
-/

namespace CloudProvision.Polling

open Remote

variable {σ α : Type}

/-- Polls from `start` on, each one but the first after the pause that follows the answer before.
The time is not over when that answer comes. -/
inductive Paced (interval deadline : Nat) : (start : Nat) → List (Poll α) → Prop
  | none (start : Nat) : Paced interval deadline start []
  | last (start finish : Nat) (answer : Option (Except ApiError α)) :
      Paced interval deadline start [⟨start, finish, answer⟩]
  | next {start finish : Nat} {polls : List (Poll α)} (answer : Except ApiError α)
      (later : start ≤ finish) (early : finish < deadline)
      (rest : Paced interval deadline (min (finish + interval) deadline) polls) :
      Paced interval deadline start (⟨start, finish, some answer⟩ :: polls)

/-! ### Polls at a pace -/

section Paced

variable {interval deadline start finish : Nat} {polls : List (Poll α)}

/-- The first poll starts at once. -/
theorem Paced.start_eq {p : Poll α} (h : Paced interval deadline start (p :: polls)) :
    p.start = start := by
  cases h <;> rfl

/-- No poll starts before the first one, or after the deadline. -/
theorem Paced.start_mem (h : Paced interval deadline start polls) (ahead : start ≤ deadline) :
    ∀ p ∈ polls, start ≤ p.start ∧ p.start ≤ deadline := by
  induction h with
  | none => simp
  | last => simpa using ahead
  | next answer later early rest ih =>
      refine List.forall_mem_cons.2 ⟨⟨Nat.le_refl _, ahead⟩, fun p mem => ?_⟩
      have ⟨after, inTime⟩ := ih (Nat.min_le_right ..) p mem
      exact ⟨by omega, inTime⟩

/-- The starts of the polls are ascending: a pause takes time, as it ends by the deadline only if it
began before. -/
theorem Paced.ascending (h : Paced interval deadline start polls) (paced : 0 < interval) :
    (polls.map Poll.start).Pairwise (· < ·) := by
  induction h with
  | none => simp
  | last => simp
  | next answer later early rest ih =>
      refine List.pairwise_cons.2 ⟨List.forall_mem_map.2 fun p mem => ?_, ih⟩
      have := (rest.start_mem (Nat.min_le_right ..) p mem).1
      dsimp only
      omega

/-- A poll and the pause after it use up an interval of the time that is left, or all of it. -/
theorem ceilDiv_succ_le (paced : 0 < interval) (later : start ≤ finish)
    (early : finish < deadline) :
    (deadline - min (finish + interval) deadline) ⌈/⌉ interval + 1 ≤
      (deadline - start) ⌈/⌉ interval := by
  have spent : deadline - start ≤ interval * ((deadline - start) ⌈/⌉ interval) :=
    (ceilDiv_le_iff_le_mul paced).1 (Nat.le_refl _)
  rcases count : (deadline - start) ⌈/⌉ interval with - | k
  · rw [count] at spent
    omega
  · rw [count, Nat.mul_succ] at spent
    refine Nat.succ_le_succ ((ceilDiv_le_iff_le_mul paced).2 ?_)
    omega

/-- There are at most as many polls as intervals in the time that is left, the last one counted in
full, and one more. -/
theorem Paced.length_le (h : Paced interval deadline start polls) (paced : 0 < interval) :
    polls.length ≤ (deadline - start) ⌈/⌉ interval + 1 := by
  induction h with
  | none => simp
  | last => simp
  | next answer later early rest ih =>
      calc _ ≤ _ + 1 := Nat.succ_le_succ ih
        _ ≤ _ := Nat.succ_le_succ (ceilDiv_succ_le paced later early)

/-- No poll comes after one that starts when the time is over. -/
theorem Paced.eq_nil_of_due {p : Poll α} (h : Paced interval deadline start (p :: polls))
    (due : start = deadline) : polls = [] := by
  cases h with
  | last => rfl
  | next answer later early rest => omega

/-- A poll follows the answer of the one before it by at least an interval, unless it is the last
one and starts when the time is over. -/
theorem Paced.spaced (h : Paced interval deadline start polls) {before after : List (Poll α)}
    {p q : Poll α} (split : polls = before ++ p :: q :: after) :
    (∃ answer, p.answer = some answer) ∧
      (p.finish + interval ≤ q.start ∨ after = [] ∧ q.start = deadline) := by
  induction h generalizing before with
  | none => simp at split
  | last start finish answer =>
      have := congrArg List.length split
      simp at this
      omega
  | @next start finish polls answer later early rest ih =>
      cases before with
      | cons first before =>
          exact ih (List.cons.inj split).2
      | nil =>
          obtain ⟨rfl, rfl⟩ := List.cons.inj split
          refine ⟨⟨answer, rfl⟩, ?_⟩
          have begun := rest.start_eq
          by_cases cut : finish + interval ≤ deadline
          · exact .inl (by dsimp only; omega)
          · exact .inr ⟨rest.eq_nil_of_due (by omega), by omega⟩

end Paced

/-! ### Whole waits -/

/-- What a wait that starts `now` owes to its pace: it is over in time, its fetches are few, and
they start one after the other. Each one starts at least an interval after the answer before it,
except that the last one may start when the time is over. -/
structure KeepsPace (goal : Goal) (fetch : Nat → σ → Fetch σ α) (now : Nat) (state : σ)
    (outcome : Outcome σ α) : Prop where
  /-- The polls are all fetches that took place. -/
  transcript : Transcript fetch state outcome.polls outcome.state
  inTime : outcome.finish ≤ now + goal.timeout
  few : outcome.polls.length ≤ goal.timeout ⌈/⌉ goal.interval + 1
  ascending : (outcome.polls.map Poll.start).Pairwise (· < ·)
  spaced : ∀ before p q after, outcome.polls = before ++ p :: q :: after →
    (∃ answer, p.answer = some answer) ∧
      (p.finish + goal.interval ≤ q.start ∨ after = [] ∧ q.start = now + goal.timeout)

variable [Polled α] {goal : Goal} {fetch : Nat → σ → Fetch σ α} {cancelAt : Option Nat}
  {deadline now : Nat} {state : σ}

/-- The polls of a wait are paced by its interval: by induction on its fetches. -/
theorem loop_paced (paced : 0 < goal.interval) :
    Paced goal.interval deadline now (loop goal fetch cancelAt deadline now state).polls := by
  fun_induction loop goal fetch cancelAt deadline now state with
  | case1 => exact .none _
  | case2 | case3 => exact .last ..
  | case4 | case5 | case6 => exact .last ..
  | case7 now state running attempt finish answered poll pending early next quiet ih =>
      obtain ⟨delay, -, rfl, -, -⟩ := answeredAt?_eq_some_iff.1 answered
      have pause : max 1 goal.interval = goal.interval := Nat.max_eq_right paced
      exact .next _ (Nat.le_add_right ..) (Nat.not_le.1 early) (pause ▸ ih)

/-- Every wait with a positive interval keeps the pace, whatever its fetches answer and however long
they take, and whenever it is cancelled. -/
theorem run_keepsPace (goal : Goal) (paced : 0 < goal.interval) (fetch : Nat → σ → Fetch σ α)
    (cancelAt : Option Nat) (now : Nat) (state : σ) :
    KeepsPace goal fetch now state (run goal fetch cancelAt now state) := by
  have sound := @loop_sound σ α goal fetch cancelAt _ now state _
    (Nat.le_add_right now goal.timeout)
  have polls : Paced goal.interval (now + goal.timeout) now
      (run goal fetch cancelAt now state).polls := loop_paced paced
  refine ⟨sound.transcript, sound.inTime, ?_, polls.ascending paced,
    fun before p q after split => polls.spaced split⟩
  simpa using polls.length_le paced

/-- A fetch of a snapshot that is never completed, which is answered late at first and then not at
all. -/
def stalledFetch (now : Nat) (_ : Unit) : Fetch Unit Snapshot :=
  ⟨if now < 20 then some 7 else none,
    .ok ⟨"snap-1", "vol-1", none, some 8, "creating", none⟩, (), ()⟩

/-- A wait of three and a half intervals for it, which is cancelled on the way, fetches it five
times at most. -/
theorem run_keepsPace_sample :
    0 < sampleGoal.interval ∧
      KeepsPace sampleGoal stalledFetch 0 () (run sampleGoal stalledFetch (some 30) 0 ()) ∧
      (run sampleGoal stalledFetch (some 30) 0 ()).polls.length ≤ 5 :=
  have pace := run_keepsPace sampleGoal (by decide) stalledFetch (some 30) 0 ()
  ⟨by decide, pace, pace.few⟩

end CloudProvision.Polling
