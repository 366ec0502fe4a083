import CloudProvision.Proofs.Polling

/-!
# How a wait may end

Each way a wait ends is tied to the fetches it made and to the clock. `Sound` collects what every
outcome satisfies: its polls are fetches that took place, it is over in time, nothing is fetched
once the wait is cancelled, all answers but the last one found the object on its way, and the
result is the one that the last answer or the clock calls for.

## Main results

* `Sound.after`: a fetch that decides nothing can be put before a sound wait.
* `run_sound`: every wait is sound.
-/

namespace CloudProvision.Polling

open Remote

variable {σ α : Type}

/-! ### Fetches -/

/-- The polls of a wait are fetches that took place one after the other. An answered one took as
long as its answer, and the next one starts from the state it completed. One that was left comes
last, and no answer of it was there before it was left. -/
inductive Transcript (fetch : Nat → σ → Fetch σ α) : σ → List (Poll α) → σ → Prop
  | done (state : σ) : Transcript fetch state [] state
  | left {start finish : Nat} {state : σ}
      (unanswered : ∀ delay, (fetch start state).delay = some delay → finish ≤ start + delay) :
      Transcript fetch state [⟨start, finish, none⟩] (fetch start state).abandoned
  | answered {start delay : Nat} {state last : σ} {polls : List (Poll α)}
      (answered : (fetch start state).delay = some delay)
      (rest : Transcript fetch (fetch start state).completed polls last) :
      Transcript fetch state
        (⟨start, start + delay, some (fetch start state).answer⟩ :: polls) last

variable {goal : Goal} {fetch : Nat → σ → Fetch σ α} {cancelAt : Option Nat}
  {deadline now : Nat} {state : σ}

/-- A wait is cancelled from the instant of its cancellation on. -/
theorem isCancelled_eq_false_iff {instant : Nat} :
    isCancelled cancelAt instant = false ↔ ∀ c, cancelAt = some c → instant < c := by
  cases cancelAt <;> simp [isCancelled]

/-- Only a cancellation interrupts, and it does so at its own instant. -/
theorem interruption?_eq_some_iff {limit instant : Nat} :
    interruption? cancelAt limit = some instant ↔ cancelAt = some instant ∧ instant ≤ limit := by
  simp [interruption?, Option.filter_eq_some_iff]

/-- What is not interrupted ends before the cancellation. -/
theorem interruption?_eq_none_iff {limit : Nat} :
    interruption? cancelAt limit = none ↔ ∀ c, cancelAt = some c → limit < c := by
  simp [interruption?, Option.filter_eq_none_iff]

/-- An answer counts if it comes by the deadline and before the cancellation. -/
theorem answeredAt?_eq_some_iff {delay : Option Nat} {finish : Nat} :
    answeredAt? cancelAt deadline now delay = some finish ↔
      ∃ d, delay = some d ∧ finish = now + d ∧ finish ≤ deadline ∧
        ∀ c, cancelAt = some c → finish < c := by
  simp only [answeredAt?, Option.filter_eq_some_iff, Option.map_eq_some_iff, Bool.and_eq_true,
    decide_eq_true_eq, Bool.not_eq_true', isCancelled_eq_false_iff]
  constructor
  · rintro ⟨⟨d, hd, rfl⟩, inTime, before⟩
    exact ⟨d, hd, rfl, inTime, before⟩
  · rintro ⟨d, hd, rfl, inTime, before⟩
    exact ⟨⟨d, hd, rfl⟩, inTime, before⟩

/-- A fetch whose answer does not count has none before the deadline and the cancellation. -/
theorem le_of_answeredAt?_eq_none {delay : Option Nat} {limit d : Nat} (h : delay = some d)
    (unanswered : answeredAt? cancelAt deadline now delay = none) (inTime : limit ≤ deadline)
    (uncancelled : ∀ c, cancelAt = some c → limit ≤ c) : limit ≤ now + d := by
  refine Nat.not_lt.1 fun early => ?_
  have counted : answeredAt? cancelAt deadline now delay = some (now + d) :=
    answeredAt?_eq_some_iff.2 ⟨d, h, rfl, Nat.le_trans (Nat.le_of_lt early) inTime,
      fun c hc => Nat.lt_of_lt_of_le early (uncancelled c hc)⟩
  simp [counted] at unanswered

/-! ### Outcomes -/

/-- The wait ended with this answer of its last fetch, at once. -/
def Outcome.EndsWith (outcome : Outcome σ α) (answer : Except ApiError α) : Prop :=
  ∃ start, outcome.polls.getLast? = some ⟨start, outcome.finish, some answer⟩

/-- An earlier poll does not change how a wait with polls ended. -/
theorem Outcome.EndsWith.after {outcome : Outcome σ α} {answer : Except ApiError α}
    (poll : Poll α) (h : outcome.EndsWith answer) : (outcome.after poll).EndsWith answer := by
  obtain ⟨start, last⟩ := h
  exact ⟨start, by simp [Outcome.after, List.getLast?_cons, last]⟩

variable [Polled α]

/-- An answer that finds the object on its way: in a status that is neither the desired one nor a
failure. -/
def Pending (goal : Goal) (answer : Except ApiError α) : Prop :=
  ∃ x, answer = .ok x ∧ Polled.status x ≠ goal.desired ∧
    (Polled.lifecycle α).isError (Polled.status x) = false

/-- Exactly the answers that find the object on its way decide nothing. -/
theorem verdict_eq_none_iff {answer : Except ApiError α} :
    verdict goal answer = none ↔ Pending goal answer := by
  cases answer with
  | error e => simp [verdict, Pending]
  | ok x =>
      by_cases desired : Polled.status x = goal.desired
      · simp [verdict, Pending, desired]
      · simp [verdict, Pending, desired]

/-- No answer of a wait decided it. -/
def Outcome.Undecided (goal : Goal) (outcome : Outcome σ α) : Prop :=
  ∀ poll ∈ outcome.polls, ∀ answer, poll.answer = some answer → Pending goal answer

/-- What calls for the result of a wait: the last answer, the deadline or the cancellation. -/
def Justified (goal : Goal) (cancelAt : Option Nat) (deadline now : Nat)
    (outcome : Outcome σ α) : Prop :=
  match outcome.result with
  | .ok x => outcome.EndsWith (.ok x) ∧ Polled.status x = goal.desired
  | .error (.fetch e) => outcome.EndsWith (.error e)
  | .error (.failed kind id status reason) =>
    ∃ x : α, outcome.EndsWith (.ok x) ∧ kind = (Polled.lifecycle α).kind ∧ id = goal.id ∧
      status = Polled.status x ∧ reason = Polled.errorMessage x ∧
      (Polled.lifecycle α).isError status = true ∧ status ≠ goal.desired
  | .error (.timeout kind id desired timeout) =>
    .timeout kind id desired timeout = goal.timedOut α ∧ outcome.finish = deadline ∧
      outcome.Undecided goal
  | .error (.cancelled kind id desired) =>
    .cancelled kind id desired = goal.cancelled α ∧
      (∃ instant, cancelAt = some instant ∧ outcome.finish = max now instant) ∧
      outcome.Undecided goal

/-- What every outcome of a wait satisfies that starts `now` and may last until the deadline. -/
structure Sound (goal : Goal) (fetch : Nat → σ → Fetch σ α) (cancelAt : Option Nat)
    (deadline now : Nat) (state : σ) (outcome : Outcome σ α) : Prop where
  transcript : Transcript fetch state outcome.polls outcome.state
  started : now ≤ outcome.finish
  inTime : outcome.finish ≤ deadline
  /-- A cancellation ends the wait at once. -/
  prompt : ∀ instant, cancelAt = some instant → outcome.finish ≤ max now instant
  /-- Nothing is fetched once the wait is cancelled. -/
  uncancelled : ∀ poll ∈ outcome.polls, isCancelled cancelAt poll.start = false
  /-- All answers but the last one decided nothing. -/
  earlier : ∀ poll ∈ outcome.polls.dropLast,
    ∃ answer, poll.answer = some answer ∧ Pending goal answer
  justified : Justified goal cancelAt deadline now outcome

/-! ### Single steps -/

/-- A verdict is the result that its answer calls for. -/
theorem justified_of_verdict {outcome : Outcome σ α} {answer : Except ApiError α}
    (decided : verdict goal answer = some outcome.result) (last : outcome.EndsWith answer) :
    Justified goal cancelAt deadline now outcome := by
  cases answer with
  | error e =>
      have result : .error (.fetch e) = outcome.result := by simpa [verdict] using decided
      simpa [Justified, ← result] using last
  | ok x =>
      simp only [verdict] at decided
      split at decided
      · next desired =>
          have result : .ok x = outcome.result := by simpa using decided
          simpa [Justified, ← result] using ⟨last, desired⟩
      · next undesired =>
          split at decided
          · next failed =>
              have result := Option.some.inj decided
              rw [Justified, ← result]
              exact ⟨x, last, rfl, rfl, rfl, rfl, failed, undesired⟩
          · cases decided

/-- A wait that was not cancelled when it started has fetched something. -/
theorem loop_polls_ne_nil (running : isCancelled cancelAt now = false) :
    (loop goal fetch cancelAt deadline now state).polls ≠ [] := by
  fun_cases loop goal fetch cancelAt deadline now state <;> simp_all [Outcome.after]

/-- An answer that decided nothing may come before a wait that was justified. The wait that starts
with it is cancelled at the same instant, for the cancellation comes after its answer. -/
theorem Justified.after {outcome : Outcome σ α} {poll : Poll α} {next : Nat}
    {answer : Except ApiError α} (h : Justified goal cancelAt deadline next outcome)
    (answered : poll.answer = some answer) (pending : Pending goal answer) (later : now ≤ next)
    (quiet : ∀ c, cancelAt = some c → next < c) :
    Justified goal cancelAt deadline now (outcome.after poll) := by
  have undecided (hu : outcome.Undecided goal) : (outcome.after poll).Undecided goal := by
    intro p hp a ha
    rcases List.mem_cons.1 hp with rfl | hp
    · cases answered.symm.trans ha
      exact pending
    · exact hu p hp a ha
  simp only [Justified, Outcome.after] at h ⊢
  split at h
  · exact ⟨h.1.after poll, h.2⟩
  · exact h.after poll
  · obtain ⟨x, last, rest⟩ := h
    exact ⟨x, last.after poll, rest⟩
  · exact ⟨h.1, h.2.1, undecided h.2.2⟩
  · obtain ⟨error, ⟨instant, hc, finish⟩, hu⟩ := h
    have := quiet instant hc
    exact ⟨error, ⟨instant, hc, by omega⟩, undecided hu⟩

/-- A wait that leaves its first fetch is sound if it stops neither after the deadline nor after the
cancellation. -/
theorem sound_of_left {stop : Nat} {result : Except WaitError α}
    (running : isCancelled cancelAt now = false)
    (unanswered : answeredAt? cancelAt deadline now (fetch now state).delay = none)
    (ahead : now ≤ stop) (inTime : stop ≤ deadline)
    (prompt : ∀ c, cancelAt = some c → stop ≤ c)
    (justified : Justified goal cancelAt deadline now
      ⟨result, stop, [⟨now, stop, none⟩], (fetch now state).abandoned⟩) :
    Sound goal fetch cancelAt deadline now state
      ⟨result, stop, [⟨now, stop, none⟩], (fetch now state).abandoned⟩ where
  transcript := .left fun _ hd => le_of_answeredAt?_eq_none hd unanswered inTime prompt
  started := ahead
  inTime := inTime
  prompt c hc := Nat.le_trans (prompt c hc) (Nat.le_max_right ..)
  uncancelled := by simpa using running
  earlier := by simp
  justified := justified

/-- A wait that stops after the answer of its first fetch is sound if it stops neither after the
deadline nor after the cancellation. -/
theorem sound_of_answered {finish stop : Nat} {result : Except WaitError α}
    (running : isCancelled cancelAt now = false)
    (answered : answeredAt? cancelAt deadline now (fetch now state).delay = some finish)
    (after : finish ≤ stop) (inTime : stop ≤ deadline)
    (prompt : ∀ c, cancelAt = some c → stop ≤ c)
    (justified : Justified goal cancelAt deadline now
      ⟨result, stop, [⟨now, finish, some (fetch now state).answer⟩], (fetch now state).completed⟩) :
    Sound goal fetch cancelAt deadline now state
      ⟨result, stop, [⟨now, finish, some (fetch now state).answer⟩],
        (fetch now state).completed⟩ := by
  obtain ⟨delay, hd, rfl, -, -⟩ := answeredAt?_eq_some_iff.1 answered
  exact {
    transcript := .answered hd (.done _)
    started := Nat.le_trans (Nat.le_add_right ..) after
    inTime
    prompt := fun c hc => Nat.le_trans (prompt c hc) (Nat.le_max_right ..)
    uncancelled := by simpa using running
    earlier := by simp
    justified }

/-- A fetch that decides nothing can be put before a sound wait that starts after its answer. -/
theorem Sound.after {outcome : Outcome σ α} {next delay : Nat}
    (h : Sound goal fetch cancelAt deadline next (fetch now state).completed outcome)
    (nonempty : outcome.polls ≠ []) (running : isCancelled cancelAt now = false)
    (answered : (fetch now state).delay = some delay)
    (pending : Pending goal (fetch now state).answer) (later : now ≤ next)
    (quiet : ∀ c, cancelAt = some c → next < c) :
    Sound goal fetch cancelAt deadline now state
      (outcome.after ⟨now, now + delay, some (fetch now state).answer⟩) where
  transcript := .answered answered h.transcript
  started := Nat.le_trans later h.started
  inTime := h.inTime
  prompt c hc := by
    have hp := h.prompt c hc
    have hq := quiet c hc
    simp only [Outcome.after]
    omega
  uncancelled := by
    intro poll hp
    rcases List.mem_cons.1 hp with rfl | hp
    · exact running
    · exact h.uncancelled poll hp
  earlier := by
    intro poll hp
    obtain ⟨second, rest, hpolls⟩ := List.exists_cons_of_ne_nil nonempty
    simp only [Outcome.after, hpolls, List.dropLast_cons_cons] at hp
    rcases List.mem_cons.1 hp with rfl | hp
    · exact ⟨_, rfl, pending⟩
    · exact h.earlier poll (hpolls ▸ hp)
  justified := h.justified.after rfl pending later quiet

/-! ### Whole waits -/

/-- Every wait with a deadline ahead is sound: by induction on its fetches. -/
theorem loop_sound (ahead : now ≤ deadline) :
    Sound goal fetch cancelAt deadline now state
      (loop goal fetch cancelAt deadline now state) := by
  fun_induction loop goal fetch cancelAt deadline now state with
  | case1 now state stopped =>
      obtain ⟨c, hc, before⟩ : ∃ c, cancelAt = some c ∧ c ≤ now := by
        simpa [isCancelled, Option.any_eq_true] using stopped
      exact {
        transcript := .done state
        started := Nat.le_refl now
        inTime := ahead
        prompt := fun _ _ => Nat.le_max_left ..
        uncancelled := by simp
        earlier := by simp
        justified := ⟨rfl, ⟨c, hc, (Nat.max_eq_left before).symm⟩, by simp [Outcome.Undecided]⟩ }
  | case2 now state running attempt unanswered instant interrupted =>
      have running := Bool.eq_false_iff.2 running
      obtain ⟨hc, inTime⟩ := interruption?_eq_some_iff.1 interrupted
      have before := Nat.le_of_lt (isCancelled_eq_false_iff.1 running instant hc)
      exact sound_of_left running unanswered before inTime (by simp_all)
        ⟨rfl, ⟨instant, hc, (Nat.max_eq_right before).symm⟩, by simp [Outcome.Undecided]⟩
  | case3 now state running attempt unanswered quiet =>
      have quiet := interruption?_eq_none_iff.1 quiet
      exact sound_of_left (Bool.eq_false_iff.2 running) unanswered ahead (Nat.le_refl _)
        (fun c hc => Nat.le_of_lt (quiet c hc)) ⟨rfl, rfl, by simp [Outcome.Undecided]⟩
  | case4 now state running attempt finish answered poll result decided =>
      obtain ⟨-, -, -, inTime, before⟩ := answeredAt?_eq_some_iff.1 answered
      exact sound_of_answered (Bool.eq_false_iff.2 running) answered (Nat.le_refl _) inTime
        (fun c hc => Nat.le_of_lt (before c hc)) (justified_of_verdict decided ⟨now, rfl⟩)
  | case5 now state running attempt finish answered poll pending late =>
      obtain ⟨-, -, -, inTime, before⟩ := answeredAt?_eq_some_iff.1 answered
      exact sound_of_answered (Bool.eq_false_iff.2 running) answered (Nat.le_refl _) inTime
        (fun c hc => Nat.le_of_lt (before c hc)) ⟨rfl, Nat.le_antisymm inTime late,
          by simpa [Outcome.Undecided] using verdict_eq_none_iff.1 pending⟩
  | case6 now state running attempt finish answered poll pending early next instant interrupted =>
      obtain ⟨delay, -, rfl, inTime, before⟩ := answeredAt?_eq_some_iff.1 answered
      obtain ⟨hc, reached⟩ := interruption?_eq_some_iff.1 interrupted
      have after := before instant hc
      exact sound_of_answered (Bool.eq_false_iff.2 running) answered (Nat.le_of_lt after)
        (Nat.le_trans reached (Nat.min_le_right ..)) (by simp_all)
        ⟨rfl, ⟨instant, hc, by simp only; omega⟩,
          by simpa [Outcome.Undecided] using verdict_eq_none_iff.1 pending⟩
  | case7 now state running attempt finish answered poll pending early next quiet ih =>
      obtain ⟨delay, hd, rfl, inTime, before⟩ := answeredAt?_eq_some_iff.1 answered
      have quiet := interruption?_eq_none_iff.1 quiet
      exact (ih (Nat.min_le_right ..)).after
        (loop_polls_ne_nil (isCancelled_eq_false_iff.2 quiet)) (Bool.eq_false_iff.2 running) hd
        (verdict_eq_none_iff.1 pending) (by omega) quiet

/-- Every wait is sound. -/
theorem run_sound (goal : Goal) (fetch : Nat → σ → Fetch σ α) (cancelAt : Option Nat)
    (now : Nat) (state : σ) :
    Sound goal fetch cancelAt (now + goal.timeout) now state
      (run goal fetch cancelAt now state) :=
  loop_sound (Nat.le_add_right ..)

end CloudProvision.Polling
