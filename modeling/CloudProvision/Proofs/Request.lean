import CloudProvision.Proofs.Trace
import CloudProvision.Resource

/-!
# Requests fail with errors

A request should return nothing exactly if it has recorded an error: its host takes the one for the
other. Whether it does is up to the steps that it is made of. A request that takes documents reads
them first. It records one error for each that cannot be read, and then it calls nothing.

## Main definitions

* `Request.CanReturn`: what a request may return.
* `Request.Honest`: nothing is returned exactly if there is an error, and what was reported before
  stays.
* `Request.Reads`: a request that only reads, with the number of its errors.
* `Request.Accountable`: an honest request that gives up after unreadable documents.
* `Resource.Honest`, `DataSource.Honest`: all operations are honest.

## Main results

* `Request.bind_eq_some`, `Request.orReport_eq_some`, `Request.attempt_eq_some`: what a request that
  returns something has gone through.
* `Request.Honest.bind`, `Request.Accountable.bind`: what stays so when a request goes on.
* `Resource.Honest.accountable`, `DataSource.Honest.accountable`: honest operations stay honest
  where a host sees them, and answer for their documents.
-/

namespace CloudProvision

open Remote

namespace Request

/-! ### Running requests -/

section Run

variable {σ α β ε : Type} {diagnostics reported : Diagnostics} {env : Environment σ}
  {session after : Session σ}

/-- Some run of the request returns this. -/
def CanReturn (x : Request σ α) (a : α) : Prop :=
  ∃ diagnostics env session reported after,
    x diagnostics env session = ((some a, reported), after)

/-- A request goes on as long as something is returned. -/
theorem bind_run (x : Request σ α) (f : α → Request σ β) :
    (x >>= f) diagnostics env session = match x diagnostics env session with
      | ((some a, d), there) => f a d env there
      | ((none, d), there) => ((none, d), there) := by
  have run : (x >>= f).run = Option.elimM x.run (pure none) fun a => (f a).run :=
    OptionT.run_bind ..
  change (x >>= f).run diagnostics env session = _
  rw [run]
  change (x diagnostics env session).1.1.elim (pure none) (fun a => (f a).run)
    (x diagnostics env session).1.2 env (x diagnostics env session).2 = _
  rcases x diagnostics env session with ⟨⟨_ | a, d⟩, there⟩ <;> rfl

/-- An operation always returns something. -/
theorem lift_run (x : Operation σ α) : (liftM x : Request σ α) diagnostics env session =
    ((some (x env session).1, diagnostics), (x env session).2) := rfl

/-- Errors are recorded, and then nothing is returned if there are any. -/
theorem checks_run (found : List Diagnostic) :
    (do errors found; unlessErrors : Request σ Unit) diagnostics env session =
      ((if (diagnostics.addErrors found).hasErrors then none else some (),
        diagnostics.addErrors found), session) := by
  change (if (diagnostics.addErrors found).hasErrors then failure else pure () : Request σ Unit)
    (diagnostics.addErrors found) env session = _
  cases (diagnostics.addErrors found).hasErrors <;> rfl

/-- Errors that are looked for once they are recorded were none, if something is returned. -/
theorem CanReturn.of_checks {found : List Diagnostic}
    (h : (do errors found; unlessErrors : Request σ Unit).CanReturn ()) : found = [] := by
  obtain ⟨diagnostics, env, session, reported, after, run⟩ := h
  rw [checks_run] at run
  have passed := (Prod.mk.inj (Prod.mk.inj run).1).1
  split at passed
  · cases passed
  · next clean =>
    simp only [Diagnostics.hasErrors, Diagnostics.addErrors] at clean
    simp_all

/-- A step under a summary ends as the step does, and its error is recorded. -/
theorem orReport_run [ToString ε] (x : Operation σ (Except ε α)) (summary : String) :
    orReport x summary diagnostics env session = match x env session with
      | (.ok a, there) => ((some a, diagnostics), there)
      | (.error e, there) =>
        ((none, diagnostics.error (.onRoot summary (toString e))), there) := by
  rw [orReport, bind_run, lift_run]
  rcases x env session with ⟨_ | _, there⟩ <;> rfl

/-- An attempt takes a missing object for no answer. -/
theorem attempt_run (c : Call) (summary : String) :
    attempt c summary diagnostics env session = match Operation.call c env session with
      | (.ok x, there) => ((some (some x), diagnostics), there)
      | (.error e, there) =>
        if e.isNotFound then ((some none, diagnostics), there)
        else ((none, diagnostics.error (.onRoot summary e.message)), there) := by
  rw [attempt, bind_run, lift_run]
  rcases Operation.call c env session with ⟨e | x, there⟩
  · cases missing : e.isNotFound <;> simp only [missing] <;> rfl
  · rfl

/-- Of two requests the second one runs even if the first one fails. -/
theorem both_run (x : Request σ α) (y : Request σ β) :
    both x y diagnostics env session = match x diagnostics env session with
      | ((a, d), there) => match y d env there with
        | ((b, d), there) => ((a.bind fun a => b.map (a, ·), d), there) := rfl

/-- A request for a document records why it cannot be read. -/
theorem decode_run {S : Type} (codec : Codec S) (document : Document) :
    decode codec document diagnostics env session = match document.decode codec with
      | .ok x => ((some x, diagnostics), session)
      | .error e =>
        ((none, diagnostics.error (.onRoot "Invalid JSON document" e.message)), session) := by
  rw [decode]
  cases document.decode codec <;> rfl

/-! ### Requests that return something -/

/-- A request that returns something does so in both of its parts. -/
theorem bind_eq_some {x : Request σ α} {f : α → Request σ β} {b : β}
    (run : (x >>= f) diagnostics env session = ((some b, reported), after)) :
    ∃ a between there, x diagnostics env session = ((some a, between), there) ∧
      f a between env there = ((some b, reported), after) := by
  rw [bind_run] at run
  rcases ran : x diagnostics env session with ⟨⟨_ | a, between⟩, there⟩
  · rw [ran] at run
    cases (Prod.mk.inj (Prod.mk.inj run).1).1
  · rw [ran] at run
    exact ⟨a, between, there, rfl, run⟩

/-- A run that returns something, as its answer tells. -/
theorem exists_eq_some {β : Type} (run : (Option α × Diagnostics) × β) (reported : Diagnostics)
    (returned : run.1.1.isSome = true ∧ run.1.2 = reported) :
    ∃ a after, run = ((some a, reported), after) := by
  obtain ⟨⟨_ | a, diagnostics⟩, after⟩ := run
  · cases returned.1
  · obtain rfl := returned.2
    exact ⟨a, after, rfl⟩

/-- What a request returns comes from what it goes on with. -/
theorem CanReturn.of_bind {x : Request σ α} {f : α → Request σ β} {b : β}
    (h : (x >>= f).CanReturn b) : ∃ a, x.CanReturn a ∧ (f a).CanReturn b := by
  obtain ⟨diagnostics, env, session, reported, after, run⟩ := h
  obtain ⟨a, between, there, first, rest⟩ := bind_eq_some run
  exact ⟨a, ⟨_, _, _, _, _, first⟩, _, _, _, _, _, rest⟩

/-- A request that returns at once leaves everything as it is. -/
theorem pure_eq_some {a b : α}
    (run : (pure a : Request σ α) diagnostics env session = ((some b, reported), after)) :
    a = b ∧ diagnostics = reported ∧ session = after := by
  obtain ⟨answer, same⟩ := Prod.mk.inj run
  obtain ⟨returned, silent⟩ := Prod.mk.inj answer
  exact ⟨Option.some.inj returned, silent, same⟩

/-- A request that returns at once can only return this. -/
theorem CanReturn.of_pure {a b : α} (h : (pure a : Request σ α).CanReturn b) : a = b := by
  obtain ⟨_, _, _, _, _, run⟩ := h
  exact (pure_eq_some run).1

/-- A step under a summary returns what the step does, and reports nothing then. -/
theorem orReport_eq_some [ToString ε] {x : Operation σ (Except ε α)} {summary : String} {a : α}
    (run : orReport x summary diagnostics env session = ((some a, reported), after)) :
    x env session = (.ok a, after) ∧ diagnostics = reported := by
  rw [orReport_run] at run
  rcases ran : x env session with ⟨e | b, there⟩
  · rw [ran] at run
    cases (Prod.mk.inj (Prod.mk.inj run).1).1
  · rw [ran] at run
    obtain ⟨answer, rfl⟩ := Prod.mk.inj run
    obtain ⟨ok, rfl⟩ := Prod.mk.inj answer
    exact ⟨by rw [Option.some.inj ok], rfl⟩

/-- An attempt finds what its call returns. -/
theorem attempt_eq_some {c : Call} {summary : String} {x : c.Answer}
    (run : attempt c summary diagnostics env session = ((some (some x), reported), after)) :
    Operation.call c env session = (.ok x, after) := by
  rw [attempt_run] at run
  rcases called : Operation.call c env session with ⟨e | y, there⟩
  · rw [called] at run
    dsimp only at run
    split at run <;> cases (Prod.mk.inj (Prod.mk.inj run).1).1
  · rw [called] at run
    obtain ⟨answer, rfl⟩ := Prod.mk.inj run
    rw [Option.some.inj (Option.some.inj (Prod.mk.inj answer).1)]

end Run

/-! ### Honest requests -/

section Honest

variable {σ α β ε : Type} {x : Request σ α} {f : α → Request σ β}

/-- Where no error was recorded before, a request returns nothing exactly if it records one. It only
appends to what was reported. -/
def Honest (x : Request σ α) : Prop :=
  ∀ diagnostics env session, diagnostics.errors = [] → ∃ result errors warnings there,
    x diagnostics env session = ((result, ⟨diagnostics.errors ++ errors,
        diagnostics.warnings ++ warnings⟩), there) ∧
      (result = none ↔ errors ≠ [])

theorem honest_pure (a : α) : Honest (pure a : Request σ α) := by
  intro diagnostics env session _
  refine ⟨some a, [], [], session, ?_, by simp⟩
  rw [List.append_nil, List.append_nil]
  rfl

/-- To give up is honest right after an error. -/
theorem honest_failure (e : Diagnostic) : Honest (do error e; failure : Request σ α) := by
  intro diagnostics env session _
  refine ⟨none, [e], [], session, ?_, by simp⟩
  rw [List.append_nil]
  rfl

theorem honest_warn (warning : Diagnostic) : Honest (warn warning : Request σ Unit) := by
  intro diagnostics env session _
  refine ⟨some (), [], [warning], session, ?_, by simp⟩
  rw [List.append_nil]
  rfl

/-- Errors are honest if they are looked for once they are recorded. -/
theorem honest_checks (found : List Diagnostic) :
    Honest (do errors found; unlessErrors : Request σ Unit) := by
  intro diagnostics env session clean
  refine ⟨if (diagnostics.addErrors found).hasErrors then none else some (), found, [], session,
    ?_, ?_⟩
  · rw [checks_run, List.append_nil]
    rfl
  · simp [Diagnostics.hasErrors, Diagnostics.addErrors, clean]

theorem honest_orReport [ToString ε] (step : Operation σ (Except ε α)) (summary : String) :
    Honest (orReport step summary) := by
  intro diagnostics env session _
  rw [orReport_run]
  rcases step env session with ⟨e | a, there⟩
  · exact ⟨none, [.onRoot summary (toString e)], [], there, by simp [Diagnostics.error], by simp⟩
  · exact ⟨some a, [], [], there, by simp, by simp⟩

theorem honest_attempt (c : Call) (summary : String) :
    Honest (attempt c summary : Request σ (Option c.Answer)) := by
  intro diagnostics env session _
  rw [attempt_run]
  rcases Operation.call c env session with ⟨e | a, there⟩
  · cases missing : e.isNotFound
    · exact ⟨none, [.onRoot summary e.message], [], there, by simp [missing, Diagnostics.error],
        by simp⟩
    · exact ⟨some none, [], [], there, by simp [missing], by simp⟩
  · exact ⟨some (some a), [], [], there, by simp, by simp⟩

/-- Honest requests are honest one after the other: the second one runs only while there is no
error. -/
theorem Honest.bind (hx : x.Honest) (hf : ∀ a, (f a).Honest) : (x >>= f).Honest := by
  intro diagnostics env session clean
  obtain ⟨result, errors, warnings, there, ended, nothing⟩ := hx diagnostics env session clean
  rw [bind_run, ended]
  cases result with
  | none => exact ⟨none, errors, warnings, there, rfl, by simpa using nothing⟩
  | some a =>
      obtain rfl : errors = [] := by simpa using nothing
      obtain ⟨result, errors, more, there, ended, nothing⟩ :=
        hf a ⟨diagnostics.errors ++ [], diagnostics.warnings ++ warnings⟩ env there
          (by simpa using clean)
      refine ⟨result, errors, warnings ++ more, there, ?_, nothing⟩
      simpa using ended

theorem honest_awaitDeletion (c : Call) [Polled c.Answer] (timeout : Timeouts → Nat)
    (id summary : String) : Honest (awaitDeletion c timeout id summary : Request σ Unit) :=
  (honest_orReport _ _).bind fun _ => honest_pure _

end Honest

/-! ### Documents -/

/-- How many of the documents cannot be read. -/
def unreadable {S : Type} (codec : Codec S) (documents : List Document) : Nat :=
  documents.countP fun d => !(d.decode codec).isOk

section Documents

variable {σ α β S : Type} {x : Request σ α} {y : Request σ β} {f : α → Request σ β} {m n : Nat}

/-- A request that only reads: it leaves the session as it was, and records `count` errors. It fails
if there are any. -/
def Reads (count : Nat) (x : Request σ α) : Prop :=
  ∀ diagnostics env session, ∃ result errors,
    x diagnostics env session = ((result, diagnostics.addErrors errors), session) ∧
      errors.length = count ∧ (result = none ↔ errors ≠ [])

/-- An honest request that reads its documents first: if `count` of them cannot be read, it records
as many errors, leaves the session as it was, and returns nothing. -/
structure Accountable (count : Nat) (x : Request σ α) : Prop where
  honest : x.Honest
  givesUp : 0 < count → ∀ diagnostics env session, ∃ errors, errors.length = count ∧
    x diagnostics env session = ((none, diagnostics.addErrors errors), session)

/-- Reading a document leaves an error if it cannot be read. -/
theorem reads_decode (codec : Codec S) (document : Document) :
    Reads (unreadable codec [document]) (decode codec document : Request σ S) := by
  intro diagnostics env session
  rw [decode_run]
  rcases read : document.decode codec with e | a
  · exact ⟨none, [_], rfl, by simp [unreadable, read, Except.isOk, Except.toBool], by simp⟩
  · refine ⟨some a, [], ?_, by simp [unreadable, read, Except.isOk, Except.toBool], by simp⟩
    simp [Diagnostics.addErrors]

/-- Two requests that read leave the errors of both. -/
theorem Reads.both (hx : x.Reads m) (hy : y.Reads n) : (both x y).Reads (m + n) := by
  intro diagnostics env session
  obtain ⟨a, errors, endedX, rfl, nothingX⟩ := hx diagnostics env session
  obtain ⟨b, more, endedY, rfl, nothingY⟩ := hy (diagnostics.addErrors errors) env session
  refine ⟨a.bind fun a => b.map (a, ·), errors ++ more, ?_, by simp, ?_⟩
  · have together : (diagnostics.addErrors errors).addErrors more =
        diagnostics.addErrors (errors ++ more) := by
      simp only [Diagnostics.addErrors, List.append_assoc]
    rw [both_run, endedX]
    simp only [endedY, together]
  · cases a <;> cases b <;> simp_all

/-- A request that only reads is accountable. -/
theorem Reads.accountable (h : x.Reads n) : x.Accountable n where
  honest := by
    intro diagnostics env session _
    obtain ⟨result, errors, ended, -, nothing⟩ := h diagnostics env session
    refine ⟨result, errors, [], session, ?_, nothing⟩
    rw [ended, List.append_nil]
    rfl
  givesUp some diagnostics env session := by
    obtain ⟨result, errors, ended, rfl, nothing⟩ := h diagnostics env session
    obtain rfl : result = none := nothing.2 (List.length_pos_iff.1 some)
    exact ⟨errors, rfl, ended⟩

/-- What an accountable request goes on with has to be honest. -/
theorem Accountable.bind (hx : x.Accountable n) (hf : ∀ a, (f a).Honest) :
    (x >>= f).Accountable n where
  honest := hx.honest.bind hf
  givesUp some diagnostics env session := by
    obtain ⟨errors, count, ended⟩ := hx.givesUp some diagnostics env session
    refine ⟨errors, count, ?_⟩
    rw [bind_run, ended]

end Documents

end Request

/-! ### Services -/

open Request

section Services

variable {σ S : Type}

/-- Every operation of a resource keeps to the convention. -/
structure Resource.Honest (r : Resource σ S) : Prop where
  validate : ∀ config, (r.validate config).Honest
  read : ∀ state, (r.read state).Honest
  planCreate : ∀ proposed, (r.planCreate proposed).Honest
  planUpdate : ∀ prior proposed, (r.planUpdate prior proposed).Honest
  create : ∀ planned, (r.create planned).Honest
  update : ∀ prior planned, (r.update prior planned).Honest
  destroy : ∀ prior, (r.destroy prior).Honest
  adopt : ∀ id, (r.adopt id).Honest

/-- Every operation of a data source keeps to the convention. -/
structure DataSource.Honest (d : DataSource σ S) : Prop where
  validate : ∀ config, (d.validate config).Honest
  read : ∀ config, (d.read config).Honest

/-- Every operation of a resource answers for its documents. -/
structure ResourceService.Accountable (codec : Codec S) (service : ResourceService σ) : Prop where
  validate : ∀ config, (service.validate config).Accountable (unreadable codec [config])
  read : ∀ state, (service.read state).Accountable (unreadable codec [state])
  planCreate : ∀ proposed config,
    (service.planCreate proposed config).Accountable (unreadable codec [proposed, config])
  planUpdate : ∀ prior proposed config,
    (service.planUpdate prior proposed config).Accountable
      (unreadable codec [prior, proposed, config])
  create : ∀ planned config,
    (service.create planned config).Accountable (unreadable codec [planned, config])
  update : ∀ prior planned config,
    (service.update prior planned config).Accountable (unreadable codec [prior, planned, config])
  destroy : ∀ prior, (service.destroy prior).Accountable (unreadable codec [prior])
  adopt : ∀ id, (service.adopt id).Honest

/-- Every operation of a data source answers for its documents. -/
structure DataSourceService.Accountable (codec : Codec S) (service : DataSourceService σ) :
    Prop where
  validate : ∀ config, (service.validate config).Accountable (unreadable codec [config])
  read : ∀ config, (service.read config).Accountable (unreadable codec [config])

/-- Documents that are read one after the other count together. -/
theorem unreadable_cons (codec : Codec S) (document : Document) (rest : List Document) :
    unreadable codec (document :: rest) = unreadable codec [document] + unreadable codec rest := by
  rw [unreadable, ← List.singleton_append, List.countP_append]
  rfl

/-- Two documents of one codec. -/
theorem reads_two (codec : Codec S) (x y : Document) :
    Reads (unreadable codec [x, y])
      (both (decode codec x) (decode codec y) : Request σ (S × S)) := by
  rw [unreadable_cons]
  exact (reads_decode codec x).both (reads_decode codec y)

/-- Three documents of one codec. -/
theorem reads_three (codec : Codec S) (x y z : Document) :
    Reads (unreadable codec [x, y, z])
      (both (decode codec x) (both (decode codec y) (decode codec z)) : Request σ (S × S × S)) := by
  rw [unreadable_cons]
  exact (reads_decode codec x).both (reads_two codec y z)

/-- An honest resource answers for its documents. -/
theorem Resource.Honest.accountable {r : Resource σ S} (h : r.Honest) :
    r.service.Accountable r.codec where
  validate config := (reads_decode r.codec config).accountable.bind h.validate
  read state := (reads_decode r.codec state).accountable.bind fun state =>
    (h.read state).bind fun found => by
      cases found <;> exact honest_pure _
  planCreate proposed config := (reads_two r.codec proposed config).accountable.bind fun both =>
    (h.planCreate both.1).bind fun _ => honest_pure _
  planUpdate prior proposed config :=
    (reads_three r.codec prior proposed config).accountable.bind fun all =>
      (h.planUpdate all.1 all.2.1).bind fun _ => honest_pure _
  create planned config := (reads_two r.codec planned config).accountable.bind fun both =>
    (h.create both.1).bind fun _ => honest_pure _
  update prior planned config :=
    (reads_three r.codec prior planned config).accountable.bind fun all =>
      (h.update all.1 all.2.1).bind fun _ => honest_pure _
  destroy prior := (reads_decode r.codec prior).accountable.bind h.destroy
  adopt id := (h.adopt id).bind fun _ => honest_pure _

/-- An honest data source answers for its documents. -/
theorem DataSource.Honest.accountable {d : DataSource σ S} (h : d.Honest) :
    d.service.Accountable d.codec where
  validate config := (reads_decode d.codec config).accountable.bind h.validate
  read config := (reads_decode d.codec config).accountable.bind fun config =>
    (h.read config).bind fun _ => honest_pure _

end Services

end CloudProvision
