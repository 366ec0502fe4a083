import CloudProvision.Host
import CloudProvision.MemoryCloud
import CloudProvision.Proofs.Cancellation
import CloudProvision.Proofs.Request

/-!
# The context of a provider over its life

A host configures its provider, takes and cancels tokens, and tells the provider to stop, in any
order. What the context is after that can be read off the history: the first configuration without
an error decides the settings, and a token is cancelled if it was cancelled on its own or the
provider was told to stop.

## Main definitions

* `Configuration.assess`: what a document says, or what is wrong with it.
* `Action`: what happens to a provider, with `firstSettings`, `taken` and `CancelledAlone` of a
  history.
* `Host.Configures`: how a host takes a configuration.

## Main results

* `Host.configures`: the first valid configuration counts, and others change nothing.
* `context_of_actions`: the context after any history.
-/

namespace CloudProvision

/-! ### Configurations -/

/-- The settings that the document of a configuration asks for, or what is wrong with it. -/
def Configuration.assess (config : Document) : Except (List Diagnostic) Settings :=
  match config.decode Configuration.codec with
  | .error e => .error [.onRoot "Invalid JSON document" e.message]
  | .ok c => if c.validate.isEmpty then .ok c.settings else .error c.validate

/-- The warning about a configuration that comes too late. -/
def Provider.alreadyConfigured : Diagnostic :=
  .short "Provider is already configured" .root

variable {σ : Type}

/-- A document is assessed, and settings are only recorded if there were none. -/
theorem Provider.configure_run (context : Context) (config : Document) (env : Environment σ)
    (session : Session σ) : Provider.configure context config .none env session =
      match Configuration.assess config with
      | .error errors => ((none, ⟨errors, []⟩), session)
      | .ok settings => match context.configured with
        | none => ((some { context with configured := some settings }, .none), session)
        | some _ => ((some context, ⟨[], [Provider.alreadyConfigured]⟩), session) := by
  rw [configure, checked, Request.bind_run, Request.bind_run, Request.decode_run,
    Configuration.assess]
  rcases config.decode Configuration.codec with e | c
  · rfl
  · dsimp only
    rcases errors : c.validate with - | ⟨first, rest⟩
    · obtain ⟨configured, stopped, tokens⟩ := context
      cases configured <;> rfl
    · rfl

/-- What is wrong with a document is at least one error. -/
theorem Configuration.errors_ne_nil {config : Document} {errors : List Diagnostic}
    (h : assess config = .error errors) : errors ≠ [] := by
  rw [assess] at h
  split at h
  · cases h
    exact List.cons_ne_nil _ _
  · next c _ =>
    split at h
    · cases h
    · next invalid =>
      cases h
      exact fun nil => invalid (nil ▸ rfl)

/-! ### Hosts -/

namespace Host

/-- The host after a request that calls nothing. -/
def idle (h : Host σ) (context : Context) : Host σ :=
  { h with context, session := { h.session with trace := [] } }

/-- How a host takes a configuration, given the settings that were recorded first. -/
structure Configures (api : Remote.Api σ) (h : Host σ) (first : Option Settings)
    (stopAt : Option Nat) (config : Document) : Prop where
  /-- What is wrong with it is reported, and nothing changes. -/
  rejected : ∀ errors, Configuration.assess config = .error errors → errors ≠ [] ∧
    h.configure api stopAt config = (⟨none, ⟨errors, []⟩, [], 0⟩, h.idle h.context)
  /-- The first settings are recorded. -/
  accepted : ∀ settings, Configuration.assess config = .ok settings → first = none →
    let context := { h.context with configured := some settings }
    h.configure api stopAt config = (⟨some context, .none, [], 0⟩, h.idle context)
  /-- Later ones are only warned about. -/
  late : ∀ settings, Configuration.assess config = .ok settings → first ≠ none →
    h.configure api stopAt config =
      (⟨some h.context, ⟨[], [Provider.alreadyConfigured]⟩, [], 0⟩, h.idle h.context)

variable (api : Remote.Api σ) (h : Host σ) (stopAt : Option Nat) (config : Document)

/-- A request that leaves the session as it finds it takes no time and calls nothing. -/
theorem run_still {α : Type} {request : Request σ α} {result : Option α}
    {diagnostics : Diagnostics}
    (still : ∀ env session, request .none env session = ((result, diagnostics), session)) :
    h.run api stopAt request = (⟨result, diagnostics, [], 0⟩, h.idle h.context) := by
  have run : request.run .none = request .none := rfl
  simp only [Host.run, run, still]
  rw [Nat.sub_self]
  rfl

/-- The first valid configuration counts, and others change nothing. -/
theorem configures : h.Configures api h.context.configured stopAt config := by
  have run := Provider.configure_run (σ := σ) h.context config
  constructor
  · intro errors wrong
    refine ⟨Configuration.errors_ne_nil wrong, ?_⟩
    rw [configure,
      h.run_still api stopAt fun env session => (run env session).trans (by rw [wrong])]
    rfl
  · intro settings valid first
    rw [configure, h.run_still api stopAt fun env session =>
      (run env session).trans (by rw [valid, first])]
    rfl
  · intro settings valid late
    obtain ⟨earlier, configured⟩ := Option.ne_none_iff_exists'.1 late
    rw [configure, h.run_still api stopAt fun env session =>
      (run env session).trans (by rw [valid, configured])]
    rfl

end Host

/-! ### Histories -/

/-- What happens to a provider. -/
inductive Action where
  | configure (stopAt : Option Nat) (config : Document)
  | takeToken
  | cancel (token : Token)
  | stop (instant : Nat)

/-- The settings of a valid configuration. -/
def Action.settings? : Action → Option Settings
  | .configure _ config => (Configuration.assess config).toOption
  | _ => none

/-- Whether a token is taken. -/
def Action.takes : Action → Bool
  | .takeToken => true
  | _ => false

/-- The settings of the first valid configuration. -/
def firstSettings (actions : List Action) : Option Settings :=
  actions.findSome? Action.settings?

/-- How many tokens were taken. -/
def taken (actions : List Action) : Nat :=
  actions.countP Action.takes

/-- A token was cancelled on its own, after it had been taken. -/
def CancelledAlone (actions : List Action) (i : Token) : Prop :=
  ∃ before after, actions = before ++ .cancel i :: after ∧ i < taken before

/-- What an action does to a context. -/
def Context.act (c : Context) : Action → Context
  | .configure _ config => match Configuration.assess config with
    | .ok settings => (c.configure settings).2
    | .error _ => c
  | .takeToken => c.takeToken.2
  | .cancel token => c.cancel token
  | .stop _ => c.stop

/-- What an action does to a host. -/
def Host.act (api : Remote.Api σ) (h : Host σ) : Action → Host σ
  | .configure stopAt config => (h.configure api stopAt config).2
  | .takeToken => { h with context := h.context.takeToken.2 }
  | .cancel token => { h with context := h.context.cancel token }
  | .stop instant => h.stop instant

/-- What an action does to the signals. -/
def Signals.act {κ τ : Type} (lib : TokenLibrary κ τ) (s : Signals κ τ) : Action → Signals κ τ
  | .configure _ _ => s
  | .takeToken => s.takeToken lib
  | .cancel token => s.cancel lib token
  | .stop _ => s.stop lib

/-- A host does to its context what an action says. -/
theorem Host.context_act (api : Remote.Api σ) (h : Host σ) (a : Action) :
    (h.act api a).context = h.context.act a := by
  cases a with
  | configure stopAt config =>
    have configures := h.configures api stopAt config
    rw [act, Context.act]
    rcases assessed : Configuration.assess config with errors | settings
    · rw [(configures.rejected errors assessed).2]
      rfl
    · dsimp only
      rw [Context.configure]
      rcases configured : h.context.configured with - | earlier
      · rw [configures.accepted settings assessed configured]
        rfl
      · rw [configures.late settings assessed (by simp [configured])]
        rfl
  | takeToken => rfl
  | cancel token => rfl
  | stop instant => rfl

/-! ### What a history says -/

/-- A token that was cancelled on its own stays so, and the last action may cancel one more. -/
theorem cancelledAlone_concat {past : List Action} {a : Action} {i : Token} :
    CancelledAlone (past ++ [a]) i ↔ CancelledAlone past i ∨ a = .cancel i ∧ i < taken past := by
  constructor
  · rintro ⟨before, after, split, taken⟩
    obtain ⟨rest, rfl, -⟩ | ⟨between, rfl, last⟩ := append_eq_append_cons split
    · exact .inl ⟨before, rest, rfl, taken⟩
    · obtain ⟨rfl, same⟩ | ⟨-, ⟨⟩⟩ := List.singleton_eq_append_iff.1 last
      rw [List.append_nil] at taken
      exact .inr ⟨(List.cons.inj same).1.symm, taken⟩
  · rintro (⟨before, after, rfl, taken⟩ | ⟨rfl, taken⟩)
    · exact ⟨before, after ++ [a], by simp, taken⟩
    · exact ⟨past, [], rfl, taken⟩

/-- The first valid configuration is an earlier one, or else the last action. -/
theorem firstSettings_concat {past : List Action} {a : Action} :
    firstSettings (past ++ [a]) = (firstSettings past).or a.settings? := by
  simp [firstSettings, List.findSome?_append]

/-- The tokens that were taken earlier, and the one that is taken last. -/
theorem taken_concat {past : List Action} {a : Action} :
    taken (past ++ [a]) = taken past + if a.takes then 1 else 0 := by
  simp [taken, List.countP_append, List.countP_singleton]

namespace Context

/-- The context is as the history says. -/
structure Follows (actions : List Action) (c : Context) : Prop where
  configured : c.configured = firstSettings actions
  stopped : c.stopped = true ↔ ∃ instant, .stop instant ∈ actions
  length : c.tokens.length = taken actions
  cancelled : ∀ i, c.tokens.getD i false = true ↔ CancelledAlone actions i

/-- A new context has no history. -/
theorem follows_new : new.Follows [] where
  configured := rfl
  stopped := by simp [new]
  length := rfl
  cancelled i := by simp [new, CancelledAlone]

variable {past : List Action} {c : Context}

/-- A configuration changes at most the settings, and those only once. -/
theorem act_configure (c : Context) (stopAt : Option Nat) (config : Document) :
    c.act (.configure stopAt config) =
      { c with configured := c.configured.or (Configuration.assess config).toOption } := by
  obtain ⟨configured, stopped, tokens⟩ := c
  rw [act]
  rcases Configuration.assess config with errors | settings <;> cases configured <;> rfl

/-- What an action does to the settings. -/
theorem configured_act (c : Context) (a : Action) :
    (c.act a).configured = c.configured.or a.settings? := by
  cases a with
  | configure stopAt config =>
    rw [act_configure]
    rfl
  | takeToken | cancel | stop => exact (Option.or_none).symm

/-- What an action does to the signal to stop. -/
theorem stopped_act (c : Context) (a : Action) :
    (c.act a).stopped = true ↔ c.stopped = true ∨ ∃ instant, a = .stop instant := by
  cases a with
  | configure stopAt config => simp [act_configure]
  | takeToken | cancel => simp [act, takeToken, cancel]
  | stop instant => simp [act, stop]

/-- What an action does to the number of tokens. -/
theorem length_act (c : Context) (a : Action) :
    (c.act a).tokens.length = c.tokens.length + if a.takes then 1 else 0 := by
  cases a with
  | configure stopAt config => simp [act_configure, Action.takes]
  | takeToken => simp [act, takeToken, Action.takes]
  | cancel token => simp [act, cancel, Action.takes]
  | stop instant => simp [act, stop, Action.takes]

/-- What an action does to the tokens that were cancelled on their own. -/
theorem getD_act (c : Context) (a : Action) (i : Token) : (c.act a).tokens.getD i false = true ↔
    c.tokens.getD i false = true ∨ a = .cancel i ∧ i < c.tokens.length := by
  cases a with
  | configure stopAt config => simp [act_configure]
  | takeToken =>
    rw [act, c.getD_takeToken i]
    simp
  | cancel token =>
    rw [act, c.getD_cancel token i]
    simp only [Bool.or_eq_true, decide_eq_true_eq, Action.cancel.injEq]
    exact or_congr_right (and_congr_right fun same => same ▸ Iff.rfl)
  | stop instant => simp [act, stop]

/-- What follows a history follows it with one more action. -/
theorem Follows.act (h : c.Follows past) (a : Action) : (c.act a).Follows (past ++ [a]) where
  configured := by rw [configured_act, firstSettings_concat, h.configured]
  stopped := by
    rw [stopped_act, h.stopped]
    simp [eq_comm, exists_or]
  length := by rw [length_act, taken_concat, h.length]
  cancelled i := by rw [getD_act, cancelledAlone_concat, h.cancelled, h.length]

end Context

/-- What agrees with a context agrees with it after any action. -/
theorem Signals.Agrees.act {κ τ : Type} {lib : TokenLibrary κ τ} {issued : κ → τ → Prop}
    {lineage : κ → τ → List τ} {s : Signals κ τ} {c : Context} (h : Agrees lib issued lineage s c)
    (lawful : lib.Lawful issued lineage) (a : Action) :
    Agrees lib issued lineage (s.act lib a) (c.act a) := by
  cases a with
  | configure stopAt config =>
    rw [Context.act_configure]
    exact { h with }
  | takeToken => exact h.takeToken lawful
  | cancel token => exact h.cancel lawful token
  | stop instant => exact h.stop lawful

/-! ### Runs -/

section Runs

variable {κ τ : Type} {lib : TokenLibrary κ τ} {issued : κ → τ → Prop} {lineage : κ → τ → List τ}

/-- A context follows its history. -/
theorem Host.follows_run (api : Remote.Api σ) {h : Host σ} {past : List Action}
    (follows : h.context.Follows past) (actions : List Action) :
    (actions.foldl (Host.act api) h).context.Follows (past ++ actions) := by
  induction actions generalizing h past with
  | nil => simpa using follows
  | cons a rest ih =>
    have next : (h.act api a).context.Follows (past ++ [a]) :=
      h.context_act api a ▸ follows.act a
    simpa using ih next

/-- The signals agree with the context throughout. -/
theorem Signals.agrees_run (lawful : lib.Lawful issued lineage) (api : Remote.Api σ)
    {s : Signals κ τ} {h : Host σ} (agrees : s.Agrees lib issued lineage h.context)
    (actions : List Action) :
    (actions.foldl (Signals.act lib) s).Agrees lib issued lineage
      (actions.foldl (Host.act api) h).context := by
  induction actions generalizing s h with
  | nil => exact agrees
  | cons a rest ih => exact ih (h.context_act api a ▸ agrees.act lawful a)

/-- After any history, the settings are those of the first valid configuration, and later ones do
not change them. A token is cancelled if it was cancelled on its own or the provider was told to
stop, before or after it was taken, and cancelling it cancels no other one. -/
theorem context_of_actions (lawful : lib.Lawful issued lineage) (pool : κ) (api : Remote.Api σ)
    (provider : String) (cloud : σ) (actions : List Action) :
    let host := actions.foldl (Host.act api) (.start provider cloud)
    let signals := actions.foldl (Signals.act lib) (.start lib pool)
    host.context.settings = (firstSettings actions).getD .default ∧
    (∀ stopAt config, host.Configures api (firstSettings actions) stopAt config) ∧
    signals.tokens.Nodup ∧ signals.tokens.length = taken actions ∧
    ∀ i token, signals.tokens[i]? = some token →
      lib.isCancelled signals.pool token = host.context.isCancelled i ∧
      (host.context.isCancelled i = true ↔
        (∃ instant, .stop instant ∈ actions) ∨ CancelledAlone actions i) ∧
      ∀ other ∈ signals.tokens, other ≠ token →
        lib.isCancelled (lib.cancel token signals.pool) other =
          lib.isCancelled signals.pool other := by
  intro host signals
  have follows : host.context.Follows actions :=
    Host.follows_run api (h := .start provider cloud) Context.follows_new actions
  have agrees : signals.Agrees lib issued lineage host.context :=
    Signals.agrees_run lawful api (Signals.agrees_start lawful pool) actions
  refine ⟨?settings, ?configures, agrees.distinct.of_cons, agrees.length.trans follows.length, ?_⟩
  case settings => rw [Context.settings, follows.configured]
  case configures =>
    intro stopAt config
    exact follows.configured ▸ host.configures api stopAt config
  intro i token at?
  refine ⟨agrees.token_isCancelled i token at?, ?_, fun other mem distinct => ?_⟩
  · rw [Context.isCancelled, Bool.or_eq_true, follows.stopped, follows.cancelled]
  · exact agrees.cancel_other lawful (List.mem_of_getElem? at?) (List.mem_cons_of_mem _ mem)
      distinct.symm

/-- A history in which the second configuration is the first valid one, and the first token is
cancelled. -/
def sampleHistory : List Action := [
  .takeToken,
  .configure none (.ofText "\x7b\"page_size\": 0\x7d"),
  .configure none (.ofText "\x7b\"page_size\": 50\x7d"),
  .cancel 0,
  .takeToken]

theorem context_of_actions_sample :
    let host := sampleHistory.foldl (Host.act MemoryCloud.api) (.start "cloud" .empty)
    let signals := sampleHistory.foldl (Signals.act Forest.library) (.start Forest.library [])
    let settings := { Settings.default with pageSize := 50 }
    Forest.library.Lawful (fun pool t => t < pool.length) (fun pool t => (pool.node t).lineage) ∧
    host.context.settings = settings ∧
    host.Configures MemoryCloud.api (some settings) none (.ofText "\x7b\"page_size\": 20\x7d") ∧
    signals.tokens = [1, 2] ∧ Forest.library.isCancelled signals.pool 1 = true ∧
    Forest.library.isCancelled signals.pool 2 = false := by
  have first : firstSettings sampleHistory = some { Settings.default with pageSize := 50 } := by
    decide +kernel
  have unstopped : ¬∃ instant, .stop instant ∈ sampleHistory := by simp [sampleHistory]
  have kept : ¬CancelledAlone sampleHistory 1 := by
    rintro ⟨before, after, split, -⟩
    have mem : .cancel 1 ∈ sampleHistory := split ▸ List.mem_append_right before List.mem_cons_self
    simp [sampleHistory] at mem
  obtain ⟨settings, configures, -, -, cancelled⟩ :=
    context_of_actions Forest.lawful_library [] MemoryCloud.api "cloud" .empty sampleHistory
  obtain ⟨firstSame, firstIff, -⟩ := cancelled 0 1 rfl
  obtain ⟨secondSame, secondIff, -⟩ := cancelled 1 2 rfl
  refine ⟨Forest.lawful_library, ?_, ?_, rfl, ?_, ?_⟩
  · rw [settings, first, Option.getD_some]
  · exact first ▸ configures none _
  · refine firstSame.trans (firstIff.2 (.inr ⟨sampleHistory.take 3, _, rfl, ?_⟩))
    exact Nat.one_pos
  · refine secondSame.trans (Bool.eq_false_iff.2 fun yes => ?_)
    exact (secondIff.1 yes).elim unstopped kept

end Runs

end CloudProvision
