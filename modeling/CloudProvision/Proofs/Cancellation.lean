import CloudProvision.Context
import Mathlib.Data.List.Nodup

/-!
# The tokens of a context

A context notes for each of its tokens whether it was cancelled. Behind it stands a library of
tokens that derive from one another: the signal to stop is a token, and the tokens of operations are
children of it. A library that keeps to its laws agrees with the notes of the context.

## Main definitions

* `TokenLibrary`: what a library offers, and `TokenLibrary.Lawful`: its laws.
* `Signals`: the signal to stop and the tokens of a context, as a library keeps them.
* `Signals.Agrees`: they are cancelled as a context notes.
* `Forest.library`: a library that keeps to the laws.

## Main results

* `Signals.Agrees.takeToken`, `Signals.Agrees.cancel`, `Signals.Agrees.stop`: what is done with a
  context and with its signals alike leaves them in agreement.
* `Signals.Agrees.cancel_other`: a token that is cancelled cancels no other one.
-/

namespace CloudProvision

/-! ### Contexts -/

namespace Context

variable (c : Context)

/-- A token that is taken was not cancelled on its own, and is noted behind the others. -/
theorem getD_takeToken (i : Token) :
    c.takeToken.2.tokens.getD i false = c.tokens.getD i false := by
  rw [takeToken]
  rcases Nat.lt_trichotomy i c.tokens.length with lt | rfl | gt
  · simp [List.getD_eq_getElem?_getD, List.getElem?_append_left lt]
  · simp [List.getD_eq_getElem?_getD]
  · have outside : (c.tokens ++ [false]).length ≤ i := by
      rw [List.length_append]
      exact gt
    rw [List.getD_eq_getElem?_getD, List.getD_eq_getElem?_getD, List.getElem?_eq_none outside,
      List.getElem?_eq_none (Nat.le_of_lt gt)]

/-- A token that was taken can be cancelled, and no other one is. -/
theorem getD_cancel (i j : Token) : (c.cancel i).tokens.getD j false =
    (c.tokens.getD j false || decide (i = j ∧ i < c.tokens.length)) := by
  rw [cancel, List.getD_eq_getElem?_getD, List.getD_eq_getElem?_getD, List.getElem?_set]
  by_cases same : i = j
  · subst same
    by_cases taken : i < c.tokens.length <;> simp [taken]
  · simp [same]

/-- A token that is taken changes nothing about the others. -/
theorem isCancelled_takeToken (i : Token) : c.takeToken.2.isCancelled i = c.isCancelled i :=
  congrArg (c.stopped || ·) (c.getD_takeToken i)

/-- A token that is cancelled cancels no other one. -/
theorem isCancelled_cancel (i j : Token) : (c.cancel i).isCancelled j =
    (c.isCancelled j || decide (i = j ∧ i < c.tokens.length)) :=
  (congrArg (c.stopped || ·) (c.getD_cancel i j)).trans (Bool.or_assoc ..).symm

/-- The signal to stop cancels every token. -/
theorem isCancelled_stop (i : Token) : c.stop.isCancelled i = true := rfl

end Context

/-! ### Libraries -/

/-- A library of tokens `τ` that can be cancelled. It keeps what it knows about them in a pool `κ`.
-/
structure TokenLibrary (κ τ : Type) where
  /-- Make a token that derives from no other one. -/
  new : κ → τ × κ
  /-- Make a child of a token. -/
  child : τ → κ → τ × κ
  cancel : τ → κ → κ
  isCancelled : κ → τ → Bool

/-- The laws of a library. Of a token that was issued, `lineage` lists the token and those that it
derives from. A child starts out as its parent is, and a token is cancelled together with those that
derive from it, and with no other one. -/
structure TokenLibrary.Lawful {κ τ : Type} (lib : TokenLibrary κ τ) (issued : κ → τ → Prop)
    (lineage : κ → τ → List τ) : Prop where
  new_issued : ∀ pool, issued (lib.new pool).2 (lib.new pool).1
  new_lineage : ∀ pool, lineage (lib.new pool).2 (lib.new pool).1 = [(lib.new pool).1]
  new_isCancelled : ∀ pool, lib.isCancelled (lib.new pool).2 (lib.new pool).1 = false
  child_fresh : ∀ pool parent, ¬issued pool (lib.child parent pool).1
  child_issued : ∀ pool parent, issued (lib.child parent pool).2 (lib.child parent pool).1
  child_lineage : ∀ pool parent, issued pool parent →
    lineage (lib.child parent pool).2 (lib.child parent pool).1 =
      (lib.child parent pool).1 :: lineage pool parent
  child_isCancelled : ∀ pool parent, issued pool parent →
    lib.isCancelled (lib.child parent pool).2 (lib.child parent pool).1 =
      lib.isCancelled pool parent
  child_kept : ∀ pool parent t, issued pool t → issued (lib.child parent pool).2 t ∧
    lineage (lib.child parent pool).2 t = lineage pool t ∧
    lib.isCancelled (lib.child parent pool).2 t = lib.isCancelled pool t
  cancel_kept : ∀ pool token t, issued pool t → issued (lib.cancel token pool) t ∧
    lineage (lib.cancel token pool) t = lineage pool t
  cancel_isCancelled : ∀ pool token t, issued pool t →
    (lib.isCancelled (lib.cancel token pool) t = true ↔
      lib.isCancelled pool t = true ∨ token ∈ lineage pool t)

/-! ### Signals -/

/-- The signal to stop and the tokens of a context, as a library keeps them. -/
structure Signals (κ τ : Type) where
  pool : κ
  /-- The signal to stop. -/
  root : τ
  /-- The tokens that were taken. -/
  tokens : List τ

namespace Signals

variable {κ τ : Type} (lib : TokenLibrary κ τ)

/-- The signals of a new context. -/
def start (pool : κ) : Signals κ τ :=
  ⟨(lib.new pool).2, (lib.new pool).1, []⟩

/-- Take a token: a child of the signal to stop. -/
def takeToken (s : Signals κ τ) : Signals κ τ :=
  { s with
    pool := (lib.child s.root s.pool).2
    tokens := s.tokens ++ [(lib.child s.root s.pool).1] }

/-- Cancel one token. -/
def cancel (s : Signals κ τ) (token : Token) : Signals κ τ :=
  match s.tokens[token]? with
  | some t => { s with pool := lib.cancel t s.pool }
  | none => s

/-- Give the signal to stop. -/
def stop (s : Signals κ τ) : Signals κ τ :=
  { s with pool := lib.cancel s.root s.pool }

variable {lib} {issued : κ → τ → Prop} {lineage : κ → τ → List τ}

/-- The signals are those of a context: its tokens are children of the signal to stop, and each is
cancelled if the context says so. -/
structure Agrees (lib : TokenLibrary κ τ) (issued : κ → τ → Prop) (lineage : κ → τ → List τ)
    (s : Signals κ τ) (c : Context) : Prop where
  root_issued : issued s.pool s.root
  root_lineage : lineage s.pool s.root = [s.root]
  root_isCancelled : lib.isCancelled s.pool s.root = c.stopped
  distinct : (s.root :: s.tokens).Nodup
  length : s.tokens.length = c.tokens.length
  token_issued : ∀ t ∈ s.tokens, issued s.pool t
  token_lineage : ∀ t ∈ s.tokens, lineage s.pool t = [t, s.root]
  token_isCancelled : ∀ i t, s.tokens[i]? = some t → lib.isCancelled s.pool t = c.isCancelled i

/-- The signals of a new context are its own. -/
theorem agrees_start (lawful : lib.Lawful issued lineage) (pool : κ) :
    Agrees lib issued lineage (start lib pool) .new where
  root_issued := lawful.new_issued pool
  root_lineage := lawful.new_lineage pool
  root_isCancelled := lawful.new_isCancelled pool
  distinct := List.nodup_singleton _
  length := rfl
  token_issued := nofun
  token_lineage := nofun
  token_isCancelled := nofun

variable {s : Signals κ τ} {c : Context}

/-- The token that is taken next. -/
theorem getElem?_takeToken {i : Nat} {t : τ} (at? : (s.takeToken lib).tokens[i]? = some t) :
    s.tokens[i]? = some t ∨ i = s.tokens.length ∧ t = (lib.child s.root s.pool).1 := by
  rw [Signals.takeToken, List.getElem?_append] at at?
  split at at?
  · exact .inl at?
  · next outside =>
    rw [List.getElem?_singleton] at at?
    split at at?
    · exact .inr ⟨by omega, (Option.some.inj at?).symm⟩
    · cases at?

/-- A token that is taken is a new child, and is cancelled if the provider was told to stop. -/
theorem Agrees.takeToken (h : Agrees lib issued lineage s c) (lawful : lib.Lawful issued lineage) :
    Agrees lib issued lineage (s.takeToken lib) c.takeToken.2 := by
  let new := (lib.child s.root s.pool).1
  have kept := lawful.child_kept s.pool s.root
  obtain ⟨rootIssued, rootLineage, rootIsCancelled⟩ := kept s.root h.root_issued
  have newLineage := lawful.child_lineage s.pool s.root h.root_issued
  have newIsCancelled := lawful.child_isCancelled s.pool s.root h.root_issued
  have issuedBefore : ∀ t ∈ s.root :: s.tokens, issued s.pool t :=
    List.forall_mem_cons.2 ⟨h.root_issued, h.token_issued⟩
  have fresh : new ∉ s.root :: s.tokens := fun mem =>
    lawful.child_fresh s.pool s.root (issuedBefore new mem)
  constructor
  case root_issued => exact rootIssued
  case root_lineage => exact rootLineage.trans h.root_lineage
  case root_isCancelled => exact rootIsCancelled.trans h.root_isCancelled
  case distinct => simpa [Signals.takeToken] using h.distinct.concat fresh
  case length => simp [Signals.takeToken, Context.takeToken, h.length]
  case token_issued =>
    refine List.forall_mem_append.2 ⟨fun t ht => (kept t (h.token_issued t ht)).1, ?_⟩
    exact List.forall_mem_singleton.2 (lawful.child_issued s.pool s.root)
  case token_lineage =>
    refine List.forall_mem_append.2 ⟨fun t ht => ?_, List.forall_mem_singleton.2 ?_⟩
    · exact (kept t (h.token_issued t ht)).2.1.trans (h.token_lineage t ht)
    · exact newLineage.trans (congrArg _ h.root_lineage)
  case token_isCancelled =>
    intro i t at?
    rw [Context.isCancelled_takeToken]
    obtain before | ⟨rfl, rfl⟩ := getElem?_takeToken at?
    · have taken := h.token_issued t (List.mem_of_getElem? before)
      exact (kept t taken).2.2.trans (h.token_isCancelled i t before)
    · have unmarked : c.isCancelled s.tokens.length = c.stopped := by
        rw [Context.isCancelled, h.length]
        simp
      exact newIsCancelled.trans (h.root_isCancelled.trans unmarked.symm)

/-- Cancelling a token cancels no other one, and not the signal to stop. -/
theorem Agrees.cancel_other (h : Agrees lib issued lineage s c)
    (lawful : lib.Lawful issued lineage) {t u : τ} (ht : t ∈ s.tokens) (hu : u ∈ s.root :: s.tokens)
    (other : t ≠ u) : lib.isCancelled (lib.cancel t s.pool) u = lib.isCancelled s.pool u := by
  have apart : t ≠ s.root := fun eq => (List.nodup_cons.1 h.distinct).1 (eq ▸ ht)
  have unrelated : issued s.pool u ∧ t ∉ lineage s.pool u := by
    rcases List.mem_cons.1 hu with rfl | hu
    · exact ⟨h.root_issued, by simp [h.root_lineage, apart]⟩
    · exact ⟨h.token_issued u hu, by simp [h.token_lineage u hu, apart, other]⟩
  rw [Bool.eq_iff_iff, lawful.cancel_isCancelled s.pool t u unrelated.1]
  exact or_iff_left unrelated.2

/-- What is left to show where a token was cancelled is which tokens are cancelled then: they are
issued, and derive from the same ones. -/
theorem Agrees.of_isCancelled (h : Agrees lib issued lineage s c)
    (lawful : lib.Lawful issued lineage) {t : τ} {c' : Context}
    (length : c'.tokens.length = c.tokens.length)
    (root : lib.isCancelled (lib.cancel t s.pool) s.root = c'.stopped)
    (tokens : ∀ i u, s.tokens[i]? = some u →
      lib.isCancelled (lib.cancel t s.pool) u = c'.isCancelled i) :
    Agrees lib issued lineage { s with pool := lib.cancel t s.pool } c' := by
  have kept := lawful.cancel_kept s.pool t
  constructor
  case root_issued => exact (kept s.root h.root_issued).1
  case root_lineage => exact (kept s.root h.root_issued).2.trans h.root_lineage
  case root_isCancelled => exact root
  case distinct => exact h.distinct
  case length => exact h.length.trans length.symm
  case token_issued => exact fun u hu => (kept u (h.token_issued u hu)).1
  case token_lineage =>
    exact fun u hu => (kept u (h.token_issued u hu)).2.trans (h.token_lineage u hu)
  case token_isCancelled => exact tokens

/-- A token can be cancelled alone. -/
theorem Agrees.cancel (h : Agrees lib issued lineage s c) (lawful : lib.Lawful issued lineage)
    (token : Token) : Agrees lib issued lineage (s.cancel lib token) (c.cancel token) := by
  rcases at? : s.tokens[token]? with - | t
  · have untaken : c.cancel token = c := by
      rw [Context.cancel, List.set_eq_of_length_le]
      rw [← h.length]
      exact List.getElem?_eq_none_iff.1 at?
    rwa [Signals.cancel, at?, untaken]
  · have ht : t ∈ s.tokens := List.mem_of_getElem? at?
    have taken : token < c.tokens.length := h.length ▸ (List.getElem?_eq_some_iff.1 at?).1
    rw [Signals.cancel, at?]
    refine h.of_isCancelled lawful (by simp [Context.cancel]) ?root fun i u uAt => ?_
    case root =>
      refine (h.cancel_other lawful ht List.mem_cons_self fun eq => ?_).trans h.root_isCancelled
      exact (List.nodup_cons.1 h.distinct).1 (eq ▸ ht)
    have hu : u ∈ s.tokens := List.mem_of_getElem? uAt
    rw [Context.isCancelled_cancel, ← h.token_isCancelled i u uAt]
    by_cases same : t = u
    · subst same
      have position : token = i :=
        (List.getElem?_inj (h.length ▸ taken) h.distinct.of_cons).1 (at?.trans uAt.symm)
      rw [decide_eq_true ⟨position, taken⟩, Bool.or_true]
      exact (lawful.cancel_isCancelled _ _ _ (h.token_issued t ht)).2
        (.inr (by simp [h.token_lineage t ht]))
    · have position : token ≠ i := fun eq =>
        same (Option.some.inj (at?.symm.trans (eq ▸ uAt)))
      rw [decide_eq_false fun both => position both.1, Bool.or_false]
      exact h.cancel_other lawful ht (List.mem_cons_of_mem _ hu) same

/-- The signal to stop cancels every token. -/
theorem Agrees.stop (h : Agrees lib issued lineage s c) (lawful : lib.Lawful issued lineage) :
    Agrees lib issued lineage (s.stop lib) c.stop := by
  have all (t : τ) (issued : issued s.pool t) (derives : s.root ∈ lineage s.pool t) :
      lib.isCancelled (lib.cancel s.root s.pool) t = true :=
    (lawful.cancel_isCancelled _ _ _ issued).2 (.inr derives)
  refine h.of_isCancelled lawful rfl (all s.root h.root_issued (by simp [h.root_lineage])) ?_
  intro i t at?
  have ht : t ∈ s.tokens := List.mem_of_getElem? at?
  rw [Context.isCancelled_stop]
  exact all t (h.token_issued t ht) (by simp [h.token_lineage t ht])

end Signals

/-! ### A library -/

/-- What a forest of tokens knows of one of them. -/
structure Forest.Node where
  /-- The token, and those that it derives from. -/
  lineage : List Nat
  isCancelled : Bool
  deriving DecidableEq

/-- A forest of tokens, which are numbered as they are made. -/
abbrev Forest := List Forest.Node

namespace Forest

/-- What is known of a token. -/
def node (pool : Forest) (token : Nat) : Node :=
  pool.getD token ⟨[], false⟩

/-- What is known of a new child. -/
def childOf (pool : Forest) (parent : Nat) : Node :=
  { node pool parent with lineage := pool.length :: (node pool parent).lineage }

/-- What is known of a token after one was cancelled. -/
def Node.cancelledBy (token : Nat) (node : Node) : Node :=
  { node with isCancelled := node.isCancelled || decide (token ∈ node.lineage) }

/-- A library in which each token notes what it derives from. -/
def library : TokenLibrary Forest Nat where
  new pool := (pool.length, pool ++ [⟨[pool.length], false⟩])
  child parent pool := (pool.length, pool ++ [childOf pool parent])
  cancel token pool := pool.map (Node.cancelledBy token)
  isCancelled pool token := (node pool token).isCancelled

variable {pool : Forest} {t : Nat}

/-- A token that is made last is the last one. -/
theorem node_append_self (new : Node) : node (pool ++ [new]) pool.length = new := by
  simp [node, List.getD_eq_getElem?_getD]

/-- A new token changes nothing about the others. -/
theorem node_append (new : Node) (old : t < pool.length) :
    node (pool ++ [new]) t = node pool t := by
  simp [node, List.getD_eq_getElem?_getD, List.getElem?_append_left old]

/-- Cancelling a token changes what is known of each. -/
theorem node_map {f : Node → Node} (old : t < pool.length) :
    node (pool.map f) t = f (node pool t) := by
  simp [node, List.getD_eq_getElem?_getD, List.getElem?_eq_getElem old]

/-- The library keeps to the laws. -/
theorem lawful_library : library.Lawful (fun pool t => t < pool.length)
    fun pool t => (node pool t).lineage where
  new_issued _ := by simp [library]
  new_lineage _ := by simp [library, node_append_self]
  new_isCancelled _ := by simp [library, node_append_self]
  child_fresh _ _ := by simp [library]
  child_issued _ _ := by simp [library]
  child_lineage _ _ _ := by simp [library, node_append_self, childOf]
  child_isCancelled _ _ _ := by simp [library, node_append_self, childOf]
  child_kept _ _ _ old := by simp [library, node_append _ old, Nat.lt_succ_of_lt old]
  cancel_kept _ _ _ old := by simp [library, node_map old, old, Node.cancelledBy]
  cancel_isCancelled _ _ _ old := by simp [library, node_map old, Node.cancelledBy]

end Forest

end CloudProvision
