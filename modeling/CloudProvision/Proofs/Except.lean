import Mathlib.Data.List.Forall2

/-!
# Computations that may fail

What is known of the parts of a computation that has succeeded, and of a list whose elements are
mapped one after the other up to the first that cannot be.
-/

namespace CloudProvision

variable {ε α β : Type}

/-- What follows a step of a computation that succeeds has succeeded too. -/
theorem bind_eq_ok {x : Except ε α} {f : α → Except ε β} {b : β}
    (h : x >>= f = .ok b) : ∃ a, x = .ok a ∧ f a = .ok b := by
  cases x with
  | error e => cases h
  | ok a => exact ⟨a, rfl, h⟩

/-- A computation whose result is changed succeeds with a result that is changed. -/
theorem map_eq_ok {x : Except ε α} {f : α → β} {b : β} (h : f <$> x = .ok b) :
    ∃ a, x = .ok a ∧ f a = b := by
  cases x with
  | error e => cases h
  | ok a => exact ⟨a, rfl, Except.ok.inj h⟩

/-- A computation with a result succeeds. -/
theorem eq_ok_of_toOption {x : Except ε α} {a : α} (h : x.toOption = some a) : x = .ok a := by
  cases x with
  | error e => cases h
  | ok a' => exact congrArg Except.ok (Option.some.inj h)

/-- A list is mapped if each of its elements can be. -/
theorem exists_mapM_eq_ok {f : α → Except ε β} {xs : List α}
    (h : ∀ x ∈ xs, ∃ y, f x = .ok y) : ∃ ys, xs.mapM f = .ok ys := by
  induction xs with
  | nil => exact ⟨[], rfl⟩
  | cons x xs ih =>
      obtain ⟨y, hy⟩ := h x List.mem_cons_self
      obtain ⟨ys, hys⟩ := ih fun x' hx' => h x' (List.mem_cons_of_mem _ hx')
      exact ⟨y :: ys, by rw [List.mapM_cons, hy, hys]; rfl⟩

/-- A list is mapped up to the first element that cannot be. -/
theorem mapM_eq_error {f : α → Except ε β} {before after : List α} {x : α} {e : ε}
    (mapped : ∀ y ∈ before, ∃ z, f y = .ok z) (failed : f x = .error e) :
    (before ++ x :: after).mapM f = .error e := by
  induction before with
  | nil =>
      rw [List.nil_append, List.mapM_cons, failed]
      rfl
  | cons y before ih =>
      obtain ⟨z, hz⟩ := mapped y List.mem_cons_self
      have rest := ih fun y' hy' => mapped y' (List.mem_cons_of_mem _ hy')
      rw [List.cons_append, List.mapM_cons, hz, rest]
      rfl

/-- An element of one of two related lists has a partner in the other. -/
theorem exists_of_forall₂ {R : α → β → Prop} {xs : List α} {ys : List β}
    (h : List.Forall₂ R xs ys) : ∀ y ∈ ys, ∃ x ∈ xs, R x y := by
  induction h with
  | nil => simp
  | cons first _ ih =>
      intro y hy
      rcases List.mem_cons.1 hy with rfl | hy
      · exact ⟨_, List.mem_cons_self, first⟩
      · obtain ⟨x, hx, related⟩ := ih y hy
        exact ⟨x, List.mem_cons_of_mem _ hx, related⟩

/-- A list is mapped when each of its elements is. -/
theorem mapM_eq_ok {f : α → Except ε β} {xs : List α} {ys : List β} :
    xs.mapM f = .ok ys ↔ List.Forall₂ (fun x y => f x = .ok y) xs ys := by
  induction xs generalizing ys with
  | nil =>
      rw [List.mapM_nil, List.forall₂_nil_left_iff]
      exact ⟨fun h => (Except.ok.inj h).symm, fun h => h ▸ rfl⟩
  | cons x xs ih =>
      rw [List.mapM_cons, List.forall₂_cons_left_iff]
      rcases hx : f x with e | y
      · refine ⟨fun h => ?_, fun ⟨y, _, h, _⟩ => ?_⟩
        · cases h
        · cases h
      · rcases hxs : xs.mapM f with e | rest
        · refine ⟨fun h => ?_, fun ⟨_, zs, _, h, _⟩ => ?_⟩
          · cases h
          · rw [ih.2 h] at hxs
            cases hxs
        · constructor
          · intro h
            obtain rfl := Except.ok.inj h
            exact ⟨y, rest, rfl, ih.1 hxs, rfl⟩
          · rintro ⟨_, zs, h, hzs, rfl⟩
            obtain rfl := Except.ok.inj h
            rw [ih.2 hzs] at hxs
            obtain rfl := Except.ok.inj hxs
            rfl

/-- Elements that are translated first are mapped with what `R` allows for each of them. -/
theorem exists_mapM_map {γ : Type} {R : α → γ → Prop} {xs : List α} {f : α → β}
    {g : β → Except ε γ} (h : ∀ x ∈ xs, ∃ z, g (f x) = .ok z ∧ R x z) :
    ∃ zs, (xs.map f).mapM g = .ok zs ∧ List.Forall₂ R xs zs := by
  induction xs with
  | nil => exact ⟨[], rfl, .nil⟩
  | cons x xs ih =>
      obtain ⟨z, hz, first⟩ := h x List.mem_cons_self
      obtain ⟨zs, hzs, rest⟩ := ih fun y hy => h y (List.mem_cons_of_mem x hy)
      refine ⟨z :: zs, ?_, .cons first rest⟩
      rw [List.map_cons, List.mapM_cons, hz, hzs]
      rfl

end CloudProvision
