import BoundSql.Action

/-!
# Outcomes of actions

An action is known by its outcome: its result and the state after it.  An action that fails has a
state after it too, and what it has done before it failed stays done; this is the reason why an
outcome is a pair and not one of two.  The lemmas here read the outcome of a composed action off
those of its parts.

Beside outcomes there are three properties that sequences and loops inherit from their steps.

* `Action.Keeps` : the action leaves a part of the state alone, also when it fails.
* `Action.Respects` : the action does not tell related states apart.  It comes to the same result
  from both, and to states that are related again.
* `Action.Raises` : all errors of the action have a property.

None of them follows from another.  `Keeps` is about one run and `Respects` about two; and with a
relation that holds of all states `Respects` would say that the result does not depend on the state
at all, which says nothing about what becomes of the state.

The composite actions of this library are sequences of a few steps, so a proof about one of them
names the lemma for each step, in order, and has nothing else in it.  The lemmas on single steps are
simplification lemmas for the same reason.
-/

namespace BoundSql.Action

variable {σ τ α β : Type}

/-! ### Single steps -/

@[simp] theorem outcome_pure (a : α) (s : σ) : outcome (pure a) s = (.ok a, s) := rfl

@[simp] theorem outcome_throw (e : Error) (s : σ) :
    outcome (throw e : Action σ α) s = (.error e, s) := rfl

@[simp] theorem outcome_ofExcept (r : Except Error α) (s : σ) :
    outcome (ofExcept r) s = (r, s) := rfl

@[simp] theorem outcome_update (f : σ → σ) (s : σ) : outcome (update f) s = (.ok (), f s) := rfl

@[simp] theorem outcome_look (f : σ → α) (s : σ) : outcome (look f) s = (.ok (f s), s) := rfl

@[simp] theorem outcome_within (get : σ → τ) (set : σ → τ → σ) (a : Action τ α) (s : σ) :
    outcome (within get set a) s = ((outcome a (get s)).1, set s (outcome a (get s)).2) := rfl

@[simp] theorem outcome_attempt (a : Action σ α) (s : σ) :
    outcome (attempt a) s = (.ok (outcome a s).1, (outcome a s).2) := rfl

theorem outcome_pure_eq_ok_iff {a b : α} {s s' : σ} :
    outcome (pure a) s = (.ok b, s') ↔ a = b ∧ s = s' := by
  rw [outcome_pure, Prod.mk.injEq, Except.ok.injEq]

/-! ### Sequences -/

/-- A sequence ends with its first step if that fails, and goes on from the state after it
otherwise. -/
theorem outcome_bind (a : Action σ α) (f : α → Action σ β) (s : σ) :
    outcome (a >>= f) s =
      match (outcome a s).1 with
      | .ok x => outcome (f x) (outcome a s).2
      | .error e => (.error e, (outcome a s).2) := by
  show (ExceptT.bindCont f (outcome a s).1).run (outcome a s).2 = _
  cases (outcome a s).1 with
  | ok x => rfl
  | error e => rfl

/-- Behind a step that succeeds, a sequence goes on from the state and the result of the step. -/
theorem outcome_bind_of_ok {a : Action σ α} {f : α → Action σ β} {s s' : σ} {x : α}
    (h : outcome a s = (.ok x, s')) : outcome (a >>= f) s = outcome (f x) s' := by
  rw [outcome_bind, h]

/-- What becomes of a result makes no difference to the state. -/
theorem outcome_map (f : α → β) (a : Action σ α) (s : σ) :
    outcome (f <$> a) s = (f <$> (outcome a s).1, (outcome a s).2) := by
  rw [map_eq_pure_bind, outcome_bind]
  cases (outcome a s).1 <;> rfl

theorem outcome_look_bind (f : σ → α) (g : α → Action σ β) (s : σ) :
    outcome (look f >>= g) s = outcome (g (f s)) s := rfl

/-- A sequence succeeds exactly when both its steps do. -/
theorem outcome_bind_eq_ok_iff {a : Action σ α} {f : α → Action σ β} {s s' : σ} {y : β} :
    outcome (a >>= f) s = (.ok y, s') ↔
      ∃ x between, outcome a s = (.ok x, between) ∧ outcome (f x) between = (.ok y, s') := by
  constructor
  · intro h
    rw [outcome_bind] at h
    generalize outcome a s = first at h ⊢
    obtain ⟨_ | x, between⟩ := first
    · cases h
    · exact ⟨x, between, rfl, h⟩
  · rintro ⟨x, between, ha, hf⟩
    rw [outcome_bind_of_ok ha, hf]

/-- A sequence fails exactly when one of its steps does. -/
theorem outcome_bind_eq_error_iff {a : Action σ α} {f : α → Action σ β} {s : σ} {e : Error} :
    (outcome (a >>= f) s).1 = .error e ↔
      (outcome a s).1 = .error e ∨
        ∃ x between, outcome a s = (.ok x, between) ∧ (outcome (f x) between).1 = .error e := by
  rw [outcome_bind]
  generalize outcome a s = first
  obtain ⟨_ | x, between⟩ := first
  · refine ⟨fun fails => .inl (congrArg _ (Except.error.inj fails)), ?_⟩
    rintro (fails | ⟨x, between, ⟨⟩, -⟩)
    exact congrArg _ (Except.error.inj fails)
  · refine ⟨fun fails => .inr ⟨x, between, rfl, fails⟩, ?_⟩
    rintro (⟨⟨⟩⟩ | ⟨x, between, ⟨⟩, fails⟩)
    exact fails

/-- A loop fails exactly when it fails at one of the members, after it has succeeded on those
before.  What is behind the member makes no difference, because it is never reached. -/
theorem outcome_forM_eq_error_iff {f : α → Action σ Unit} {xs : List α} {s : σ} {e : Error} :
    (outcome (xs.forM f) s).1 = .error e ↔
      ∃ done x rest between, xs = done ++ x :: rest ∧
        outcome (done.forM f) s = (.ok (), between) ∧ (outcome (f x) between).1 = .error e := by
  constructor
  · intro fails
    induction xs generalizing s with
    | nil => cases fails
    | cons x xs ih =>
        rcases outcome_bind_eq_error_iff.mp fails with here | ⟨⟨⟩, between, first, later⟩
        · exact ⟨[], x, xs, s, rfl, rfl, here⟩
        · obtain ⟨done, y, rest, between', split, before, here⟩ := ih later
          exact ⟨x :: done, y, rest, between', congrArg (x :: ·) split,
            (outcome_bind_of_ok first).trans before, here⟩
  · rintro ⟨done, x, rest, between, rfl, before, here⟩
    -- back: the members done carry the induction, since it is they that move the state
    induction done generalizing s with
    | nil =>
        obtain rfl := (Prod.mk.inj before).2
        exact outcome_bind_eq_error_iff.mpr (.inl here)
    | cons y done ih =>
        obtain ⟨⟨⟩, between', first, others⟩ := outcome_bind_eq_ok_iff.mp before
        exact outcome_bind_eq_error_iff.mpr (.inr ⟨(), between', first, ih others⟩)

/-! ### What an action leaves alone -/

/-- The action leaves a part of the state as it is, whether it succeeds or fails.  The part is given
by a function of the state, so that it can be a field, a number of fields, or something that is read
off them. -/
def Keeps (part : σ → τ) (a : Action σ α) : Prop := ∀ s, part (outcome a s).2 = part s

namespace Keeps

variable {part : σ → τ}

theorem pure (a : α) : Keeps part (Pure.pure a : Action σ α) := fun _ => rfl

theorem throw (e : Error) : Keeps part (MonadExcept.throw e : Action σ α) := fun _ => rfl

theorem look (f : σ → α) : Keeps part (Action.look f) := fun _ => rfl

theorem ofExcept (r : Except Error α) : Keeps part (Action.ofExcept r) := fun _ => rfl

theorem update {f : σ → σ} (h : ∀ s, part (f s) = part s) : Keeps part (Action.update f) := h

/-- What a second step leaves alone is as the first step left it. -/
theorem after {f : α → Action σ β} (hf : ∀ x, Keeps part (f x)) (a : Action σ α) (s : σ) :
    part (outcome (a >>= f) s).2 = part (outcome a s).2 := by
  rw [outcome_bind]
  cases (outcome a s).1 with
  | error e => rfl
  | ok x => exact hf x _

theorem bind {a : Action σ α} {f : α → Action σ β} (ha : Keeps part a)
    (hf : ∀ x, Keeps part (f x)) : Keeps part (a >>= f) :=
  fun s => (after hf a s).trans (ha s)

/-- A loop leaves alone what each of its rounds does. -/
theorem forM {f : α → Action σ Unit} (h : ∀ a, Keeps part (f a)) (xs : List α) :
    Keeps part (xs.forM f) := by
  induction xs with
  | nil => exact pure ()
  | cons a xs ih => exact (h a).bind fun _ => ih

end Keeps

/-! ### What an action cannot tell apart -/

/-- From related states the action comes to the same result and to related states.  Where the
relation says that two states agree on what a reader of the statements can see, this says that the
action does not depend on the rest. -/
def Respects (R : σ → σ → Prop) (a : Action σ α) : Prop :=
  ∀ s t, R s t → (outcome a s).1 = (outcome a t).1 ∧ R (outcome a s).2 (outcome a t).2

namespace Respects

variable {R : σ → σ → Prop}

theorem pure (a : α) : Respects R (Pure.pure a : Action σ α) := fun _ _ h => ⟨rfl, h⟩

theorem throw (e : Error) : Respects R (MonadExcept.throw e : Action σ α) := fun _ _ h => ⟨rfl, h⟩

theorem ofExcept (r : Except Error α) : Respects R (Action.ofExcept r) := fun _ _ h => ⟨rfl, h⟩

theorem look {f : σ → α} (h : ∀ s t, R s t → f s = f t) : Respects R (Action.look f) :=
  fun s t related => ⟨congrArg Except.ok (h s t related), related⟩

theorem update {f : σ → σ} (h : ∀ s t, R s t → R (f s) (f t)) : Respects R (Action.update f) :=
  fun s t related => ⟨rfl, h s t related⟩

/-- Failing is a result like any other. -/
theorem attempt {a : Action σ α} (ha : Respects R a) : Respects R a.attempt :=
  fun s t related => ⟨congrArg Except.ok (ha s t related).1, (ha s t related).2⟩

theorem bind {a : Action σ α} {f : α → Action σ β} (ha : Respects R a)
    (hf : ∀ x, Respects R (f x)) : Respects R (a >>= f) := by
  intro s t related
  obtain ⟨same, after⟩ := ha s t related
  rw [outcome_bind, outcome_bind, ← same]
  cases (outcome a s).1 with
  | error e => exact ⟨rfl, after⟩
  | ok x => exact hf x _ _ after

theorem map {a : Action σ α} (ha : Respects R a) (f : α → β) : Respects R (f <$> a) := by
  rw [map_eq_pure_bind]
  exact ha.bind fun x => pure (f x)

/-- A list is worked off as each of its members is. -/
theorem mapM {f : α → Action σ β} (h : ∀ a, Respects R (f a)) (xs : List α) :
    Respects R (xs.mapM f) := by
  induction xs with
  | nil =>
      rw [List.mapM_nil]
      exact pure []
  | cons a xs ih =>
      rw [List.mapM_cons]
      exact (h a).bind fun y => ih.bind fun ys => pure (y :: ys)

theorem forM {f : α → Action σ Unit} (h : ∀ a, Respects R (f a)) (xs : List α) :
    Respects R (xs.forM f) := by
  induction xs with
  | nil => exact pure ()
  | cons a xs ih => exact (h a).bind fun _ => ih

end Respects

/-! ### What an action can raise -/

/-- All errors that the action fails with have the property.  It has to hold from every state, also
from those that the action is never run in, and so it can be proved without an invariant. -/
def Raises (P : Error → Prop) (a : Action σ α) : Prop :=
  ∀ s e, (outcome a s).1 = .error e → P e

namespace Raises

variable {P : Error → Prop}

theorem pure (a : α) : Raises P (Pure.pure a : Action σ α) := fun _ _ fails => nomatch fails

theorem throw {e : Error} (h : P e) : Raises P (MonadExcept.throw e : Action σ α) :=
  fun _ _ fails => Except.error.inj fails ▸ h

theorem ofExcept {r : Except Error α} (h : ∀ e, r = .error e → P e) :
    Raises P (Action.ofExcept r : Action σ α) := fun _ => h

theorem imp {Q : Error → Prop} {a : Action σ α} (ha : Raises P a) (h : ∀ e, P e → Q e) :
    Raises Q a := fun s e fails => h e (ha s e fails)

theorem look (f : σ → α) : Raises P (Action.look f) := fun _ _ fails => nomatch fails

theorem update (f : σ → σ) : Raises P (Action.update f) := fun _ _ fails => nomatch fails

theorem bind {a : Action σ α} {f : α → Action σ β} (ha : Raises P a)
    (hf : ∀ x, Raises P (f x)) : Raises P (a >>= f) := by
  intro s e fails
  rcases outcome_bind_eq_error_iff.mp fails with first | ⟨x, between, -, second⟩
  · exact ha s e first
  · exact hf x between e second

theorem map {a : Action σ α} (ha : Raises P a) (f : α → β) : Raises P (f <$> a) := by
  rw [map_eq_pure_bind]
  exact ha.bind fun x => pure (f x)

/-- A list is worked off with the errors of its members. -/
theorem mapM {f : α → Action σ β} (h : ∀ a, Raises P (f a)) (xs : List α) :
    Raises P (xs.mapM f) := by
  induction xs with
  | nil =>
      rw [List.mapM_nil]
      exact pure []
  | cons a xs ih =>
      rw [List.mapM_cons]
      exact (h a).bind fun y => ih.bind fun ys => pure (y :: ys)

theorem forM {f : α → Action σ Unit} (h : ∀ a, Raises P (f a)) (xs : List α) :
    Raises P (xs.forM f) := by
  induction xs with
  | nil => exact pure ()
  | cons a xs ih => exact (h a).bind fun _ => ih

theorem within {get : σ → τ} {set : σ → τ → σ} {a : Action τ α} (ha : Raises P a) :
    Raises P (Action.within get set a) := fun s e fails => ha (get s) e fails

/-- An error that a first step does not raise comes from the second. -/
theorem outcome_bind_eq_error_iff {a : Action σ α} {f : α → Action σ β} (ha : Raises P a) {s : σ}
    {e : Error} (other : ¬ P e) :
    (outcome (a >>= f) s).1 = .error e ↔
      ∃ x between, outcome a s = (.ok x, between) ∧ (outcome (f x) between).1 = .error e := by
  rw [Action.outcome_bind_eq_error_iff, or_iff_right fun first => other (ha s e first)]

end Raises

end BoundSql.Action
