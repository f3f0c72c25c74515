import Mathlib.Data.List.Forall2
import BoundSql.Error

/-!
# Results of computations that may fail

A builder is rendered step by step, and the first step that fails decides.  The lemmas here take
such a computation apart: it succeeds exactly when every step of it does, with the results it was
continued with.  They are stated as equivalences, so that one lemma serves both to use a success
that is given and to establish one.

## Two readings of a computation

A theorem about what is rendered starts from a success.  It uses the first part of this module: the
success of a whole computation is turned into the successes of its steps (`bind_eq_ok_iff`), and
that of a list into those of its members (`mapM_eq_ok_iff`, with `List.Forall₂` to keep members and
results in step).

A theorem about what is refused starts from a failure, and it is the wrong move there to take the
computation apart: a failure can come from any step, and the cases multiply.  What is proved of
errors is therefore a property that all of them have, `FailsWith`.  It goes through a computation
from the outside in, one lemma for each way of composing two steps, and nothing has to be known of
the step that failed but that it was one of them.

* `bind_eq_ok_iff`, `mapM_eq_ok_iff`, `filterM_cons` : taking successes apart.
* `FailsWith` : what all errors of a computation have in common.
-/

namespace BoundSql

variable {ε α β : Type}

/-- Two steps succeed exactly when the first does, and the second does with its result. -/
theorem bind_eq_ok_iff {x : Except ε α} {f : α → Except ε β} {b : β} :
    (x >>= f) = .ok b ↔ ∃ a, x = .ok a ∧ f a = .ok b := by
  cases x with
  | error e => simp [bind, Except.bind]
  | ok a => simp [bind, Except.bind]

theorem map_eq_ok_iff {x : Except ε α} {f : α → β} {b : β} :
    (f <$> x) = .ok b ↔ ∃ a, x = .ok a ∧ f a = b := by
  cases x with
  | error e => simp [Functor.map, Except.map]
  | ok a => simp [Functor.map, Except.map]

theorem pure_eq_ok_iff {a b : α} : (pure a : Except ε α) = .ok b ↔ a = b := by
  simp [pure, Except.pure]

/-- Saying an error in other words makes no difference to a success. -/
theorem mapError_eq_ok_iff {δ : Type} {x : Except ε α} {f : ε → δ} {a : α} :
    x.mapError f = .ok a ↔ x = .ok a := by
  cases x with
  | error e => simp [Except.mapError]
  | ok b => simp [Except.mapError]

/-- Two steps fail with the error of the first, or with that of the second if the first succeeds. -/
theorem bind_eq_error_iff {x : Except ε α} {f : α → Except ε β} {e : ε} :
    (x >>= f) = .error e ↔ x = .error e ∨ ∃ a, x = .ok a ∧ f a = .error e := by
  cases x with
  | error e' => simp [bind, Except.bind]
  | ok a => simp [bind, Except.bind]

theorem map_eq_error_iff {x : Except ε α} {f : α → β} {e : ε} :
    (f <$> x) = .error e ↔ x = .error e := by
  cases x with
  | error e' => simp [Functor.map, Except.map]
  | ok a => simp [Functor.map, Except.map]

/-- A list is worked off exactly when each of its members is.  The relation on the right keeps every
result beside its member, which a statement about membership would lose. -/
theorem mapM_eq_ok_iff {f : α → Except ε β} {xs : List α} {ys : List β} :
    xs.mapM f = .ok ys ↔ List.Forall₂ (fun x y => f x = .ok y) xs ys := by
  induction xs generalizing ys with
  | nil =>
      rw [List.mapM_nil, pure_eq_ok_iff, List.forall₂_nil_left_iff]
      exact eq_comm
  | cons x xs ih =>
      rw [List.mapM_cons, bind_eq_ok_iff]
      constructor
      · rintro ⟨y, hx, hxs⟩
        obtain ⟨ys', hxs, same⟩ := bind_eq_ok_iff.mp hxs
        rw [← pure_eq_ok_iff.mp same]
        exact .cons hx (ih.mp hxs)
      · rintro (_ | ⟨hx, hxs⟩)
        exact ⟨_, hx, bind_eq_ok_iff.mpr ⟨_, ih.mpr hxs, rfl⟩⟩

/-- A list that is not worked off has a member that is not.  Nothing is said of the other members:
which of them are reached depends on the order, and no theorem about errors needs it. -/
theorem exists_of_mapM_eq_error {f : α → Except ε β} {xs : List α} {e : ε}
    (h : xs.mapM f = .error e) : ∃ x ∈ xs, f x = .error e := by
  induction xs with
  | nil => cases h
  | cons x xs ih =>
      rw [List.mapM_cons, bind_eq_error_iff] at h
      rcases h with here | ⟨y, -, h⟩
      · exact ⟨x, .head _, here⟩
      · rcases bind_eq_error_iff.mp h with later | ⟨ys, -, h⟩
        · obtain ⟨x', mem, here⟩ := ih later
          exact ⟨x', .tail _ mem, here⟩
        · cases h

/-- A list that cannot be folded has a member at which it fails. -/
theorem exists_of_foldlM_eq_error {f : β → α → Except ε β} {xs : List α} {b : β} {e : ε}
    (h : xs.foldlM f b = .error e) : ∃ x ∈ xs, ∃ b, f b x = .error e := by
  induction xs generalizing b with
  | nil => cases h
  | cons x xs ih =>
      rw [List.foldlM_cons] at h
      rcases bind_eq_error_iff.mp h with here | ⟨b', -, later⟩
      · exact ⟨x, .head _, b, here⟩
      · obtain ⟨x', mem, here⟩ := ih later
        exact ⟨x', .tail _ mem, here⟩

/-- A changed list is worked off as the list is, if every changed member is.  This is how a change
of the builders that leaves the outcome as it is, a renaming for example, is carried through a
list. -/
theorem mapM_map_eq {ε α β γ δ : Type} {f : α → Except ε β} {g : γ → Except ε δ} {change : α → γ}
    {result : β → δ} (same : ∀ a, g (change a) = result <$> f a) (xs : List α) :
    (xs.map change).mapM g = List.map result <$> xs.mapM f := by
  induction xs with
  | nil => rfl
  | cons a xs ih =>
      rw [List.map_cons, List.mapM_cons, List.mapM_cons, same, ih]
      simp only [map_eq_pure_bind, bind_assoc, pure_bind, List.map_cons]

/-- A list is worked off with other results. -/
theorem mapM_result_eq {γ : Type} {f : α → Except ε β} {result : β → γ} (xs : List α) :
    xs.mapM (fun a => result <$> f a) = List.map result <$> xs.mapM f := by
  have all : (xs.map f).mapM (Functor.map result) = List.map result <$> xs.mapM f :=
    mapM_map_eq (fun _ => rfl) xs
  rwa [List.mapM_map] at all

/-- Results that are worked off in turn. -/
theorem mapM_bind_of_ok {γ : Type} {f : α → Except ε β} {g : β → Except ε γ} {xs : List α}
    {ys : List β} {zs : List γ} (hf : xs.mapM f = .ok ys) (hg : ys.mapM g = .ok zs) :
    xs.mapM (fun x => f x >>= g) = .ok zs := by
  rw [mapM_eq_ok_iff] at hf hg ⊢
  induction hf generalizing zs with
  | nil => exact List.forall₂_nil_left_iff.mpr (List.forall₂_nil_left_iff.mp hg)
  | cons first _ ih =>
      obtain ⟨z, zs, second, rest, rfl⟩ := List.forall₂_cons_left_iff.mp hg
      exact .cons (bind_eq_ok_iff.mpr ⟨_, first, second⟩) (ih rest)

/-- Every result of a list comes from one of its members. -/
theorem exists_of_mem_mapM {f : α → Except ε β} {xs : List α} {ys : List β}
    (h : xs.mapM f = .ok ys) {y : β} (mem : y ∈ ys) : ∃ x ∈ xs, f x = .ok y := by
  have results := mapM_eq_ok_iff.mp h
  clear h
  induction results with
  | nil => cases mem
  | cons hx _ ih =>
      rcases List.mem_cons.mp mem with rfl | mem
      · exact ⟨_, List.mem_cons_self, hx⟩
      · obtain ⟨x, hmem, hx⟩ := ih mem
        exact ⟨x, .tail _ hmem, hx⟩

/-- A member at a position has its result at that position. -/
theorem getElem?_of_mapM {f : α → Except ε β} {xs : List α} {ys : List β}
    (h : xs.mapM f = .ok ys) {k : Nat} {x : α} (at? : xs[k]? = some x) :
    ∃ y, ys[k]? = some y ∧ f x = .ok y := by
  obtain ⟨same, each⟩ := List.forall₂_iff_get.mp (mapM_eq_ok_iff.mp h)
  obtain ⟨hk, rfl⟩ := List.getElem?_eq_some_iff.mp at?
  exact ⟨ys[k], List.getElem?_eq_getElem (same ▸ hk), each k hk (same ▸ hk)⟩

/-- Every member of a list that is worked off has its result. -/
theorem exists_result_of_mem {f : α → Except ε β} {xs : List α} {ys : List β}
    (h : xs.mapM f = .ok ys) {x : α} (mem : x ∈ xs) : ∃ y ∈ ys, f x = .ok y := by
  obtain ⟨k, at?⟩ := List.mem_iff_getElem?.mp mem
  obtain ⟨y, result, hy⟩ := getElem?_of_mapM h at?
  exact ⟨y, List.mem_of_getElem? result, hy⟩

/-- What is known of the result of every member is known of the results in order. -/
theorem map_eq_map_of_mapM {γ : Type} {f : α → Except ε β} {g : α → γ} {k : β → γ}
    {xs : List α} {ys : List β} (h : xs.mapM f = .ok ys)
    (known : ∀ x ∈ xs, ∀ y, f x = .ok y → k y = g x) : ys.map k = xs.map g := by
  have results := mapM_eq_ok_iff.mp h
  clear h
  induction results with
  | nil => rfl
  | cons first _ ih =>
      rw [List.map_cons, ih fun x mem => known x (.tail _ mem), known _ List.mem_cons_self _ first]
      rfl

/-- A list whose results are known is worked off to these. -/
theorem eq_map_of_mapM {f : α → Except ε β} {g : α → β} {xs : List α} {ys : List β}
    (h : xs.mapM f = .ok ys) (known : ∀ x ∈ xs, ∀ y, f x = .ok y → y = g x) : ys = xs.map g :=
  (List.map_id ys).symm.trans (map_eq_map_of_mapM (k := id) h known)

/-- A list is searched through in order.  The library defines the search by an accumulator that is
reversed in the end; this equation is the only place where that is seen. -/
theorem filterM_cons {p : α → Except ε Bool} (x : α) (xs : List α) :
    (x :: xs).filterM p = do
      let keeps ← p x
      let kept ← xs.filterM p
      return if keeps then x :: kept else kept := by
  -- the search collects what it keeps in reverse
  have collected : ∀ (xs found : List α),
      xs.filterAuxM p found = (· ++ found) <$> xs.filterAuxM p [] := by
    intro xs
    induction xs with
    | nil => exact fun found => rfl
    | cons x xs ih =>
        intro found
        rw [List.filterAuxM, List.filterAuxM, map_bind]
        refine bind_congr fun keeps => ?_
        cases keeps with
        | false => exact ih found
        | true =>
            show xs.filterAuxM p (x :: found) = _ <$> xs.filterAuxM p [x]
            rw [ih (x :: found), ih [x]]
            cases xs.filterAuxM p [] <;> simp [Functor.map, Except.map]
  rw [List.filterM, List.filterM, List.filterAuxM, bind_assoc]
  refine bind_congr fun keeps => ?_
  cases keeps with
  | false =>
      show (xs.filterAuxM p [] >>= _) = _
      cases xs.filterAuxM p [] <;> rfl
  | true =>
      show (xs.filterAuxM p [x] >>= _) = _
      rw [collected xs [x]]
      cases xs.filterAuxM p [] with
      | error e => rfl
      | ok found => exact congrArg Except.ok List.reverse_concat

/-- A changed list is searched through as the list is, if the search does not see the change. -/
theorem filterM_map_eq {p : α → Except ε Bool} {q : β → Except ε Bool}
    {change : α → β} (same : ∀ a, q (change a) = p a) (xs : List α) :
    (xs.map change).filterM q = List.map change <$> xs.filterM p := by
  induction xs with
  | nil => rfl
  | cons a xs ih =>
      rw [List.map_cons, filterM_cons, filterM_cons, same, ih]
      simp only [map_eq_pure_bind, bind_assoc, pure_bind]
      refine bind_congr fun keeps => bind_congr fun kept => ?_
      cases keeps <;> rfl

/-- What is kept of a list are the members that pass the test. -/
theorem mem_filterM_iff {p : α → Except ε Bool} {xs ys : List α}
    (h : xs.filterM p = .ok ys) {x : α} : x ∈ ys ↔ x ∈ xs ∧ p x = .ok true := by
  induction xs generalizing ys with
  | nil =>
      obtain rfl := Except.ok.inj h
      simp
  | cons a xs ih =>
      rw [filterM_cons] at h
      obtain ⟨keeps, ha, h⟩ := bind_eq_ok_iff.mp h
      obtain ⟨kept, hkept, h⟩ := bind_eq_ok_iff.mp h
      rw [← pure_eq_ok_iff.mp h, List.mem_cons]
      by_cases same : x = a
      · subst same
        cases keeps <;> simp [ha, ih hkept]
      · cases keeps <;> simp [same, ih hkept]

/-- A list is kept whole if each of its members passes the test. -/
theorem filterM_of_forall {p : α → Except ε Bool} {xs : List α} (all : ∀ x ∈ xs, p x = .ok true) :
    xs.filterM p = .ok xs := by
  induction xs with
  | nil => rfl
  | cons x xs ih =>
      rw [filterM_cons, all x List.mem_cons_self, ih fun x' mem => all x' (.tail _ mem)]
      rfl

/-- What is kept of a list is what passes, by whichever test agrees with the search.  The test on
the right cannot fail, so that the result can be spoken of without the search. -/
theorem filter_of_filterM {p : α → Except ε Bool} {q : α → Bool} {xs ys : List α}
    (h : xs.filterM p = .ok ys) (agree : ∀ x b, p x = .ok b → q x = b) : ys = xs.filter q := by
  induction xs generalizing ys with
  | nil => exact (Except.ok.inj h).symm
  | cons x xs ih =>
      rw [filterM_cons] at h
      obtain ⟨keeps, hx, h⟩ := bind_eq_ok_iff.mp h
      obtain ⟨kept, hkept, h⟩ := bind_eq_ok_iff.mp h
      rw [← pure_eq_ok_iff.mp h, List.filter_cons, agree x keeps hx, ih hkept]

/-- A build error is no result. -/
@[simp] theorem fail_ne_ok {problem : BuildProblem} {kind : StatementKind} {a : α} :
    fail problem kind ≠ .ok a := by
  simp [fail]

/-! ### Errors -/

/-- The error says that a statement is malformed. -/
def Error.IsBuild (e : Error) : Prop := ∃ b, e = .build b

/-- All errors that the computation fails with have the property.  Of a computation that cannot fail
this says nothing, and so it is never the whole of a theorem: that something succeeds, or fails, is
said beside it. -/
def FailsWith {α : Type} (P : Error → Prop) (x : Except Error α) : Prop :=
  ∀ e, x = .error e → P e

namespace FailsWith

variable {P Q : Error → Prop} {x : Except Error α}

theorem ok (a : α) : FailsWith P (.ok a : Except Error α) := fun _ fails => nomatch fails

theorem error {e : Error} (h : P e) : FailsWith P (.error e : Except Error α) :=
  fun _ fails => Except.error.inj fails ▸ h

theorem fail {problem : BuildProblem} {kind : StatementKind} (h : P (.build ⟨problem, kind⟩)) :
    FailsWith P (BoundSql.fail problem kind : Except Error α) := error h

theorem imp (hx : FailsWith P x) (h : ∀ e, P e → Q e) : FailsWith Q x :=
  fun e fails => h e (hx e fails)

theorem bind {f : α → Except Error β} (hx : FailsWith P x)
    (hf : ∀ a, x = .ok a → FailsWith P (f a)) : FailsWith P (x >>= f) := by
  intro e fails
  rcases bind_eq_error_iff.mp fails with first | ⟨a, ha, second⟩
  · exact hx e first
  · exact hf a ha e second

theorem map (hx : FailsWith P x) (f : α → β) : FailsWith P (f <$> x) :=
  fun e fails => hx e (map_eq_error_iff.mp fails)

/-- A list is worked off with the errors of its members. -/
theorem mapM {f : α → Except Error β} {xs : List α} (h : ∀ a ∈ xs, FailsWith P (f a)) :
    FailsWith P (xs.mapM f) := by
  intro e fails
  obtain ⟨a, mem, here⟩ := exists_of_mapM_eq_error fails
  exact h a mem e here

theorem filterM {p : α → Except Error Bool} {xs : List α} (h : ∀ a ∈ xs, FailsWith P (p a)) :
    FailsWith P (xs.filterM p) := by
  induction xs with
  | nil => exact ok []
  | cons a xs ih =>
      rw [filterM_cons]
      refine (h a List.mem_cons_self).bind fun keeps _ => ?_
      exact (ih fun a' mem => h a' (.tail _ mem)).bind fun kept _ => ok _

/-- A computation that goes on only if there is nothing to refuse.  What comes behind the refusal
may take for granted that there was nothing. -/
theorem guard {problem : BuildProblem} {kind : StatementKind} {c : Prop} [Decidable c]
    {f : Unit → Except Error α} (own : P (.build ⟨problem, kind⟩)) (h : ¬ c → FailsWith P (f ())) :
    FailsWith P (if c then BoundSql.fail problem kind >>= f else f ()) := by
  split
  case isTrue => exact fail own
  case isFalse no => exact h no

end FailsWith

end BoundSql
