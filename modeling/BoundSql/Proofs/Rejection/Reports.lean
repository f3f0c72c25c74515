import BoundSql.Proofs.Numbering.Sites

/-!
# Computations that stop at their first fault

A computation that may fail goes through its parts in order and stops at the first that has a fault.
`Reports` relates such a computation to the list of its faults; the list of a computation put
together from others is put together alike.

The list is more than the error: it contains the faults that are never reached, too.  This is what
makes it compositional.  The faults of a sequence are those of its parts one behind the other,
whichever comes first, and only in the end one asks for the first of the whole list.

Conditions and criteria have no faults of their own: they are written whenever the values that they
supply are converted (`Criterion.reports_clause?`).
-/

namespace BoundSql

/-! ### The first fault of a computation -/

/-- A computation that stops at the first of its faults, and succeeds if it has none. -/
def Reports {α : Type} (faults : List Error) (x : Except Error α) : Prop :=
  match faults with
  | [] => ∃ a, x = .ok a
  | e :: _ => x = .error e

namespace Reports

variable {α β : Type} {faults more : List Error} {x : Except Error α}

/-- What is raised is the first fault, and nothing else. -/
theorem eq_error_iff (h : Reports faults x) {e : Error} : x = .error e ↔ faults.head? = some e := by
  cases faults with
  | nil =>
      obtain ⟨a, rfl⟩ := h
      simp
  | cons e' faults =>
      have stops : x = .error e' := h
      rw [stops]
      simp

/-- The computation succeeds exactly if it has no faults. -/
theorem exists_eq_ok_iff (h : Reports faults x) : (∃ a, x = .ok a) ↔ faults = [] := by
  cases faults with
  | nil => exact iff_of_true h rfl
  | cons e faults =>
      have stops : x = .error e := h
      rw [stops]
      simp

theorem ok (a : α) : Reports [] (.ok a : Except Error α) := ⟨a, rfl⟩

/-- What succeeds may be continued.  The faults of the continuation must not depend on the result,
as otherwise they could not be listed beforehand. -/
theorem bind {f : α → Except Error β} (hx : Reports faults x) (hf : ∀ a, Reports more (f a)) :
    Reports (faults ++ more) (x >>= f) := by
  cases faults with
  | nil =>
      obtain ⟨a, rfl⟩ := hx
      exact hf a
  | cons e faults =>
      have stops : x = .error e := hx
      rw [stops]
      exact rfl

/-- What is continued without a fault has the faults it had. -/
theorem bind_nil {f : α → Except Error β} (hx : Reports faults x) (hf : ∀ a, Reports [] (f a)) :
    Reports faults (x >>= f) := by
  have continued := hx.bind hf
  rwa [List.append_nil] at continued

/-- What is done with a result without failing adds no fault. -/
theorem map (hx : Reports faults x) (f : α → β) : Reports faults (f <$> x) := by
  rw [map_eq_pure_bind]
  exact hx.bind_nil fun a => ok (f a)

/-- A list is worked off up to the first fault of its members. -/
theorem mapM {f : α → Except Error β} {own : α → List Error} {xs : List α}
    (h : ∀ a ∈ xs, Reports (own a) (f a)) : Reports (xs.flatMap own) (xs.mapM f) := by
  induction xs with
  | nil => exact ok []
  | cons a xs ih =>
      rw [List.mapM_cons, List.flatMap_cons]
      refine (h a List.mem_cons_self).bind fun b => ?_
      exact (ih fun a' mem => h a' (.tail _ mem)).map (b :: ·)

/-- A list is worked off if each of its members is. -/
theorem mapM_nil {f : α → Except Error β} {xs : List α} (h : ∀ a ∈ xs, Reports [] (f a)) :
    Reports [] (xs.mapM f) := by
  have none : (xs.flatMap fun _ => ([] : List Error)) = [] :=
    List.flatMap_eq_nil_iff.mpr fun _ _ => rfl
  exact none ▸ mapM h

end Reports

/-! ### What writes without fail -/

/-- The value supplied at a site is converted, if it is, without an error. -/
def BindingSite.Converts (site : BindingSite) : Prop :=
  ∀ f, site.converter? = some f → site.value ≠ .null → ∃ v, f site.value = .ok v

/-- A conversion has no fault if the converter raises none.  A null is not converted at all. -/
theorem Column.reports_convert {c : Column} {v : Value}
    (converts : ∀ f, c.converter? = some f → v ≠ .null → ∃ w, f v = .ok w) :
    Reports [] (c.convert v) := by
  unfold Column.convert
  split
  case isTrue => exact .ok v
  case isFalse present =>
    have value : v ≠ .null := fun null => present (Value.isNull_eq_true_iff.mpr null)
    cases hf : c.converter? with
    | none => exact .ok v
    | some f =>
        obtain ⟨w, hw⟩ := converts f hf value
        exact ⟨w, mapError_eq_ok_iff.mpr hw⟩

/-- The same of an expression, which converts by the column that it is about. -/
theorem Expression.reports_convert {e : Expression} {v : Value}
    (converts : BindingSite.Converts ⟨some e, v⟩) : Reports [] (e.convert v) := by
  replace converts : ∀ f, e.baseColumn?.bind (·.converter?) = some f → v ≠ .null →
      ∃ w, f v = .ok w := converts
  induction e with
  | column c => exact c.reports_convert converts
  | apply f argument alias? ih => exact ih converts
  | substring argument offset length alias? ih => exact ih converts
  | all table => exact .ok v
  | count argument distinct alias? ih => exact .ok v
  | countAll alias? => exact .ok v

/-- A condition is written if all values that it supplies are converted, be it one, two or a list of
them. -/
theorem Condition.reports_fragment {scope : Scope} {e : Expression} {condition : Condition}
    (converts : ∀ v ∈ condition.suppliedValues, BindingSite.Converts ⟨some e, v⟩) :
    Reports [] (condition.fragment scope e) := by
  cases condition with
  | null negated => exact .ok _
  | equalTo right => exact .ok _
  | compare comparison value whenPresent =>
      have first := Expression.reports_convert (converts value List.mem_cons_self)
      exact first.bind fun _ => .ok _
  | between negated low high =>
      have first := Expression.reports_convert (converts low List.mem_cons_self)
      have second := Expression.reports_convert (converts high (.tail _ List.mem_cons_self))
      exact first.bind fun _ => second.bind fun _ => .ok _
  | member negated values =>
      have all := Reports.mapM_nil fun v mem => Expression.reports_convert (converts v mem)
      exact all.bind fun _ => .ok _

namespace Criterion

variable {scope : Scope}

mutual

/-- A criterion is written, or declines, if its values are converted. -/
theorem reports_fragment? : ∀ criterion : Criterion,
    (∀ site ∈ criterion.sites, site.Converts) → Reports [] (fragment? scope criterion)
  | .mk connector column condition group, converts => by
    rw [Criterion.sites] at converts
    rw [fragment?]
    have rest := reports_survivors group fun site mem => converts site (List.mem_append_right _ mem)
    -- the values of a condition that declines are not converted
    split
    case isTrue renders =>
      have own : Reports [] (condition.fragment scope column) :=
        Condition.reports_fragment fun v mem => converts _ (by
          rw [if_pos renders]
          exact List.mem_append_left _ (List.mem_map_of_mem mem))
      exact (own.map _).bind fun _ => rest.bind fun _ => .ok _
    case isFalse => exact rest.bind fun _ => .ok _

theorem reports_survivors : ∀ criteria : List Criterion,
    (∀ site ∈ listSites criteria, site.Converts) → Reports [] (survivors scope criteria)
  | [], _ => .ok []
  | criterion :: criteria, converts => by
    rw [listSites] at converts
    rw [survivors]
    have first := reports_fragment? criterion fun site mem =>
      converts site (List.mem_append_left _ mem)
    have others := reports_survivors criteria fun site mem =>
      converts site (List.mem_append_right _ mem)
    exact first.bind fun _ => others.bind fun _ => .ok _

end

theorem reports_clause? {criteria : List Criterion}
    (converts : ∀ site ∈ listSites criteria, site.Converts) :
    Reports [] (clause? scope criteria) :=
  (reports_survivors criteria converts).bind fun _ => .ok _

/-- So is a whole restriction. -/
theorem reports_whereFragment {criteria : List Criterion}
    (converts : ∀ site ∈ listSites criteria, site.Converts) :
    Reports [] (whereFragment scope criteria) :=
  (reports_clause? converts).bind fun _ => .ok _

end Criterion

end BoundSql
