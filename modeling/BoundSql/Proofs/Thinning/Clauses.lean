import BoundSql.Delete
import BoundSql.Insert.Values
import BoundSql.Proofs.Nesting
import BoundSql.Update

/-!
# Thinned clauses

A criterion whose condition declines and a setting whose value is absent leave no trace in the text,
so they may be left out; and a condition or a setting that counts only when its value is present may
be replaced by the plain one when it is.  A builder is *thinned* by doing this in any number of
places.

Thinning is a relation, because a builder can be thinned in many ways.  Its cases are closed under
what calls do to a list: both lists may get a further member, plain or not, and a declining one may
be added to the first list alone.  A criterion may be left out only if nothing is left of its group.
A group counts whether or not its own criterion declines, so it is a separate premise of the case.

The text is compared at the point where it is known what survives, `Criterion.survivors`, and not
after it has been put together: there a thinned list gives the same terms, and everything behind
that is a function of the terms.

* `Criterion.Thins`, `Mapping.Thins` : the lists that a list is thinned to.
* `Select.Thins`, `Delete.Thins`, `Update.Thins`, `InsertValues.Thins` : the builders that a builder
  is thinned to.  A join is left at least one criterion if it has any.
* `Select.Thins.fragment_mapSources` and `fragment_eq` for the others : a thinned builder is written
  as before, or refused with the same error.
-/

namespace BoundSql

/-! ### Criteria -/

/-- The other condition is the same, or it is the plain one, for a value that is present. -/
inductive Condition.Plain : Condition → Condition → Prop
  | same (c : Condition) : Plain c c
  | present {comparison : Comparison} {v : Value} : v ≠ .null →
      Plain (.compare comparison v true) (.compare comparison v false)

namespace Condition.Plain

variable {c c' : Condition}

/-- A plain condition is written when the other one is, since the value is present. -/
theorem renders_eq (h : c.Plain c') : c'.renders = c.renders := by
  cases h with
  | same => rfl
  | @present comparison v present =>
      cases v with
      | null => exact absurd rfl present
      | _ => rfl

theorem fragment_eq (h : c.Plain c') (scope : Scope) (e : Expression) :
    c'.fragment scope e = c.fragment scope e := by
  cases h <;> rfl

end Condition.Plain

/-- The second list is the first without some of the criteria that decline, and with some of the
present conditions made plain, in the groups as well.  A criterion may be left out when nothing is
left of its group. -/
inductive Criterion.Thins : List Criterion → List Criterion → Prop
  | nil : Thins [] []
  | drop {connector : Connector} {column : Expression} {condition : Condition}
      {group cs cs' : List Criterion} : condition.renders = false → Thins group [] → Thins cs cs' →
      Thins (.mk connector column condition group :: cs) cs'
  | keep {connector : Connector} {column : Expression} {condition condition' : Condition}
      {group group' cs cs' : List Criterion} : condition.Plain condition' → Thins group group' →
      Thins cs cs' →
      Thins (.mk connector column condition group :: cs)
        (.mk connector column condition' group' :: cs')

namespace Criterion.Thins

variable {cs cs' ds ds' : List Criterion}

/-- **Thinned criteria survive as before.**  By induction over the relation: a member that is left
out gives no term, and one that is kept gives the same term, its group included. -/
theorem survivors_eq (h : Thins cs cs') (scope : Scope) :
    survivors scope cs' = survivors scope cs := by
  induction h with
  | nil => rfl
  | @drop connector column condition group cs cs' declines _ _ group_eq cs_eq =>
      have none : survivors scope group = .ok [] := by rw [← group_eq, survivors]
      rw [cs_eq, survivors, fragment?, declines, none]
      exact (bind_pure _).symm
  | @keep connector column condition condition' group group' cs cs' plain _ _ group_eq cs_eq =>
      rw [survivors, survivors, fragment?, fragment?, group_eq, cs_eq, plain.renders_eq,
        plain.fragment_eq]
      rfl

/-- The clause is put together from what survives. -/
theorem clause?_eq (h : Thins cs cs') (scope : Scope) : clause? scope cs' = clause? scope cs := by
  rw [clause?, clause?, h.survivors_eq]

/-- So is the restriction of a statement. -/
theorem whereFragment_eq (h : Thins cs cs') (scope : Scope) :
    whereFragment scope cs' = whereFragment scope cs := by
  rw [whereFragment, whereFragment, h.clause?_eq]

/-- A list may be left as it is. -/
theorem refl (cs : List Criterion) : Thins cs cs := by
  match cs with
  | [] => exact nil
  | .mk connector column condition group :: cs =>
      exact keep (.same condition) (refl group) (refl cs)

theorem append (h : Thins cs cs') (h' : Thins ds ds') : Thins (cs ++ ds) (cs' ++ ds') := by
  induction h with
  | nil => exact h'
  | drop declines group _ _ ih => exact drop declines group ih
  | keep plain group _ _ ih => exact keep plain group ih

/-- A criterion may be added to both lists, made plain and with its group thinned. -/
theorem concat (h : Thins cs cs') (connector : Connector) (column : Expression)
    {condition condition' : Condition} (plain : condition.Plain condition')
    {group group' : List Criterion} (members : Thins group group') :
    Thins (cs ++ [.mk connector column condition group])
      (cs' ++ [.mk connector column condition' group']) :=
  h.append (keep plain members nil)

/-- A criterion that declines may be added to the first list alone. -/
theorem concat_declining (h : Thins cs cs') (connector : Connector) (column : Expression)
    {condition : Condition} (declines : condition.renders = false) {group : List Criterion}
    (members : Thins group []) : Thins (cs ++ [.mk connector column condition group]) cs' := by
  have alone : Thins [.mk connector column condition group] [] := drop declines members nil
  have both := h.append alone
  rwa [List.append_nil] at both

end Criterion.Thins

/-! ### Settings -/

/-- The other origin is the same, or it is the plain value, for a value that is present. -/
inductive Origin.Plain : Origin → Origin → Prop
  | same (o : Origin) : Plain o o
  | present {v : Value} : v ≠ .null → Plain (.valueWhenPresent v) (.value v)

/-- The second list is the first without some of the settings whose value is absent, and with some
of the present ones made plain. -/
inductive Mapping.Thins : List Mapping → List Mapping → Prop
  | nil : Thins [] []
  | drop {column : Expression} {ms ms' : List Mapping} : Thins ms ms' →
      Thins (⟨column, .valueWhenPresent .null⟩ :: ms) ms'
  | keep {column : Expression} {o o' : Origin} {ms ms' : List Mapping} : o.Plain o' →
      Thins ms ms' → Thins (⟨column, o⟩ :: ms) (⟨column, o'⟩ :: ms')

namespace Mapping.Thins

variable {ms ms' ns ns' : List Mapping}

theorem refl (ms : List Mapping) : Thins ms ms := by
  induction ms with
  | nil => exact nil
  | cons m ms ih => exact keep (.same m.origin) ih

theorem append (h : Thins ms ms') (h' : Thins ns ns') : Thins (ms ++ ns) (ms' ++ ns') := by
  induction h with
  | nil => exact h'
  | drop _ ih => exact drop ih
  | keep plain _ ih => exact keep plain ih

theorem concat (h : Thins ms ms') (column : Expression) {o o' : Origin} (plain : o.Plain o') :
    Thins (ms ++ [⟨column, o⟩]) (ms' ++ [⟨column, o'⟩]) :=
  h.append (keep plain nil)

theorem concat_absent (h : Thins ms ms') (column : Expression) :
    Thins (ms ++ [⟨column, .valueWhenPresent .null⟩]) ms' := by
  have alone : Thins [⟨column, .valueWhenPresent .null⟩] [] := drop nil
  have both := h.append alone
  rwa [List.append_nil] at both

end Mapping.Thins

/-- A plain setting of an update sets what it set before. -/
theorem Origin.Plain.assignment?_eq {o o' : Origin} (h : o.Plain o') (column : Expression) :
    Update.assignment? ⟨column, o'⟩ = Update.assignment? ⟨column, o⟩ := by
  cases h with
  | same => rfl
  | @present v present =>
      cases v with
      | null => exact absurd rfl present
      | _ => rfl

/-- A plain setting of an insert fills its column as before. -/
theorem Origin.Plain.entry_eq {o o' : Origin} (h : o.Plain o') (column : Expression) :
    InsertValues.entry ⟨column, o'⟩ = InsertValues.entry ⟨column, o⟩ := by
  cases h <;> rfl

/-- A plain setting does not decline, and neither does the one for a value that is present. -/
theorem Origin.Plain.declines_eq {o o' : Origin} (h : o.Plain o') (column : Expression) :
    Mapping.declines ⟨column, o'⟩ = Mapping.declines ⟨column, o⟩ := by
  cases h with
  | same => rfl
  | @present v present =>
      cases v with
      | null => exact absurd rfl present
      | _ => rfl

namespace Mapping.Thins

variable {ms ms' : List Mapping}

/-- **Thinned settings of an update** set the same columns.  Settings that set nothing are in the
first list still, and are filtered out after they have been looked at; so they have to be known not
to fail. -/
theorem assignments_eq (h : Thins ms ms') :
    List.filterMap id <$> ms'.mapM Update.assignment? =
      List.filterMap id <$> ms.mapM Update.assignment? := by
  induction h with
  | nil => rfl
  | @drop column ms ms' _ ih =>
      have none : Update.assignment? ⟨column, .valueWhenPresent .null⟩ = .ok none := rfl
      rw [ih, List.mapM_cons, none]
      cases ms.mapM Update.assignment? <;> rfl
  | @keep column o o' ms ms' plain _ ih =>
      rw [List.mapM_cons, List.mapM_cons, plain.assignment?_eq]
      cases Update.assignment? ⟨column, o⟩ with
      | error e => rfl
      | ok f? =>
          -- the assignment kept stands in front of those further back, which are compared without
          -- it
          have further (ms : List Mapping) :
              List.filterMap id <$> (do
                let f? ← (.ok f? : Except Error (Option Fragment))
                let rest ← ms.mapM Update.assignment?
                pure (f? :: rest)) =
              (f?.toList ++ ·) <$> List.filterMap id <$> ms.mapM Update.assignment? := by
            cases ms.mapM Update.assignment? <;> cases f? <;> rfl
          rw [further, further, ih]

/-- **Thinned settings of an insert** fill the same columns.  Here the ones that decline are
filtered out before they are looked at. -/
theorem entries_eq (h : Thins ms ms') :
    (ms'.filter (!·.declines)).mapM InsertValues.entry =
      (ms.filter (!·.declines)).mapM InsertValues.entry := by
  induction h with
  | nil => rfl
  | drop _ ih => exact ih
  | @keep column o o' ms ms' plain _ ih =>
      rw [List.filter_cons, List.filter_cons, plain.declines_eq]
      split
      · rw [List.mapM_cons, List.mapM_cons, plain.entry_eq, ih]
      · exact ih

end Mapping.Thins

/-! ### Builders without sources -/

/-- The other statement is the first one thinned. -/
structure Delete.Thins (d d' : Delete) : Prop where
  table : d'.table = d.table
  criteria : Criterion.Thins d.criteria d'.criteria

/-- The other statement is the first one thinned. -/
structure Update.Thins (u u' : Update) : Prop where
  table : u'.table = u.table
  mappings : Mapping.Thins u.mappings u'.mappings
  criteria : Criterion.Thins u.criteria u'.criteria

/-- The other statement is the first one thinned. -/
structure InsertValues.Thins (i i' : InsertValues) : Prop where
  table : i'.table = i.table
  mappings : Mapping.Thins i.mappings i'.mappings

theorem Delete.Thins.fragment_eq {d d' : Delete} (h : d.Thins d') : d'.fragment = d.fragment := by
  rw [fragment, fragment, h.table, h.criteria.whereFragment_eq]

theorem Update.Thins.fragment_eq {u u' : Update} (h : u.Thins u') : u'.fragment = u.fragment := by
  have collected (u : Update) : u.fragment =
      (List.filterMap id <$> u.mappings.mapM assignment?) >>= fun assignments => do
        if assignments.isEmpty then fail .nothingToSet .update
        let restriction ← Criterion.whereFragment [] u.criteria
        return .sql "UPDATE " :: u.table.fragment ++ .sql " SET " ::
          Fragment.joined ", " assignments ++ restriction := by
    rw [fragment, bind_map_left]
  rw [collected, collected, h.table, h.mappings.assignments_eq, h.criteria.whereFragment_eq]

theorem InsertValues.Thins.fragment_eq {i i' : InsertValues} (h : i.Thins i') :
    i'.fragment = i.fragment := by
  rw [fragment, fragment, h.table, h.mappings.entries_eq]

end BoundSql
