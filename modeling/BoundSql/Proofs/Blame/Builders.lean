import BoundSql.Delete
import BoundSql.Insert.Values
import BoundSql.Proofs.Binding
import BoundSql.Select
import BoundSql.Update

/-!
# The statement that a build error names

A build error names a kind of statement.  The parts that builders share, such as criteria, columns
and literals, raise no build errors, and what reads the records of an insert is told the kind of the
statement; so whatever build error an insert of records, an insert of given values or an update
raises, it names that kind.

Two properties of a computation are used, and both are closed under putting computations one after
the other.  That it raises no build error is said of the shared parts, which do not know for which
statement they are written.  That it names a kind is said of the parts that do; the first implies
the second for every kind (`FailsWith.names`), so that a builder is gone through once, from step to
step.  Sort orders are kept out of this: `Error.Names` says also that a sort order is not at fault,
since only select statements have one.

* `Error.Names` : what is raised of a statement of a kind, its sort order apart.
* `failsWith_bindRecord`, `RowTarget.failsWith_resolve` : what the inserts of records share.
* `InsertRow.failsWith_render`, `InsertBatch.failsWith_render`, `Batch.failsWith_statement`,
  `InsertMultiple.failsWith_render`, `InsertValues.failsWith_fragment`, `Update.failsWith_fragment`.
-/

namespace BoundSql

/-- If the error says that a statement is malformed, it says so of a statement of this kind, and not
because of its sort order. -/
def Error.Names (kind : StatementKind) (e : Error) : Prop :=
  ∀ b, e = .build b → b.kind = kind ∧ b.problem ≠ .notOrderable

/-- A build error names the kind that it is made with. -/
theorem Error.names_build {problem : BuildProblem} (other : problem ≠ .notOrderable)
    (kind : StatementKind) : (Error.build ⟨problem, kind⟩).Names kind := by
  intro b same
  rw [← Error.build.inj same]
  exact ⟨rfl, other⟩

/-- What raises no build error names no other kind. -/
theorem FailsWith.names {α : Type} {x : Except Error α} (other : FailsWith (¬ ·.IsBuild) x)
    (kind : StatementKind) : FailsWith (Error.Names kind) x :=
  other.imp fun _ other b same => absurd ⟨b, same⟩ other

/-- A malformed statement of the kind is called one. -/
theorem FailsWith.names_fail {α : Type} {problem : BuildProblem} {kind : StatementKind}
    (other : problem ≠ .notOrderable) :
    FailsWith (Error.Names kind) (BoundSql.fail problem kind : Except Error α) :=
  .fail (Error.names_build other kind)

/-! ### What raises no build error -/

/-- A value that cannot be converted is an error of the value, not of the statement. -/
theorem Column.failsWith_convert (c : Column) (v : Value) :
    FailsWith (¬ ·.IsBuild) (c.convert v) := by
  intro e refused
  obtain ⟨r, rfl⟩ := raised_of_convert refused
  rintro ⟨b, ⟨⟩⟩

theorem Expression.failsWith_convert (e : Expression) (v : Value) :
    FailsWith (¬ ·.IsBuild) (e.convert v) := by
  induction e with
  | column c => exact c.failsWith_convert v
  | apply f argument alias? ih => exact ih
  | substring argument offset length alias? ih => exact ih
  | all table => exact .ok v
  | count argument distinct alias? ih => exact .ok v
  | countAll alias? => exact .ok v

/-- What is no column where one is needed is an error of the caller's, not of the statement. -/
theorem Expression.failsWith_asColumn (wanted : String) (e : Expression) :
    FailsWith (¬ ·.IsBuild) (e.asColumn wanted) := by
  cases e with
  | column c => exact .ok c
  | _ => exact .error (by rintro ⟨b, ⟨⟩⟩)

/-- A condition can fail with the conversion of its values only. -/
theorem Condition.failsWith_fragment (scope : Scope) (e : Expression) (condition : Condition) :
    FailsWith (¬ ·.IsBuild) (condition.fragment scope e) := by
  cases condition with
  | null negated => exact .ok _
  | equalTo right => exact .ok _
  | compare comparison value whenPresent =>
      exact (e.failsWith_convert value).bind fun _ _ => .ok _
  | between negated low high =>
      exact (e.failsWith_convert low).bind fun _ _ =>
        (e.failsWith_convert high).bind fun _ _ => .ok _
  | member negated values =>
      exact (FailsWith.mapM fun v _ => e.failsWith_convert v).bind fun _ _ => .ok _

namespace Criterion

variable (scope : Scope)

mutual

theorem failsWith_fragment? : ∀ criterion : Criterion,
    FailsWith (¬ ·.IsBuild) (fragment? scope criterion)
  | .mk connector column condition group => by
    rw [fragment?]
    have rest := failsWith_survivors group
    split
    case isTrue =>
      exact ((condition.failsWith_fragment scope column).map _).bind fun _ _ =>
        rest.bind fun _ _ => .ok _
    case isFalse => exact rest.bind fun _ _ => .ok _

theorem failsWith_survivors : ∀ criteria : List Criterion,
    FailsWith (¬ ·.IsBuild) (survivors scope criteria)
  | [] => .ok []
  | criterion :: criteria => by
    rw [survivors]
    exact (failsWith_fragment? criterion).bind fun _ _ =>
      (failsWith_survivors criteria).bind fun _ _ => .ok _

end

theorem failsWith_clause? (criteria : List Criterion) :
    FailsWith (¬ ·.IsBuild) (clause? scope criteria) :=
  (failsWith_survivors scope criteria).bind fun _ _ => .ok _

theorem failsWith_whereFragment (criteria : List Criterion) :
    FailsWith (¬ ·.IsBuild) (whereFragment scope criteria) :=
  (failsWith_clause? scope criteria).bind fun _ _ => .ok _

end Criterion

theorem Mapping.failsWith_named (m : Mapping) : FailsWith (¬ ·.IsBuild) m.named :=
  m.column.failsWith_asColumn "name"

/-- A literal is written as it is, or it is not one. -/
theorem Mapping.failsWith_literal (m : Mapping) : FailsWith (¬ ·.IsBuild) m.literal := by
  unfold literal
  split
  case h_4 => exact .error (by rintro ⟨b, ⟨⟩⟩)
  all_goals exact .ok _

theorem failsWith_rowExpression (parameter : String → String) (m : Mapping) :
    FailsWith (¬ ·.IsBuild) (rowExpression parameter m) := by
  unfold rowExpression
  split
  · exact .ok _
  · exact m.failsWith_literal

theorem Record.failsWith_properties (record : Record) :
    FailsWith (¬ ·.IsBuild) record.properties := by
  unfold properties
  split
  case h_4 => exact .error (by rintro ⟨b, ⟨⟩⟩)
  all_goals exact .ok _

/-- Deletes are never malformed. -/
theorem Delete.failsWith_fragment (d : Delete) : FailsWith (¬ ·.IsBuild) d.fragment :=
  (Criterion.failsWith_whereFragment [] d.criteria).bind fun _ _ => .ok _

/-! ### Inserts of records -/

/-- A property that a record lacks is an error of the statement that is built from it, and names its
kind. -/
theorem Record.failsWith_read (record : Record) (name : String) (kind : StatementKind) :
    FailsWith (Error.Names kind) (record.read name kind) := by
  unfold Record.read
  split
  · exact .ok _
  · exact .names_fail nofun

/-- The parameters of a record are read under the kind that is given, one by one. -/
theorem failsWith_bindRecord (kind : StatementKind) (parameter : String → String)
    (record : Record) (bindings : List Binding) :
    FailsWith (Error.Names kind) (bindRecord kind parameter record bindings) := by
  refine FailsWith.bind (.mapM fun b _ => ?_) fun entries _ => .ok _
  refine (record.failsWith_read b.property kind).bind fun v _ => ?_
  exact ((b.column.failsWith_convert v).names kind).bind fun w _ => .ok _

namespace RowTarget

/-- What can be wrong with a mapping has nothing to do with sort orders. -/
theorem problem?_ne_notOrderable {m : Mapping} {problem : BuildProblem}
    (h : problem? m = some problem) : problem ≠ .notOrderable := by
  unfold problem? at h
  split at h
  case h_1 => cases h; exact nofun
  case h_2 => split at h <;> cases h; exact nofun
  case h_3 => cases h

theorem failsWith_accept (kind : StatementKind) (table : Table) (mappings : List Mapping) :
    FailsWith (Error.Names kind) (accept kind table mappings) := by
  unfold accept
  refine .guard (Error.names_build (by decide) _) fun _ => ?_
  cases found : mappings.findSome? problem? with
  | none => exact .ok _
  | some problem =>
      obtain ⟨m, -, wrong⟩ := List.exists_of_findSome?_eq_some found
      exact .names_fail (problem?_ne_notOrderable wrong)

/-- What is wrong with the table or the mappings is wrong with the insert, whichever of the three it
is. -/
theorem failsWith_resolve (kind : StatementKind) (catalog : Catalog) (t : RowTarget)
    (sample : Record) : FailsWith (Error.Names kind) (t.resolve kind catalog sample) := by
  obtain ⟨table?, given⟩ := t
  cases table? with
  | none => exact .names_fail nofun
  | some table =>
      rw [resolve_some]
      refine FailsWith.bind ?_ fun mappings _ => failsWith_accept kind table mappings
      split
      · exact (sample.failsWith_properties.map _).names kind
      · exact .ok given

/-- A call that is refused names the kind of the insert. -/
theorem failsWith_call (kind : StatementKind) (t : RowTarget) (c : Call) :
    FailsWith (Error.Names kind) (t.call kind c) := by
  cases c with
  | into table => exact .ok _
  | map column source =>
      cases source with
      | propertyWhenPresent name =>
          simp only [call]
          split
          · exact .ok _
          · exact .names_fail nofun
      | _ => exact .ok _

end RowTarget

section Rendering

variable (catalog : Catalog) (dialect : Dialect)

/-- What inserts of records write of their mappings raises no build error. -/
theorem failsWith_rows (mappings : List Mapping) (parameter : String → String) :
    FailsWith (¬ ·.IsBuild) (mappings.mapM (rowExpression parameter)) :=
  .mapM fun m _ => failsWith_rowExpression parameter m

theorem failsWith_columns (mappings : List Mapping) :
    FailsWith (¬ ·.IsBuild) (mappings.mapM Mapping.named) :=
  .mapM fun m _ => m.failsWith_named

/-- The insert of one record: the target, the mappings that are dropped, and then the text and the
parameters. -/
theorem InsertRow.failsWith_render (i : InsertRow Record) :
    FailsWith (Error.Names .insert) (i.render catalog dialect) := by
  unfold render
  refine (i.target.failsWith_resolve .insert catalog i.row).bind ?_
  rintro ⟨table, mappings⟩ -
  refine FailsWith.bind (.filterM fun m _ => .map ?_ _) fun kept _ => ?_
  · unfold drops
    split
    · exact (i.row.failsWith_read _ .insert).map _
    · exact .ok false
  refine .guard (Error.names_build (by decide) _) fun _ => ?_
  refine ((failsWith_columns kept).names _).bind fun columns _ => ?_
  refine ((failsWith_rows kept id).names _).bind fun values _ => ?_
  exact (failsWith_bindRecord .insert id i.row _).bind fun _ _ => .ok _

/-- A batch that needs no dialect is refused as a batch, too. -/
theorem InsertBatch.failsWith_settled? {ρ : Type} (i : InsertBatch ρ)
    {outcome : Except Error (Batch ρ)} (h : i.settled? = some outcome) :
    FailsWith (Error.Names .insertBatch) outcome := by
  unfold settled? at h
  split at h
  · rw [← Option.some.inj h]
    split
    · exact .names_fail nofun
    · exact .ok _
  · cases h

theorem InsertBatch.failsWith_render (i : InsertBatch Record) :
    FailsWith (Error.Names .insertBatch) (i.render catalog dialect) := by
  obtain ⟨target, _ | ⟨sample, rest⟩⟩ := i
  · exact failsWith_settled? ⟨target, []⟩ rfl
  · unfold render
    refine (target.failsWith_resolve .insertBatch catalog sample).bind ?_
    rintro ⟨table, mappings⟩ -
    refine ((failsWith_columns mappings).names _).bind fun columns _ => ?_
    exact ((failsWith_rows mappings id).names _).bind fun values _ => .ok _

/-- A batch is still one when it is expanded. -/
theorem Batch.failsWith_statement (b : Batch Record) (record : Record) :
    FailsWith (Error.Names .insertBatch) (b.statement record) :=
  (failsWith_bindRecord .insertBatch id record b.bindings).bind fun _ _ => .ok _

/-- The insert of many records, each of which can lack a property. -/
theorem InsertMultiple.failsWith_render (i : InsertMultiple Record) :
    FailsWith (Error.Names .insertMultiple) (i.render catalog dialect) := by
  obtain ⟨target, _ | ⟨sample, rest⟩⟩ := i
  · exact .names_fail nofun
  · unfold render
    refine (target.failsWith_resolve .insertMultiple catalog sample).bind ?_
    rintro ⟨table, mappings⟩ -
    refine FailsWith.bind (.mapM fun k _ => (failsWith_rows mappings _).names _) fun rows _ => ?_
    refine ((failsWith_columns mappings).names _).bind fun columns _ => ?_
    refine FailsWith.bind (.mapM fun entry _ => ?_) fun parameters _ => .ok _
    exact failsWith_bindRecord .insertMultiple _ _ _

end Rendering

/-! ### Inserts of given values and updates -/

/-- An insert of given values has no records to read.  It is malformed only if nothing is left to
insert. -/
theorem InsertValues.failsWith_fragment (i : InsertValues) :
    FailsWith (Error.Names .insertInto) i.fragment := by
  have written (m : Mapping) : FailsWith (¬ ·.IsBuild) (InsertValues.entry m) := by
    refine FailsWith.bind ?_ fun _ _ => m.failsWith_named.bind fun _ _ => .ok _
    unfold expression
    split
    · exact (m.column.failsWith_convert _).bind fun _ _ => .ok _
    · exact m.failsWith_literal
  unfold fragment
  refine ((FailsWith.mapM fun m _ => written m).names _).bind fun entries _ => ?_
  exact .guard (Error.names_build (by decide) _) fun _ => .ok _

/-- A mapping is refused as one that an update does not support. -/
theorem Update.failsWith_setting? (m : Mapping) :
    FailsWith (Error.Names .update) (setting? m) := by
  have value (v : Value) : FailsWith (Error.Names .update)
      (do return some [.value (← m.column.convert v)] : Except Error (Option Fragment)) :=
    ((m.column.failsWith_convert v).names _).bind fun _ _ => .ok _
  unfold setting?
  split
  case h_2 v _ | h_3 v _ _ => exact value v
  case h_8 => exact .names_fail nofun
  all_goals exact .ok _

/-- An update is malformed if it sets nothing, or by one of its mappings. -/
theorem Update.failsWith_fragment (u : Update) :
    FailsWith (Error.Names .update) u.fragment := by
  unfold fragment
  refine FailsWith.bind (.mapM fun m _ => ?_) fun assignments _ => ?_
  · unfold assignment?
    refine (failsWith_setting? m).bind fun setting? _ => ?_
    cases setting? with
    | none => exact .ok none
    | some f => exact (m.failsWith_named.names _).bind fun _ _ => .ok _
  · refine .guard (Error.names_build (by decide) _) fun _ => ?_
    exact ((Criterion.failsWith_whereFragment [] u.criteria).names _).bind fun _ _ => .ok _

end BoundSql
