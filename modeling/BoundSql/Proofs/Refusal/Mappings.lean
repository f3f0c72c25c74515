import BoundSql.Insert.Values
import BoundSql.Proofs.Agreement.Record
import BoundSql.Proofs.Rejection.Reports
import BoundSql.Update

/-!
# Mappings that fit their statements

An insert or an update refuses a mapping that it does not take, and a mapping that slips through is
no literal where one is written.  What calls can add fits the statement: here it is shown that a
statement all of whose mappings fit it is rendered or refused for another reason.

A computation is orderly if all errors that it can fail with are refusals (`Orderly`).  This
composes: of two computations one after the other, it is enough that each is orderly, the second for
the results of the first.  So each builder is gone through from step to step, and at each there is
either nothing that can fail, or a refusal.

Which origins fit depends on the kind of the statement (`Origin.Fits`).  An insert of records takes
properties but no values, the insert of given values takes values but no properties, and an update
takes expressions as well.  The refusals that say the contrary are therefore excluded, which makes
the result a little stronger: they are build errors, but none that calls can lead to
(`BuildProblem.Arises`).

* `Error.IsRefusal` : a build error for a problem that calls can lead to.
* `Orderly` : a computation that fails with no other errors.
* `Mapping.IsFit` : the mapping is of a column, whose converter raises nothing, and its origin is
  one that calls can give to a statement of the kind.
* `InsertRow.orderly_render`, `InsertBatch.orderly_render`, `Batch.orderly_statement`,
  `InsertMultiple.orderly_render`, `InsertValues.orderly_render`, `Update.orderly_render`.
-/

namespace BoundSql

/-! ### Orderly computations -/

/-- Can calls lead to the problem?  None of them supplies an insert of records with a value, or an
update with a property of a record. -/
def BuildProblem.Arises : BuildProblem → Prop
  | .valueInRowInsert | .unsupportedInUpdate _ => False
  | _ => True

/-- The error says that a statement is malformed, in a way that calls can lead to. -/
def Error.IsRefusal : Error → Prop
  | .build b => b.problem.Arises
  | _ => False

/-- The computation succeeds or is refused: it fails in no other way. -/
def Orderly {α : Type} (x : Except Error α) : Prop := ∀ e, x = .error e → e.IsRefusal

namespace Orderly

variable {α β : Type} {x : Except Error α}

theorem ok (a : α) : Orderly (.ok a : Except Error α) := FailsWith.ok a

theorem fail {problem : BuildProblem} {kind : StatementKind} (arises : problem.Arises) :
    Orderly (fail problem kind : Except Error α) := FailsWith.fail arises

/-- A computation whose faults are refusals is orderly. -/
theorem of_reports {faults : List Error} (h : Reports faults x) (all : ∀ e ∈ faults, e.IsRefusal) :
    Orderly x :=
  fun e fails => all e (List.mem_of_mem_head? (h.eq_error_iff.mp fails))

/-- What cannot fail is orderly. -/
theorem of_reports_nil (h : Reports [] x) : Orderly x := of_reports h nofun

/-- Orderly computations may follow each other.  Of the second only the results of the first have to
be considered. -/
theorem bind {f : α → Except Error β} (hx : Orderly x) (hf : ∀ a, x = .ok a → Orderly (f a)) :
    Orderly (x >>= f) := FailsWith.bind hx hf

theorem map (hx : Orderly x) (f : α → β) : Orderly (f <$> x) := FailsWith.map hx f

theorem mapM {f : α → Except Error β} {xs : List α} (h : ∀ a ∈ xs, Orderly (f a)) :
    Orderly (xs.mapM f) := FailsWith.mapM h

theorem filterM {p : α → Except Error Bool} {xs : List α} (h : ∀ a ∈ xs, Orderly (p a)) :
    Orderly (xs.filterM p) := FailsWith.filterM h

/-- A computation that goes on only if there is nothing to refuse. -/
theorem guard {problem : BuildProblem} {kind : StatementKind} {c : Prop} [Decidable c]
    {f : Unit → Except Error α} (arises : problem.Arises) (h : ¬ c → Orderly (f ())) :
    Orderly (if c then BoundSql.fail problem kind >>= f else f ()) := FailsWith.guard arises h

end Orderly

/-! ### Mappings -/

/-- The converter of the column raises nothing. -/
def Column.IsTame (c : Column) : Prop :=
  ∀ f, c.converter? = some f → ∀ v, ∃ w, f v = .ok w

/-- The converters of all declared columns raise nothing. -/
def Catalog.IsTame (catalog : Catalog) : Prop :=
  ∀ table, ∀ c ∈ catalog.columns table, c.IsTame

/-- A conversion by a converter that raises nothing cannot fail. -/
theorem Column.IsTame.orderly_convert {c : Column} (tame : c.IsTame) (v : Value) :
    Orderly (c.convert v) :=
  .of_reports_nil (c.reports_convert fun f given _ => tame f given v)

/-- The kinds of the inserts of records. -/
def StatementKind.IsOfRecords (kind : StatementKind) : Prop :=
  kind = .insert ∨ kind = .insertBatch ∨ kind = .insertMultiple

/-- The origins that calls can give to a mapping, by the kind of the statement. -/
def Origin.Fits (kind : StatementKind) : Origin → Prop
  | .null | .constant _ | .stringConstant _ => True
  | .property _ => kind.IsOfRecords
  | .propertyWhenPresent _ => kind = .insert
  | .value _ | .valueWhenPresent _ => kind = .insertInto ∨ kind = .update
  | .expression _ => kind = .update
  | .unspecified => False

/-- The mapping is one that a statement of the kind can be given: it is of a column whose converter
raises nothing, and its origin fits the statement. -/
structure Mapping.IsFit (kind : StatementKind) (m : Mapping) : Prop where
  column : ∃ c, m.column = .column c ∧ c.IsTame
  origin : m.origin.Fits kind

namespace Mapping.IsFit

variable {kind : StatementKind} {m : Mapping}

theorem orderly_named (fit : m.IsFit kind) : Orderly m.named := by
  obtain ⟨c, hc, -⟩ := fit.column
  rw [Mapping.named, hc]
  exact .ok c

/-- The column that is named is the one of the mapping. -/
theorem isTame_of_named (fit : m.IsFit kind) {column : Column} (h : m.named = .ok column) :
    column.IsTame := by
  obtain ⟨c, hc, tame⟩ := fit.column
  rw [Mapping.named, hc] at h
  rwa [← Except.ok.inj h]

theorem orderly_convert (fit : m.IsFit kind) (v : Value) : Orderly (m.column.convert v) := by
  obtain ⟨c, hc, tame⟩ := fit.column
  rw [hc]
  exact tame.orderly_convert v

/-- Where a literal is written, there is one.  Only an update can have an expression instead, which
is no literal and is written otherwise. -/
theorem orderly_literal (fit : m.IsFit kind) (noProperty : m.property? = none)
    (noValue : m.value? = none) (noExpression : kind ≠ .update) : Orderly m.literal := by
  obtain ⟨column, origin⟩ := m
  cases origin with
  | null | constant _ | stringConstant _ => exact .ok _
  | property _ | propertyWhenPresent _ => cases noProperty
  | value _ | valueWhenPresent _ => cases noValue
  | expression _ => exact absurd fit.origin noExpression
  | unspecified => exact fit.origin.elim

end Mapping.IsFit

/-! ### Inserts of records -/

/-- The record is a mapping or an object. -/
def Record.IsStructured (record : Record) : Prop := ∀ v, record ≠ .bare v

/-- A property that is missing is a refusal. -/
theorem Record.orderly_read (record : Record) (name : String) (kind : StatementKind) :
    Orderly (record.read name kind) := by
  unfold Record.read
  split
  · exact .ok _
  · exact .fail trivial

/-- What the bindings of a record insert are bound for: columns whose converters raise nothing. -/
def Binding.IsTame (b : Binding) : Prop := b.column.IsTame

/-- So a record is bound or refused. -/
theorem orderly_bindRecord {kind : StatementKind} {parameter : String → String} {record : Record}
    {bindings : List Binding} (tame : ∀ b ∈ bindings, b.IsTame) :
    Orderly (bindRecord kind parameter record bindings) := by
  refine Orderly.bind (.mapM fun b mem => ?_) fun entries _ => .ok _
  refine (record.orderly_read b.property kind).bind fun v _ => ?_
  exact ((tame b mem).orderly_convert v).bind fun w _ => .ok _

variable {kind : StatementKind} {mappings : List Mapping} {columns : List Column}

theorem orderly_named (fit : ∀ m ∈ mappings, m.IsFit kind) :
    Orderly (mappings.mapM Mapping.named) :=
  .mapM fun m mem => (fit m mem).orderly_named

/-- The bindings are for the columns of the mappings. -/
theorem isTame_bindingsOf (fit : ∀ m ∈ mappings, m.IsFit kind)
    (named : mappings.mapM Mapping.named = .ok columns) :
    ∀ b ∈ bindingsOf columns mappings, b.IsTame := by
  intro b mem
  obtain ⟨⟨column, m⟩, paired, binds⟩ := List.mem_filterMap.mp mem
  obtain ⟨hm, same⟩ := Layout.named_of_mem_zip named paired
  have tame := (fit m hm).isTame_of_named same
  obtain ⟨e, origin⟩ := m
  cases origin <;> cases binds <;> exact tame

/-- In an insert of records no mapping has a value of its own. -/
theorem Mapping.value?_of_isFit {m : Mapping} (fit : m.IsFit kind) (ofRecords : kind.IsOfRecords) :
    m.value? = none := by
  obtain ⟨column, origin⟩ := m
  cases origin with
  | value v | valueWhenPresent v =>
      rcases ofRecords with rfl | rfl | rfl <;> rcases fit.origin with other | other <;> cases other
  | _ => rfl

/-- A value expression of an insert of records is a parameter or a literal. -/
theorem orderly_rowExpression (ofRecords : kind.IsOfRecords) (parameter : String → String)
    {m : Mapping} (fit : m.IsFit kind) : Orderly (rowExpression parameter m) := by
  unfold rowExpression
  split
  case h_1 => exact .ok _
  case h_2 noProperty =>
    refine fit.orderly_literal noProperty (Mapping.value?_of_isFit fit ofRecords) ?_
    rintro rfl
    rcases ofRecords with other | other | other <;> cases other

namespace RowTarget

variable {catalog : Catalog} {t : RowTarget} {sample : Record}

/-- What is inferred are properties of the record, for columns of the table.  Where the table
declares none, the columns are made up and have no converters. -/
theorem isFit_inferred {table : Table} {declared : Declared} (tame : ∀ c ∈ declared, c.IsTame)
    (ofRecords : kind.IsOfRecords) (properties : List String) :
    ∀ m ∈ inferred table declared properties, m.IsFit kind := by
  intro m mem
  unfold inferred at mem
  split at mem
  case isTrue =>
    obtain ⟨p, -, rfl⟩ := List.mem_map.mp mem
    exact ⟨⟨_, rfl, nofun⟩, ofRecords⟩
  case isFalse =>
    obtain ⟨c, found, rfl⟩ := List.mem_map.mp mem
    exact ⟨⟨c, rfl, tame c (List.mem_filter.mp found).1⟩, ofRecords⟩

/-- The mappings that take effect suit the statement. -/
theorem isFit_of_resolve (tame : catalog.IsTame)
    (ofRecords : kind.IsOfRecords) (fit : ∀ m ∈ t.mappings, m.IsFit kind)
    {table : Table} (h : t.resolve kind catalog sample = .ok (table, mappings)) :
    ∀ m ∈ mappings, m.IsFit kind := by
  obtain ⟨-, ⟨-, rfl⟩ | ⟨-, properties, rfl⟩⟩ := resolve_eq_ok h
  · exact fit
  · exact isFit_inferred (tame table) ofRecords properties

/-- A target is accepted, or refused for one of its mappings. -/
theorem orderly_accept (ofRecords : kind.IsOfRecords) (table : Table)
    (fit : ∀ m ∈ mappings, m.IsFit kind) : Orderly (accept kind table mappings) := by
  unfold accept
  refine .guard trivial fun _ => ?_
  cases found : mappings.findSome? problem? with
  | none => exact .ok _
  | some problem =>
      obtain ⟨m, mem, hproblem⟩ := List.exists_of_findSome?_eq_some found
      refine .fail ?_
      rw [problem?, Mapping.value?_of_isFit (fit m mem) ofRecords] at hproblem
      split at hproblem
      case h_1 => contradiction
      case h_2 => split at hproblem <;> cases hproblem; trivial
      case h_3 => cases hproblem

/-- With mappings of its own a target is accepted or refused; without any, the properties of the
first record are listed, for which it has to be a mapping or an object. -/
theorem orderly_resolve (tame : catalog.IsTame)
    (ofRecords : kind.IsOfRecords) (fit : ∀ m ∈ t.mappings, m.IsFit kind)
    (structured : sample.IsStructured) : Orderly (t.resolve kind catalog sample) := by
  obtain ⟨table?, given⟩ := t
  cases table? with
  | none => exact .fail trivial
  | some table =>
      rw [resolve_some]
      cases given with
      | cons m rest => exact orderly_accept ofRecords table fit
      | nil =>
          have lists : ∃ properties, sample.properties = .ok properties := by
            cases sample with
            | mapping entries => exact ⟨_, rfl⟩
            | object objectKind declared attributes => cases objectKind <;> exact ⟨_, rfl⟩
            | bare v => exact absurd rfl (structured v)
          obtain ⟨properties, hproperties⟩ := lists
          rw [hproperties]
          exact orderly_accept ofRecords table (isFit_inferred (tame table) ofRecords properties)

end RowTarget

section Rendering

variable {catalog : Catalog} {dialect : Dialect}

/-- The insert of one record. -/
theorem InsertRow.orderly_render {i : InsertRow Record}
    (tame : catalog.IsTame)
    (fit : ∀ m ∈ i.target.mappings, m.IsFit .insert) (structured : i.row.IsStructured) :
    Orderly (i.render catalog dialect) := by
  have ofRecords : StatementKind.IsOfRecords .insert := .inl rfl
  unfold render
  refine (RowTarget.orderly_resolve tame ofRecords fit structured).bind ?_
  rintro ⟨table, mappings⟩ resolved
  replace fit := RowTarget.isFit_of_resolve tame ofRecords fit resolved
  refine Orderly.bind (.filterM fun m _ => .map ?_ _) fun kept hkept => ?_
  · unfold drops
    split
    · exact (i.row.orderly_read _ .insert).map _
    · exact .ok false
  replace fit : ∀ m ∈ kept, m.IsFit .insert := fun m mem => fit m ((mem_filterM_iff hkept).mp mem).1
  refine .guard trivial fun _ => ?_
  refine (orderly_named fit).bind fun columns named => ?_
  refine Orderly.bind (.mapM fun m mem => orderly_rowExpression ofRecords id (fit m mem)) ?_
  intro values _
  exact (orderly_bindRecord (isTame_bindingsOf fit named)).bind fun _ _ => .ok _

/-- A batch, which looks at its first record only. -/
theorem InsertBatch.orderly_render {i : InsertBatch Record}
    (tame : catalog.IsTame)
    (fit : ∀ m ∈ i.target.mappings, m.IsFit .insertBatch)
    (structured : ∀ r ∈ i.records, r.IsStructured) : Orderly (i.render catalog dialect) := by
  have ofRecords : StatementKind.IsOfRecords .insertBatch := .inr (.inl rfl)
  obtain ⟨target, _ | ⟨sample, rest⟩⟩ := i
  · simp only [render, settled?, List.isEmpty_nil, if_true, Option.getD_some]
    split
    · exact .fail trivial
    · exact .ok _
  · unfold render
    refine (RowTarget.orderly_resolve tame ofRecords fit (structured _ List.mem_cons_self)).bind ?_
    rintro ⟨table, mappings⟩ resolved
    replace fit := RowTarget.isFit_of_resolve tame ofRecords fit resolved
    refine (orderly_named fit).bind fun columns _ => ?_
    refine Orderly.bind (.mapM fun m mem => orderly_rowExpression ofRecords id (fit m mem)) ?_
    exact fun values _ => .ok _

/-- A batch binds values for columns whose converters raise nothing. -/
theorem InsertBatch.isTame_of_render {i : InsertBatch Record}
    (tame : catalog.IsTame)
    (fit : ∀ m ∈ i.target.mappings, m.IsFit .insertBatch) {b : Batch Record}
    (h : i.render catalog dialect = .ok b) : ∀ bound ∈ b.bindings, bound.IsTame := by
  have ofRecords : StatementKind.IsOfRecords .insertBatch := .inr (.inl rfl)
  obtain ⟨target, _ | ⟨sample, rest⟩⟩ := i
  · simp only [render, settled?, List.isEmpty_nil, if_true, Option.getD_some] at h
    split at h
    · exact absurd h fail_ne_ok
    · rw [← Except.ok.inj h]
      exact List.forall_mem_nil _
  · obtain ⟨⟨table, mappings⟩, resolved, h⟩ := bind_eq_ok_iff.mp h
    obtain ⟨columns, named, h⟩ := bind_eq_ok_iff.mp h
    obtain ⟨tuple, -, h⟩ := bind_eq_ok_iff.mp h
    rw [← pure_eq_ok_iff.mp h]
    exact isTame_bindingsOf (RowTarget.isFit_of_resolve tame ofRecords fit resolved) named

/-- One statement of a batch can be refused for its record. -/
theorem Batch.orderly_statement {b : Batch Record} (tame : ∀ bound ∈ b.bindings, bound.IsTame)
    (record : Record) : Orderly (b.statement record) :=
  (orderly_bindRecord tame).bind fun _ _ => .ok _

/-- The insert of many records looks at all of them. -/
theorem InsertMultiple.orderly_render {i : InsertMultiple Record}
    (tame : catalog.IsTame)
    (fit : ∀ m ∈ i.target.mappings, m.IsFit .insertMultiple)
    (structured : ∀ r ∈ i.records, r.IsStructured) : Orderly (i.render catalog dialect) := by
  have ofRecords : StatementKind.IsOfRecords .insertMultiple := .inr (.inr rfl)
  obtain ⟨target, _ | ⟨sample, rest⟩⟩ := i
  · exact .fail trivial
  · unfold render
    refine (RowTarget.orderly_resolve tame ofRecords fit (structured _ List.mem_cons_self)).bind ?_
    rintro ⟨table, mappings⟩ resolved
    replace fit := RowTarget.isFit_of_resolve tame ofRecords fit resolved
    refine Orderly.bind (.mapM fun k _ => .mapM fun m mem =>
      orderly_rowExpression ofRecords _ (fit m mem)) fun rows _ => ?_
    refine (orderly_named fit).bind fun columns named => ?_
    refine Orderly.bind (.mapM fun entry _ => ?_) fun parameters _ => .ok _
    exact orderly_bindRecord (isTame_bindingsOf fit named)

end Rendering

/-! ### Inserts of given values -/

/-- The value of an entry is converted, or it is a literal. -/
theorem InsertValues.orderly_entry {m : Mapping} (fit : m.IsFit .insertInto) :
    Orderly (InsertValues.entry m) := by
  have written : Orderly (expression m) := by
    unfold expression
    split
    case h_1 v _ => exact (fit.orderly_convert v).bind fun _ _ => .ok _
    case h_2 noValue =>
      refine fit.orderly_literal ?_ noValue nofun
      obtain ⟨column, origin⟩ := m
      cases origin with
      | property name => rcases fit.origin with other | other | other <;> cases other
      | propertyWhenPresent name => cases fit.origin
      | _ => rfl
  exact written.bind fun _ _ => fit.orderly_named.bind fun _ _ => .ok _

theorem InsertValues.orderly_render {i : InsertValues} {dialect : Dialect}
    (fit : ∀ m ∈ i.mappings, m.IsFit .insertInto) : Orderly (i.render dialect) := by
  have written : Orderly i.fragment := by
    unfold fragment
    refine Orderly.bind (.mapM fun m mem => ?_) fun entries _ => ?_
    · exact orderly_entry (fit m (List.mem_filter.mp mem).1)
    · exact .guard trivial fun _ => .ok _
  exact written.bind fun _ _ => .ok _

/-! ### Updates -/

/-- What is set is a value, a literal or an expression. -/
theorem Update.orderly_setting? {m : Mapping} (fit : m.IsFit .update) : Orderly (setting? m) := by
  obtain ⟨column, origin⟩ := m
  cases origin with
  | null | constant _ | stringConstant _ | expression _ => exact .ok _
  | value v => exact (fit.orderly_convert v).bind fun _ _ => .ok _
  | valueWhenPresent v =>
      cases v with
      | null => exact .ok none
      | _ => exact (fit.orderly_convert _).bind fun _ _ => .ok _
  | property name => rcases fit.origin with other | other | other <;> cases other
  | propertyWhenPresent name => cases fit.origin
  | unspecified => exact fit.origin.elim

/-- An update is written, or refused because it sets nothing. -/
theorem Update.orderly_render {u : Update} {dialect : Dialect}
    (fit : ∀ m ∈ u.mappings, m.IsFit .update)
    (converts : ∀ site ∈ Criterion.listSites u.criteria, site.Converts) :
    Orderly (u.render dialect) := by
  have assigned : ∀ m ∈ u.mappings, Orderly (assignment? m) := by
    intro m mem
    unfold assignment?
    refine (orderly_setting? (fit m mem)).bind fun setting? _ => ?_
    cases setting? with
    | none => exact .ok none
    | some f => exact (fit m mem).orderly_named.bind fun _ _ => .ok _
  have written : Orderly u.fragment := by
    unfold fragment
    refine (Orderly.mapM assigned).bind fun assignments _ => ?_
    refine .guard trivial fun _ => ?_
    exact (Orderly.of_reports_nil (Criterion.reports_whereFragment converts)).bind fun _ _ => .ok _
  exact written.bind fun _ _ => .ok _

end BoundSql
