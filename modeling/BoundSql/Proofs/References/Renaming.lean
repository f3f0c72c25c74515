import BoundSql.Proofs.Nesting

/-!
# Columns under other names

`Select.renamed` gives every column of a select statement another name, on all of its levels, and
leaves everything else as it is: the tables, the aliases, the values, the nesting.  What a statement
makes of its column names is what changes with them.

The new name may depend on everything about the column, so two columns of one name can be told
apart, and a column keeps its table, its type and its qualifier under any name.  A naming need not
be injective.

A name counts only when a column is written.  Conversions, checks and aliases are the same under any
names, which is what the second half of this module says.  At its end stands that the own names
change nothing: statements about all names are statements about the given one, too.

The recursion follows the nesting of statements and sources, once for each kind of list in them, so
that it is structural; `Select.renamed_eq` and its like say what this means for one level.
-/

namespace BoundSql

/-! ### Columns and expressions -/

/-- A name for every column. -/
abbrev Naming := Column → String

/-- The naming by which every column keeps its name. -/
def Naming.own : Naming := Column.name

variable (names : Naming)

/-- The column under the name that it is given. -/
def Column.renamed (c : Column) : Column := { c with name := names c }

/-- The expression with its column renamed. -/
def Expression.renamed : Expression → Expression
  | column c => column (c.renamed names)
  | all table => all table
  | apply f argument alias? => apply f argument.renamed alias?
  | substring argument offset length alias? => substring argument.renamed offset length alias?
  | count argument distinct alias? => count argument.renamed distinct alias?
  | countAll alias? => countAll alias?

/-- The condition with the column that it compares with renamed. -/
def Condition.renamed : Condition → Condition
  | equalTo right => equalTo (right.renamed names)
  | condition => condition

mutual

/-- The criterion and its group with their columns renamed. -/
def Criterion.renamed : Criterion → Criterion
  | .mk connector column condition group =>
    .mk connector (column.renamed names) (condition.renamed names) (Criterion.renamedList group)

/-- The criteria with their columns renamed. -/
def Criterion.renamedList : List Criterion → List Criterion
  | [] => []
  | c :: cs => Criterion.renamed c :: Criterion.renamedList cs

end

/-! ### Statements -/

mutual

/-- The source with its columns renamed. -/
def Source.renamed : Source → Source
  | .subquery q => .subquery (Source.renamedSelect q)
  | .table t => .table t
  | .named schema? name => .named schema? name
  | .recurring => .recurring
  | .foreign owner lacking => .foreign owner lacking

/-- The select statement with its columns renamed. -/
def Source.renamedSelect : Query → Query
  | ⟨kind, distinct, columns, from?, joins, criteria, groupBy, orderBy, limit?, offset?⟩ =>
    ⟨kind, distinct, columns.map (·.renamed names), Source.renamedFrom from?,
      Source.renamedJoins joins, Criterion.renamedList names criteria,
      groupBy.map (·.renamed names), orderBy.map (·.renamed names), limit?, offset?⟩

/-- What a statement draws from, with its columns renamed. -/
def Source.renamedFrom : Option (From Source) → Option (From Source)
  | none => none
  | some ⟨source, alias?⟩ => some ⟨Source.renamed source, alias?⟩

/-- The joins with their columns renamed. -/
def Source.renamedJoins : List (Join Source) → List (Join Source)
  | [] => []
  | ⟨kind, source, alias?, criteria⟩ :: rest =>
    ⟨kind, Source.renamed source, alias?, Criterion.renamedList names criteria⟩ ::
      Source.renamedJoins rest

end

/-- The join with its columns renamed. -/
def Join.renamed (join : Join Source) : Join Source :=
  ⟨join.kind, join.source.renamed names, join.alias?, Criterion.renamedList names join.criteria⟩

/-- The select statement with its columns renamed, on all of its levels. -/
def Select.renamed (q : Query) : Query := Source.renamedSelect names q

/-- A select statement as a source is renamed as a select statement. -/
theorem Source.renamed_subquery (q : Query) :
    (Source.subquery q).renamed names = .subquery (q.renamed names) := by
  rw [Source.renamed, Select.renamed]

/-- The criteria of a list are renamed one by one. -/
theorem Criterion.renamedList_eq_map (criteria : List Criterion) :
    renamedList names criteria = criteria.map (renamed names) := by
  induction criteria with
  | nil => rw [renamedList]; rfl
  | cons c criteria ih => rw [renamedList, ih, List.map_cons]

/-- The joins are renamed one by one. -/
theorem Source.renamedJoins_eq_map (joins : List (Join Source)) :
    Source.renamedJoins names joins = joins.map (Join.renamed names) := by
  induction joins with
  | nil => rw [Source.renamedJoins]; rfl
  | cons j joins ih =>
      obtain ⟨kind, source, alias?, criteria⟩ := j
      rw [Source.renamedJoins, ih, List.map_cons, Join.renamed]

/-- One level of a select statement with its columns renamed. -/
theorem Select.renamed_eq (q : Query) :
    q.renamed names =
      { q with
        columns := q.columns.map (·.renamed names)
        from? := q.from?.map fun f => ⟨f.source.renamed names, f.alias?⟩
        joins := q.joins.map (Join.renamed names)
        criteria := Criterion.renamedList names q.criteria
        groupBy := q.groupBy.map (·.renamed names)
        orderBy := q.orderBy.map (·.renamed names) } := by
  obtain ⟨kind, distinct, columns, from?, joins, criteria, groupBy, orderBy, limit?, offset?⟩ := q
  rw [Select.renamed, Source.renamedSelect, Source.renamedJoins_eq_map]
  cases from? with
  | none => rw [Source.renamedFrom]; rfl
  | some f => rw [Source.renamedFrom]; rfl

/-! ### What is left as it is -/

@[simp] theorem Expression.alias?_renamed (e : Expression) :
    (e.renamed names).alias? = e.alias? := by
  cases e <;> rfl

/-- A value is converted by the type of the column, not by its name. -/
@[simp] theorem Expression.convert_renamed (e : Expression) (v : Value) :
    (e.renamed names).convert v = e.convert v := by
  induction e with
  | column c => rfl
  | apply f argument alias? ih => exact ih
  | substring argument offset length alias? ih => exact ih
  | all table => rfl
  | count argument distinct alias? ih => rfl
  | countAll alias? => rfl

/-- Whether a condition declines is decided by its value. -/
@[simp] theorem Condition.renders_renamed (condition : Condition) :
    (condition.renamed names).renders = condition.renders := by
  cases condition <;> rfl

theorem Source.table?_renamed (source : Source) :
    (source.renamed names).table? = source.table? := by
  cases source <;> rw [Source.renamed]
  rfl

theorem Source.isSelect_renamed (source : Source) :
    (source.renamed names).isSelect = source.isSelect := by
  cases source <;> rw [Source.renamed]
  rfl

namespace Select

/-- Aliases are given to tables, so the same ones are in scope under any names. -/
theorem scope_renamed (q : Query) :
    (q.renamed names).scope Source.table? = q.scope Source.table? := by
  rw [renamed_eq]
  unfold scope
  cases q.from? <;>
    simp [List.foldl_map, Join.renamed, Source.table?_renamed]

/-- A statement is checked for its parts, not for what its columns are called. -/
theorem check_renamed (q : Query) :
    (q.renamed names).check Source.isSelect = q.check Source.isSelect := by
  have joins : (q.joins.map (Join.renamed names)).findSome? (joinProblem? Source.isSelect) =
      q.joins.findSome? (joinProblem? Source.isSelect) := by
    rw [List.findSome?_map]
    refine congrArg (List.findSome? · q.joins) (funext fun join => ?_)
    have criteria :
        (Criterion.renamedList names join.criteria).isEmpty = join.criteria.isEmpty := by
      rw [Criterion.renamedList_eq_map, List.isEmpty_map]
    simp only [Function.comp_apply, joinProblem?, Join.renamed, criteria, Source.isSelect_renamed]
  rw [renamed_eq]
  simp only [check, List.isEmpty_map, Option.isNone_map, joins]

end Select

/-! ### The own names -/

theorem Expression.renamed_own (e : Expression) : e.renamed .own = e := by
  induction e with
  | column c => rfl
  | apply f argument alias? ih => rw [renamed, ih]
  | substring argument offset length alias? ih => rw [renamed, ih]
  | count argument distinct alias? ih => rw [renamed, ih]
  | all table => rfl
  | countAll alias? => rfl

theorem Condition.renamed_own (condition : Condition) : condition.renamed .own = condition := by
  cases condition with
  | equalTo right => rw [renamed, right.renamed_own]
  | _ => rfl

mutual

theorem Criterion.renamed_own : ∀ criterion : Criterion, criterion.renamed .own = criterion
  | .mk connector column condition group => by
    rw [Criterion.renamed, column.renamed_own, condition.renamed_own,
      Criterion.renamedList_own group]

theorem Criterion.renamedList_own : ∀ criteria : List Criterion,
    Criterion.renamedList .own criteria = criteria
  | [] => by rw [Criterion.renamedList]
  | criterion :: criteria => by
    rw [Criterion.renamedList, Criterion.renamed_own criterion, Criterion.renamedList_own criteria]

end

/-- A statement whose columns keep their names stays as it is.  The induction is over the nesting of
its sources. -/
theorem Select.renamed_own (q : Query) : q.renamed .own = q := by
  induction q using nesting_induction with
  | level q nested =>
      have source : ∀ s ∈ q.sources, s.renamed .own = s := by
        intro s mem
        cases s with
        | subquery r => rw [Source.renamed_subquery, nested r mem]
        | _ => rw [Source.renamed]
      have joins : q.joins.map (Join.renamed .own) = q.joins := by
        refine (List.map_congr_left fun j mem => ?_).trans (List.map_id q.joins)
        rw [Join.renamed, source j.source (join_mem_sources mem), Criterion.renamedList_own]
        rfl
      have drawn : q.from?.map (fun f => (⟨f.source.renamed .own, f.alias?⟩ : From Source)) =
          q.from? := by
        cases hf : q.from? with
        | none => rfl
        | some f => rw [Option.map_some, source f.source (from_mem_sources hf)]
      have expressions (es : List Expression) : es.map (·.renamed .own) = es :=
        List.map_id'' Expression.renamed_own es
      rw [renamed_eq, joins, drawn, expressions, expressions, expressions,
        Criterion.renamedList_own]

end BoundSql
