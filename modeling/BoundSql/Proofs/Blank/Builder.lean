import BoundSql.Proofs.Builder
import BoundSql.Proofs.Nesting

/-!
# Builders without their data

`Builder.blank` takes the bound data out of a builder and leaves everything else as it is: the
tables, the columns, the kinds of condition, the nesting.  Of the data it keeps what a builder may
look at: whether a value is null, how long a list of values is, whether a limit is negative, and
which properties a record has.  Two builders that are blank alike differ only in bound data.

A blank builder converts nothing, so that no conversion can tell the data apart.

The definition follows that of builders, part by part, and every part is named, since the theorem is
read as a statement about this definition: the less is kept here, the more the theorem says.  What a
part keeps is to be seen at its values, which are `Value.blank`, for values that are bound, and
`Value.blankBound`, for numbers that are checked before they are bound.  The second keeps the type
of what is no number, because the type is named in the error.

The lemmas at the end say what a blank part has in common with the part: its text, apart from what
it binds, and everything that is asked of it before it is written.
-/

namespace BoundSql

/-! ### Values -/

/-- The value as far as a statement may look at it: null or not. -/
def Value.blank : Value → Value
  | .null => .null
  | _ => .int 0

@[simp] theorem Value.isNull_blank (v : Value) : v.blank.isNull = v.isNull := by
  cases v <;> rfl

/-- A number that limits the rows as far as a statement may look at it: negative or not.  What is
no number is told by its type. -/
def Value.blankBound (v : Value) : Value :=
  match v.number? with
  | some n => .int (if n < 0 then -1 else 0)
  | none =>
    match v with
    | .text _ => .text ""
    | .list _ => .list []
    | .tuple _ => .tuple []
    | .set _ => .set []
    | .object _ => .object []
    | v => v

/-! ### Columns -/

/-- The column without its conversion. -/
def Column.unconverted (c : Column) : Column := { c with converter? := none }

/-- The expression without the conversion of its column. -/
def Expression.unconverted : Expression → Expression
  | column c => column c.unconverted
  | all table => all table
  | apply f argument alias? => apply f argument.unconverted alias?
  | substring argument offset length alias? => substring argument.unconverted offset length alias?
  | count argument distinct alias? => count argument.unconverted distinct alias?
  | countAll alias? => countAll alias?

/-! ### Criteria and mappings -/

/-- The condition without its values.  Of a list of values the length counts, and nothing else. -/
def Condition.blank : Condition → Condition
  | null negated => null negated
  | compare comparison value whenPresent => compare comparison value.blank whenPresent
  | between negated low high => between negated low.blank high.blank
  | member negated values => member negated (values.map fun _ => .null)
  | equalTo right => equalTo right

mutual

/-- The criterion and its group without their values. -/
def Criterion.blank : Criterion → Criterion
  | .mk connector column condition group =>
    .mk connector column.unconverted condition.blank (Criterion.blankList group)

/-- The criteria without their values. -/
def Criterion.blankList : List Criterion → List Criterion
  | [] => []
  | c :: cs => Criterion.blank c :: Criterion.blankList cs

end

/-- The origin without its value. -/
def Origin.blank : Origin → Origin
  | value v => value v.blank
  | valueWhenPresent v => valueWhenPresent v.blank
  | origin => origin

/-- The mapping without its value. -/
def Mapping.blank (m : Mapping) : Mapping := ⟨m.column.unconverted, m.origin.blank⟩

/-! ### Statements -/

mutual

/-- The source without its data. -/
def Source.blank : Source → Source
  | .subquery q => .subquery (Source.blankSelect q)
  | .table t => .table t
  | .named schema? name => .named schema? name
  | .recurring => .recurring
  | .foreign owner lacking => .foreign owner lacking

/-- The select statement without its data. -/
def Source.blankSelect : Query → Query
  | ⟨kind, distinct, columns, from?, joins, criteria, groupBy, orderBy, limit?, offset?⟩ =>
    ⟨kind, distinct, columns, Source.blankFrom from?, Source.blankJoins joins,
      Criterion.blankList criteria, groupBy, orderBy, limit?.map Value.blankBound,
      offset?.map Value.blankBound⟩

/-- What a statement draws from, without its data. -/
def Source.blankFrom : Option (From Source) → Option (From Source)
  | none => none
  | some ⟨source, alias?⟩ => some ⟨Source.blank source, alias?⟩

/-- The joins without their data. -/
def Source.blankJoins : List (Join Source) → List (Join Source)
  | [] => []
  | ⟨kind, source, alias?, criteria⟩ :: rest =>
    ⟨kind, Source.blank source, alias?, Criterion.blankList criteria⟩ :: Source.blankJoins rest

end

/-- The join without its data. -/
def Join.blank (join : Join Source) : Join Source :=
  ⟨join.kind, join.source.blank, join.alias?, Criterion.blankList join.criteria⟩

/-- The select statement without its data, on all of its levels. -/
def Select.blank (q : Query) : Query := Source.blankSelect q

/-- The numbered statement without its data. -/
def NumberedBuilder.blank : NumberedBuilder → NumberedBuilder
  | select q => select q.blank
  | delete d => delete ⟨d.table, Criterion.blankList d.criteria⟩
  | update u =>
    update ⟨u.table, u.mappings.map Mapping.blank, Criterion.blankList u.criteria⟩
  | insertValues i => insertValues ⟨i.table, i.mappings.map Mapping.blank⟩
  | insertSelect i => insertSelect ⟨i.table, i.columns, i.query?.map Select.blank⟩

/-! ### Records -/

/-- The record without its values. -/
def Record.blank : Record → Record
  | mapping entries => mapping (entries.map fun entry => (entry.1, entry.2.blank))
  | object kind declared attributes =>
    object kind declared (attributes.map fun entry => (entry.1, entry.2.blank))
  | bare v => bare v.blankBound

/-- The target without conversions. -/
def RowTarget.blank (t : RowTarget) : RowTarget := ⟨t.table?, t.mappings.map Mapping.blank⟩

/-- The catalog without conversions. -/
def Catalog.unconverted (catalog : Catalog) : Catalog :=
  ⟨catalog.entries.map fun entry => (entry.1, entry.2.map Column.unconverted)⟩

/-- **The builder without its data.** -/
def Builder.blank : Builder → Builder
  | numbered b => numbered b.blank
  | insertRow i => insertRow ⟨i.target.blank, i.row.blank⟩
  | insertBatch i => insertBatch ⟨i.target.blank, i.records.map Record.blank⟩
  | insertMultiple i => insertMultiple ⟨i.target.blank, i.records.map Record.blank⟩

/-! ### What is left as it is -/

@[simp] theorem Column.fragment_unconverted (c : Column) (scope : Scope) :
    c.unconverted.fragment scope = c.fragment scope := rfl

@[simp] theorem Expression.fragment_unconverted (e : Expression) (scope : Scope) :
    e.unconverted.fragment scope = e.fragment scope := by
  induction e with
  | column c => rfl
  | all table => rfl
  | apply f argument alias? ih => simp only [unconverted, fragment, ih]
  | substring argument offset length alias? ih => simp only [unconverted, fragment, ih]
  | count argument distinct alias? ih => simp only [unconverted, fragment, ih]
  | countAll alias? => rfl

/-- What an expression is wanted as a column for is the same without its conversion. -/
theorem Expression.asColumn_unconverted (e : Expression) (wanted : String) :
    e.unconverted.asColumn wanted = Column.unconverted <$> e.asColumn wanted := by
  cases e <;> rfl

/-- Without a conversion every value is bound as it is. -/
theorem Expression.convert_unconverted (e : Expression) (v : Value) :
    e.unconverted.convert v = .ok v := by
  induction e with
  | column c =>
      show Column.convert c.unconverted v = .ok v
      unfold Column.convert
      split <;> rfl
  | all table => rfl
  | apply f argument alias? ih => exact ih
  | substring argument offset length alias? ih => exact ih
  | count argument distinct alias? ih => rfl
  | countAll alias? => rfl

@[simp] theorem Condition.renders_blank (condition : Condition) :
    condition.blank.renders = condition.renders := by
  cases condition with
  | compare comparison value whenPresent => simp [blank, renders]
  | member negated values => cases values <;> rfl
  | _ => rfl

/-- A list of criteria is made blank member by member. -/
theorem Criterion.blankList_eq_map (criteria : List Criterion) :
    blankList criteria = criteria.map blank := by
  induction criteria with
  | nil => rw [blankList]; rfl
  | cons c criteria ih => rw [blankList, ih, List.map_cons]

/-- A nested statement is made blank on all of its levels. -/
theorem Source.blank_subquery (q : Query) : (Source.subquery q).blank = .subquery q.blank := by
  rw [Source.blank, Select.blank]

theorem Source.blankJoins_eq_map (joins : List (Join Source)) :
    Source.blankJoins joins = joins.map Join.blank := by
  induction joins with
  | nil => rw [Source.blankJoins]; rfl
  | cons j joins ih =>
      obtain ⟨kind, source, alias?, criteria⟩ := j
      rw [Source.blankJoins, ih, List.map_cons, Join.blank]

/-- One level of a select statement without its data. -/
theorem Select.blank_eq (q : Query) :
    q.blank =
      { q with
        from? := q.from?.map fun f => ⟨f.source.blank, f.alias?⟩
        joins := q.joins.map Join.blank
        criteria := Criterion.blankList q.criteria
        limit? := q.limit?.map Value.blankBound
        offset? := q.offset?.map Value.blankBound } := by
  obtain ⟨kind, distinct, columns, from?, joins, criteria, groupBy, orderBy, limit?, offset?⟩ := q
  rw [Select.blank, Source.blankSelect, Source.blankJoins_eq_map]
  cases from? with
  | none => rw [Source.blankFrom]; rfl
  | some f => rw [Source.blankFrom]; rfl

end BoundSql
