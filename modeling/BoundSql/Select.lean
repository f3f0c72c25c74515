import BoundSql.Criterion

/-!
# Select statements

A select statement draws a list of expressions from a source, joins further sources, and may
restrict, group, sort and cut the rows.  A source is a table or another select statement.

The aliases of a statement's own tables qualify its columns; what aliases an enclosing or a
nested statement uses makes no difference.

## Main definitions

* `Select` : a select statement over sources of any type.
* `Source` : a table, or a select statement over sources; or else what stands in their place.
* `Select.check` : the check of the statement itself, its sources and sort order apart.
* `Source.selectFragment` : the text of a select statement.
* `Select.renderIn`, `Select.render` : the statement written into a context, and on its own.
-/

namespace BoundSql

/-- The kinds of join. -/
inductive JoinKind where
  | inner
  | left
  | right
  | full
deriving DecidableEq, Repr

/-- A join in SQL. -/
def JoinKind.keyword : JoinKind → String
  | inner => "JOIN"
  | left => "LEFT JOIN"
  | right => "RIGHT JOIN"
  | full => "FULL JOIN"

/-- The kind of join that a call of this name makes. -/
def JoinKind.ofName? : String → Option JoinKind
  | "join" => some inner
  | "left_join" => some left
  | "right_join" => some right
  | "full_join" => some full
  | _ => none

/-- What a select statement draws from, under an optional alias. -/
structure From (σ : Type) where
  source : σ
  alias? : Option String

/-- A further source, joined on criteria. -/
structure Join (σ : Type) where
  kind : JoinKind
  source : σ
  alias? : Option String
  criteria : List Criterion

/-- A select statement over sources of the type `σ`. -/
structure Select (σ : Type) where
  kind : StatementKind
  distinct : Bool
  columns : List Expression
  from? : Option (From σ) := none
  joins : List (Join σ) := []
  criteria : List Criterion := []
  groupBy : List Expression := []
  orderBy : List Expression := []
  /-- The number of rows at most.  It is bound as the value it was given as. -/
  limit? : Option Value := none
  /-- The number of rows to leave out, bound likewise. -/
  offset? : Option Value := none

/-- A source of rows: a table or a select statement.  Something that is merely named as a table
is can stand in its place, and so can what has no rows to draw, which is refused when it is
written. -/
inductive Source where
  | table (t : Table)
  | subquery (q : Select Source)
  /-- A name, and perhaps a schema, of what is no table: no column belongs to it. -/
  | named (schema? : Option String) (name : String)
  /-- A select statement that contains itself, at the place where it would begin again. -/
  | recurring
  /-- Something of the named kind, which lacks an attribute that tables have. -/
  | foreign (owner lacking : String)

/-- The table, if the source is one. -/
def Source.table? : Source → Option Table
  | table t => some t
  | _ => none

/-- Is the source a select statement? -/
def Source.isSelect : Source → Bool
  | subquery _ | recurring => true
  | _ => false

/-- A select statement over tables and select statements. -/
abbrev Query := Select Source

/-! ### Starting a statement -/

namespace Select

variable {σ : Type}

/-- A selection of expressions. -/
def ofColumns (columns : List Expression) : Select σ :=
  { kind := .select, distinct := false, columns }

/-- A selection of expressions, without duplicates among the rows. -/
def distinctColumns (columns : List Expression) : Select σ :=
  { kind := .selectDistinct, distinct := true, columns }

/-- A count of the rows in which an expression is not null. -/
def countColumn (column : Expression) : Select σ :=
  { kind := .count, distinct := false, columns := [.count column false none] }

/-- A count of the different values of an expression. -/
def countDistinct (column : Expression) : Select σ :=
  { kind := .countDistinct, distinct := false, columns := [.count column true none] }

/-- Sets what the statement draws from. -/
def draw (q : Select σ) (source : σ) (alias? : Option String) : Select σ :=
  { q with from? := some ⟨source, alias?⟩ }

/-- A count of all rows of a source. -/
def countAll (source : σ) : Select σ :=
  draw { kind := .countFrom, distinct := false, columns := [.countAll none] } source none

/-- A selection whose rows are to be inserted elsewhere. -/
def forInsert (columns : List Expression) : Select σ :=
  { kind := .insertSelect, distinct := false, columns }

/-! ### Checking a statement -/

/-- What is wrong with one join: it has no criterion, or it joins a select statement that has
no name. -/
def joinProblem? (isSelect : σ → Bool) (join : Join σ) : Option BuildProblem :=
  if join.criteria.isEmpty then some .joinWithoutCriterion
  else if isSelect join.source && (nonempty? join.alias?).isNone then
    some .joinedSubqueryWithoutAlias
  else none

/-- Checks a value that limits the rows: it must be a number, and not a negative one. -/
def checkBound (negative : BuildProblem) (kind : StatementKind) :
    Option Value → Except Error Unit
  | none => .ok ()
  | some v =>
    match v.number? with
    | none => .error (.notComparable v.typeName)
    | some n => if n < 0 then fail negative kind else .ok ()

/-- Checks the statement itself; the first of an empty select list, a missing source, a
malformed join, an unfit limit and an unfit offset counts. -/
def check (isSelect : σ → Bool) (q : Select σ) : Except Error Unit := do
  if q.columns.isEmpty then fail .emptySelectList q.kind
  if q.from?.isNone then fail .missingFrom q.kind
  if let some problem := q.joins.findSome? (joinProblem? isSelect) then fail problem q.kind
  checkBound .negativeLimit q.kind q.limit?
  checkBound .negativeOffset q.kind q.offset?

/-- The aliases of the statement's own tables: that of the source, then those of the joins. -/
def scope (table? : σ → Option Table) (q : Select σ) : Scope :=
  let sources := (q.from?.map fun f => (f.source, f.alias?)).toList ++
    q.joins.map fun j => (j.source, j.alias?)
  sources.foldl (fun scope s =>
    match table? s.1 with
    | some t => scope.register t s.2
    | none => scope) []

/-- The statement over other sources. -/
def mapSources {τ : Type} (f : σ → τ) (q : Select σ) : Select τ where
  kind := q.kind
  distinct := q.distinct
  columns := q.columns
  from? := q.from?.map fun s => ⟨f s.source, s.alias?⟩
  joins := q.joins.map fun j => ⟨j.kind, f j.source, j.alias?, j.criteria⟩
  criteria := q.criteria
  groupBy := q.groupBy
  orderBy := q.orderBy
  limit? := q.limit?
  offset? := q.offset?

end Select

/-! ### The text of a statement -/

/-- One item of the sort order. -/
def Expression.orderFragment (e : Expression) : Except Error Fragment :=
  match e.orderName? with
  | some name => .ok [.sql (if e.isDescending then name ++ " DESC" else name)]
  | none => fail .notOrderable .select

/-- A value that limits the rows, bound behind its keyword. -/
def boundFragment (keyword : String) : Option Value → Fragment
  | some v => [.sql keyword, .value v]
  | none => []

/-- A clause that lists its items, left out when there are none. -/
def listFragment (keyword : String) (items : List Fragment) : Fragment :=
  if items.isEmpty then [] else .sql keyword :: Fragment.joined ", " items

/-- A join, given the text of its source.  A join none of whose criteria is written still has
its `ON`, which `None` follows. -/
def Join.fragment {σ : Type} (scope : Scope) (source : Fragment) (join : Join σ) :
    Except Error Fragment := do
  let clause? ← Criterion.clause? scope join.criteria
  return .sql (" " ++ join.kind.keyword ++ " ") :: source.withAlias " " join.alias? ++
    .sql " ON " :: clause?.getD [.sql "None"]

/-- The clauses behind the joins. -/
def Select.tailFragment {σ : Type} (scope : Scope) (q : Select σ) : Except Error Fragment := do
  let restriction ← Criterion.whereFragment scope q.criteria
  let order ← q.orderBy.mapM Expression.orderFragment
  return restriction ++
    listFragment " GROUP BY " (q.groupBy.map (·.fragment scope)) ++
    listFragment " ORDER BY " order ++
    boundFragment " LIMIT " q.limit? ++ boundFragment " OFFSET " q.offset?

/-- The clauses before the source. -/
def Select.headFragment {σ : Type} (scope : Scope) (q : Select σ) : Fragment :=
  .sql (if q.distinct then "SELECT DISTINCT " else "SELECT ") ::
    Fragment.joined ", " (q.columns.map (·.selectFragment scope)) ++ [.sql " FROM "]

mutual

/-- The text of a source: a name behind its schema, or a select statement in parentheses. -/
def Source.fragment : Source → Except Error Fragment
  | .table t => .ok t.fragment
  | .subquery q => do
    let f ← Source.selectFragment q
    return f.parenthesized
  | .named schema? name => .ok (.qualified schema? name)
  | .recurring => .error .cyclicSources
  | .foreign owner lacking => .error (.attributeMissing owner lacking)

/-- The text of a select statement.  It is refused when something is wrong with the statement
itself; what is wrong with a source comes to light when the source is written, and an
expression that cannot be sorted by after all sources. -/
def Source.selectFragment : Query → Except Error Fragment
  | ⟨kind, distinct, columns, from?, joins, criteria, groupBy, orderBy, limit?, offset?⟩ => do
    let q : Query :=
      ⟨kind, distinct, columns, from?, joins, criteria, groupBy, orderBy, limit?, offset?⟩
    q.check Source.isSelect
    let scope := q.scope Source.table?
    let source ← Source.fromFragment from?
    let joined ← Source.joinsFragment scope joins
    let tail ← q.tailFragment scope
    return q.headFragment scope ++ source ++ joined ++ tail

/-- The text of what a statement draws from, behind `FROM`. -/
def Source.fromFragment : Option (From Source) → Except Error Fragment
  | none => .ok []
  | some ⟨source, alias?⟩ => do
    let f ← source.fragment
    return f.withAlias " " alias?

/-- The text of the joins of a statement, in order. -/
def Source.joinsFragment (scope : Scope) : List (Join Source) → Except Error Fragment
  | [] => .ok []
  | ⟨kind, source, alias?, criteria⟩ :: rest => do
    let f ← source.fragment
    let join ← Join.fragment scope f (⟨kind, source, alias?, criteria⟩ : Join Source)
    let others ← Source.joinsFragment scope rest
    return join ++ others

end

namespace Select

/-- The text of a select statement. -/
def fragment (q : Query) : Except Error Fragment := Source.selectFragment q

/-- Writes a select statement into a context. -/
def renderIn (q : Query) (c : Context) : Except Error (String × Context) := do
  let f ← q.fragment
  return f.write c

/-- The select statement on its own. -/
def render (q : Query) (dialect : Dialect) : Except Error Rendered := do
  let f ← q.fragment
  return f.render dialect

end Select

end BoundSql
