import BoundSql.Mapping

/-!
# Update statements

An update statement sets columns of a table and restricts the rows to be changed.  A column may
be set to a value, to null, to a literal, or to another column; a value that counts only when
present and is null sets nothing.  At least one column must be set.
-/

namespace BoundSql

/-- An update statement. -/
structure Update where
  table : Table
  mappings : List Mapping := []
  criteria : List Criterion := []

namespace Update

/-- What a column can be set to by a call. -/
inductive Setting where
  | value (v : Value)
  | valueWhenPresent (v : Value)
  | null
  | constant (sql : String)
  | stringConstant (text : String)
  | expression (e : Expression)

/-- The origin of a column's value under a setting. -/
def Setting.origin : Setting → Origin
  | value v => .value v
  | valueWhenPresent v => .valueWhenPresent v
  | null => .null
  | constant sql => .constant sql
  | stringConstant text => .stringConstant text
  | expression e => .expression e

/-- A call on an update statement. -/
inductive Call where
  | set (column : Expression) (setting : Setting)
  | restrict (connector : Connector) (column : Expression) (condition : Condition)
    (group : List Criterion)

/-- Adds a mapping of any kind. -/
def add (u : Update) (m : Mapping) : Update := { u with mappings := u.mappings ++ [m] }

/-- The effect of a call. -/
def call (u : Update) : Call → Update
  | .set column setting => u.add ⟨column, setting.origin⟩
  | .restrict connector column condition group =>
    { u with criteria := u.criteria ++ [.mk connector column condition group] }

/-- What a column is set to, if the mapping sets anything. -/
def setting? (m : Mapping) : Except Error (Option Fragment) :=
  match m.origin with
  | .valueWhenPresent .null => .ok none
  | .value v | .valueWhenPresent v => do
    let v ← m.column.convert v
    return some [.value v]
  | .null => .ok (some [.sql "NULL"])
  | .stringConstant text => .ok (some [.literal text])
  | .constant sql => .ok (some [.sql sql])
  | .expression e => .ok (some (e.fragment []))
  | origin => fail (.unsupportedInUpdate origin.kind) .update

/-- One item of the `SET` clause, if the mapping sets anything. -/
def assignment? (m : Mapping) : Except Error (Option Fragment) := do
  match ← setting? m with
  | none => return none
  | some f =>
    let column ← m.named
    return some (.name column.name :: .sql " = " :: f)

/-- The text of an update statement. -/
def fragment (u : Update) : Except Error Fragment := do
  let assignments := (← u.mappings.mapM assignment?).filterMap id
  if assignments.isEmpty then fail .nothingToSet .update
  let restriction ← Criterion.whereFragment [] u.criteria
  return .sql "UPDATE " :: u.table.fragment ++ .sql " SET " ::
    Fragment.joined ", " assignments ++ restriction

/-- The update statement in a dialect. -/
def render (u : Update) (dialect : Dialect) : Except Error Rendered := do
  let f ← u.fragment
  return f.render dialect

end Update

end BoundSql
