import BoundSql.Criterion

/-!
# Delete statements

A delete statement names a table and restricts the rows to be removed.  Without a restriction
that is written it removes them all.
-/

namespace BoundSql

/-- A delete statement. -/
structure Delete where
  table : Table
  criteria : List Criterion := []

namespace Delete

/-- A call on a delete statement: one more criterion. -/
inductive Call where
  | restrict (connector : Connector) (column : Expression) (condition : Condition)
    (group : List Criterion)

/-- The effect of a call. -/
def call (d : Delete) : Call → Delete
  | .restrict connector column condition group =>
    { d with criteria := d.criteria ++ [.mk connector column condition group] }

/-- The text of a delete statement. -/
def fragment (d : Delete) : Except Error Fragment := do
  let restriction ← Criterion.whereFragment [] d.criteria
  return .sql "DELETE FROM " :: d.table.fragment ++ restriction

/-- The delete statement in a dialect. -/
def render (d : Delete) (dialect : Dialect) : Except Error Rendered := do
  let f ← d.fragment
  return f.render dialect

end Delete

end BoundSql
