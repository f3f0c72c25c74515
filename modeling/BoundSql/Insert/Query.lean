import BoundSql.Mapping
import BoundSql.Select

/-!
# Inserts of selected rows

An insert whose rows come from a select statement.  The columns to be filled may be left out;
the select statement may not.
-/

namespace BoundSql

/-- An insert of the rows of a select statement, given as a `σ`. -/
structure InsertSelect (σ : Type) where
  table : Table
  columns : List Expression := []
  query? : Option σ := none

namespace InsertSelect

variable {σ : Type}

/-- Adds columns to be filled. -/
def addColumns (i : InsertSelect σ) (columns : List Expression) : InsertSelect σ :=
  { i with columns := i.columns ++ columns }

/-- Sets the select statement, in place of any before. -/
def setQuery (i : InsertSelect σ) (query : σ) : InsertSelect σ := { i with query? := some query }

/-- The text of the insert.  The columns are named after the select statement is written. -/
def fragment (i : InsertSelect Query) : Except Error Fragment :=
  match i.query? with
  | none => fail .missingSelect .insertSelect
  | some q => do
    let select ← q.fragment
    let columns ← i.columns.mapM (Expression.asColumn "name")
    return insertSelectFragment i.table.fragment (columns.map (·.name)) select

/-- The insert in a dialect. -/
def render (i : InsertSelect Query) (dialect : Dialect) : Except Error Rendered := do
  let f ← i.fragment
  return f.render dialect

end InsertSelect

end BoundSql
