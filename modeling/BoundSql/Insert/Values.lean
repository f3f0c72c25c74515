import BoundSql.Mapping

/-!
# Inserts of given values

An insert whose values are supplied directly, column by column.  A value that counts only when
present and is null leaves its column out; at least one column must remain.
-/

namespace BoundSql

/-- An insert of one row of given values. -/
structure InsertValues where
  table : Table
  mappings : List Mapping := []

namespace InsertValues

/-- What a column can be given by a call. -/
inductive Setting where
  | value (v : Value)
  | valueWhenPresent (v : Value)
  | null
  | constant (sql : String)
  | stringConstant (text : String)

/-- The origin of a column's value under a setting. -/
def Setting.origin : Setting → Origin
  | value v => .value v
  | valueWhenPresent v => .valueWhenPresent v
  | null => .null
  | constant sql => .constant sql
  | stringConstant text => .stringConstant text

/-- A call on the insert. -/
inductive Call where
  | set (column : Expression) (setting : Setting)

/-- Adds a mapping of any kind. -/
def add (i : InsertValues) (m : Mapping) : InsertValues :=
  { i with mappings := i.mappings ++ [m] }

/-- The effect of a call. -/
def call (i : InsertValues) : Call → InsertValues
  | .set column setting => i.add ⟨column, setting.origin⟩

/-- The value expression of a mapping. -/
def expression (m : Mapping) : Except Error Fragment :=
  match m.value? with
  | some v => do
    let v ← m.column.convert v
    return [.value v]
  | none => m.literal

/-- The name of a mapping's column and its value expression. -/
def entry (m : Mapping) : Except Error (String × Fragment) := do
  let value ← expression m
  let column ← m.named
  return (column.name, value)

/-- The text of the insert. -/
def fragment (i : InsertValues) : Except Error Fragment := do
  let entries ← (i.mappings.filter (!·.declines)).mapM entry
  if entries.isEmpty then fail .nothingToInsert .insertInto
  return insertFragment i.table.fragment (entries.map (·.1)) [entries.map (·.2)]

/-- The insert in a dialect. -/
def render (i : InsertValues) (dialect : Dialect) : Except Error Rendered := do
  let f ← i.fragment
  return f.render dialect

end InsertValues

end BoundSql
