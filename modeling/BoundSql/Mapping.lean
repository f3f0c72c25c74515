import BoundSql.Criterion

/-!
# Column mappings

A mapping says where the value of one column comes from in an insert or an update: nowhere
(null), literal SQL, a string literal, a property of the record, a value, or another column.
Not every statement takes every mapping.  What is mapped has to be a column by the time that its
name is written; until then any expression will do.

## Main definitions

* `Mapping` : a column and the origin of its value, with `Mapping.named`, the column itself.
* `Mapping.literal` : the text of the mappings that are literals.
* `insertFragment`, `insertSelectFragment` : the skeletons of the insert statements.
-/

namespace BoundSql

/-- Where the value of a column comes from. -/
inductive Origin where
  /-- Nothing is said about the value; no statement takes such a mapping. -/
  | unspecified
  | null
  | constant (sql : String)
  | stringConstant (text : String)
  | property (name : String)
  | propertyWhenPresent (name : String)
  | value (v : Value)
  | valueWhenPresent (v : Value)
  | expression (e : Expression)

/-- The kind of mapping with this origin. -/
def Origin.kind : Origin → MappingKind
  | unspecified => .plain
  | null => .null
  | constant _ => .constant
  | stringConstant _ => .stringConstant
  | property _ => .property
  | propertyWhenPresent _ => .propertyWhenPresent
  | value _ => .value
  | valueWhenPresent _ => .valueWhenPresent
  | expression _ => .columnToColumn

/-- A column and the origin of its value. -/
structure Mapping where
  column : Expression
  origin : Origin

namespace Mapping

/-- The column that is mapped, where its name is needed. -/
def named (m : Mapping) : Except Error Column := m.column.asColumn "name"

/-- The property the mapping reads, if it reads one. -/
def property? (m : Mapping) : Option String :=
  match m.origin with
  | .property name => some name
  | .propertyWhenPresent name => some name
  | _ => none

/-- The value the mapping supplies, if it supplies one. -/
def value? (m : Mapping) : Option Value :=
  match m.origin with
  | .value v => some v
  | .valueWhenPresent v => some v
  | _ => none

/-- Does the mapping count only when its value is present, and is it absent? -/
def declines (m : Mapping) : Bool :=
  match m.origin with
  | .valueWhenPresent v => v.isNull
  | _ => false

/-- The text of a mapping that is a literal; every other mapping is refused. -/
def literal (m : Mapping) : Except Error Fragment :=
  match m.origin with
  | .null => .ok [.sql "NULL"]
  | .stringConstant text => .ok [.literal text]
  | .constant sql => .ok [.sql sql]
  | origin => .error (.notLiteral origin.kind)

end Mapping

/-- The beginning of an insert statement: table and columns. -/
def insertHead (table : Fragment) (columns : List String) : Fragment :=
  .sql "INSERT INTO " :: table ++ .sql " (" ::
    Fragment.joined ", " (columns.map fun c => [.name c]) ++ [.sql ")"]

/-- An insert of rows, each a list of value expressions. -/
def insertFragment (table : Fragment) (columns : List String) (rows : List (List Fragment)) :
    Fragment :=
  insertHead table columns ++ .sql " VALUES " ::
    Fragment.joined ", " (rows.map fun row => (Fragment.joined ", " row).parenthesized)

/-- An insert of the rows of a select statement.  The columns may be left out. -/
def insertSelectFragment (table : Fragment) (columns : List String) (select : Fragment) :
    Fragment :=
  (if columns.isEmpty then .sql "INSERT INTO " :: table else insertHead table columns) ++
    .sql " " :: select

end BoundSql
