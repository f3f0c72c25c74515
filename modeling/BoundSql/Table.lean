import BoundSql.Error
import BoundSql.Dialect
import BoundSql.Text.CamelCase

/-!
# Tables and columns

A table is a named reference with an identity of its own: two tables of one name are different
tables.  A column belongs to a table and never changes; selecting it under an alias, sorting by
it downwards or qualifying it by hand gives another column.  A catalog remembers the columns
declared on each table.

## Main definitions

* `Table`, `Column` : the two kinds of name.
* `Column.convert` : the conversion applied to every value bound for a column.
* `Catalog` : the declared columns, with `Catalog.create`, `Catalog.declare` and
  `Catalog.columns`.
-/

namespace BoundSql

/-- A table: its identity, its name and the schema it lies in. -/
structure Table where
  id : Nat
  name : String
  schema? : Option String
deriving DecidableEq, Repr

/-- The table as it is shown to the user. -/
def Table.shown (t : Table) : String := "SqlTable(" ++ prefixed t.schema? t.name ++ ")"

/-- A conversion that the caller attaches to a column. -/
abbrev Converter := Value → Except Raised Value

/-- A column of a table.  An explicit qualifier takes the place of the table's alias. -/
structure Column where
  name : String
  table : Table
  alias? : Option String
  descending : Bool
  qualifier? : Option String
  converter? : Option Converter

namespace Column

/-- The column as first declared. -/
def plain (name : String) (table : Table) (converter? : Option Converter) : Column :=
  ⟨name, table, none, false, none, converter?⟩

/-- The column under an alias, or under none. -/
def as (c : Column) (alias? : Option String) : Column := { c with alias? }

/-- The column, sorted downwards where it is sorted by. -/
def descend (c : Column) : Column := { c with descending := true }

/-- The column behind a qualifier of the caller's choice, or behind none. -/
def qualifiedWith (c : Column) (qualifier? : Option String) : Column := { c with qualifier? }

/-- The column with a conversion for its values. -/
def convertedBy (c : Column) (converter : Converter) : Column :=
  { c with converter? := some converter }

/-- The column under its name in camel case, between double quotes. -/
def asCamelCase (c : Column) : Column := c.as (some ("\"" ++ Text.camelCase c.name ++ "\""))

/-- Converts a value bound for the column.  Null is never converted. -/
def convert (c : Column) (v : Value) : Except Error Value :=
  if v.isNull then .ok v
  else
    match c.converter? with
    | none => .ok v
    | some f => (f v).mapError Error.raised

@[simp] theorem convert_null (c : Column) : c.convert .null = .ok .null := rfl

/-- The name that sorts by the column: its alias, or else its own name. -/
def orderName (c : Column) : String := (nonempty? c.alias?).getD c.name

end Column

/-! ### Declared columns -/

/-- The columns declared on one table, in order of first declaration. -/
abbrev Declared := List Column

/-- Declares a column.  A name that is already declared keeps its place: without a conversion the
declaration changes nothing, with one the declared column takes it over.  The result is the
column now declared under the name. -/
def Declared.declare (table : Table) (name : String) (converter? : Option Converter) :
    Declared → Column × Declared
  | [] => let c := Column.plain name table converter?; (c, [c])
  | c :: rest =>
    if c.name = name then
      match converter? with
      | none => (c, c :: rest)
      | some f => (c.convertedBy f, c.convertedBy f :: rest)
    else
      let (found, rest) := Declared.declare table name converter? rest
      (found, c :: rest)

/-- The tables that were created, each with its declared columns.  A table's identity is its
place in the catalog. -/
structure Catalog where
  entries : List (Table × Declared) := []

namespace Catalog

/-- Creates a table, which must have a name. -/
def create (catalog : Catalog) (name : String) (schema? : Option String) :
    Except Error (Table × Catalog) :=
  if name = "" then .error .emptyTableName
  else
    let table : Table := ⟨catalog.entries.length, name, schema?⟩
    .ok (table, ⟨catalog.entries ++ [(table, [])]⟩)

/-- The declared columns of a table, in order of first declaration. -/
def columns (catalog : Catalog) (table : Table) : Declared :=
  match catalog.entries.find? fun entry => entry.1.id == table.id with
  | some entry => entry.2
  | none => []

/-- Declares a column on a table. -/
def declare (catalog : Catalog) (table : Table) (name : String)
    (converter? : Option Converter) : Column × Catalog :=
  let (column, declared) := (catalog.columns table).declare table name converter?
  (column, ⟨catalog.entries.map fun entry =>
    if entry.1.id == table.id then (entry.1, declared) else entry⟩)

end Catalog

end BoundSql
