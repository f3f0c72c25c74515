import BoundSql.Fragment
import BoundSql.Table

/-!
# Rendering contexts

Writing a fragment needs a dialect, a supply of parameter names and a place to collect the
bound values.  A context holds these for one statement, together with the table aliases that are
in scope.  A subquery is written in a child context, which goes on with the same names and the
same parameters but knows none of the aliases.

## Main definitions

* `Namer` : the sequence of parameter names `p1`, `p2`, ….
* `Parameters` : the bound values by name, in order of first binding.
* `Scope` : the alias under which each table is known.
* `Context`, `Context.bind`, `Context.child` : the context and its two basic operations.
* `Fragment.write` : the text of a fragment, and the context after it.
* `Fragment.render` : the text and the parameters of a fragment that is a whole statement.
-/

namespace BoundSql

/-! ### Parameter names -/

/-- A sequence of parameter names: a common beginning and a running number. -/
structure Namer where
  stem : String := "p"
  used : Nat := 0
deriving DecidableEq, Repr

namespace Namer

/-- The next name, and the sequence after it.  Numbers start at one. -/
def next (namer : Namer) : String × Namer :=
  (namer.stem ++ toString (namer.used + 1), { namer with used := namer.used + 1 })

/-- The next `count` names. -/
def take (namer : Namer) : Nat → List String
  | 0 => []
  | count + 1 => namer.next.1 :: namer.next.2.take count

end Namer

/-- Bound values by parameter name. -/
abbrev Parameters := Assoc String Value

/-- The reference to a parameter in statement text. -/
def placeholder (name : String) : String := ":" ++ name

/-! ### Table aliases -/

/-- The alias under which each table is known, by the table's identity. -/
abbrev Scope := Assoc Nat String

namespace Scope

/-- Makes a table known under an alias.  An empty or missing alias changes nothing, a further
one takes the place of the one before. -/
def register (scope : Scope) (table : Table) (alias? : Option String) : Scope :=
  match nonempty? alias? with
  | some name => Assoc.put table.id name scope
  | none => scope

/-- The alias of a table. -/
def alias? (scope : Scope) (table : Table) : Option String := Assoc.get? table.id scope

end Scope

/-- A table name behind its schema. -/
def Table.fragment (table : Table) : Fragment := .qualified table.schema? table.name

/-- The qualifier a column is written behind: the explicit one, or else its table's alias. -/
def Column.scopedQualifier? (column : Column) (scope : Scope) : Option String :=
  (nonempty? column.qualifier?).or (scope.alias? column.table)

/-- A column behind its qualifier. -/
def Column.fragment (column : Column) (scope : Scope) : Fragment :=
  .qualified (column.scopedQualifier? scope) column.name

/-! ### Contexts -/

/-- What the parts of one statement share: names already used and values already bound. -/
structure Bindings where
  namer : Namer := {}
  parameters : Parameters := []

/-- The state in which statement text is written. -/
structure Context where
  dialect : Dialect
  bindings : Bindings := {}
  scope : Scope := []

namespace Context

/-- The context for a subquery: no aliases are in scope. -/
def child (c : Context) : Context := { c with scope := [] }

/-- The context after a child was written into: the child's bindings count for both. -/
def resume (c child : Context) : Context := { c with bindings := child.bindings }

/-- Makes a table known under an alias. -/
def register (c : Context) (table : Table) (alias? : Option String) : Context :=
  { c with scope := c.scope.register table alias? }

/-- Binds a value under the next name; the result is the reference to it. -/
def bind (c : Context) (v : Value) : String × Context :=
  let (name, namer) := c.bindings.namer.next
  (placeholder name,
    { c with bindings := ⟨namer, Assoc.put name v c.bindings.parameters⟩ })

end Context

/-- The text of one piece, and the context after it. -/
def Piece.write : Piece → Context → String × Context
  | .sql s, c => (s, c)
  | .name s, c => (c.dialect.quote s, c)
  | .literal s, c => (Text.enclosed Text.singleQuote s, c)
  | .value v, c => c.bind v
  | .parameter p, c => (placeholder p, c)

/-- The text of a fragment, and the context after it. -/
def Fragment.write : Fragment → Context → String × Context
  | [], c => ("", c)
  | piece :: rest, c =>
    let (s, c) := piece.write c
    let (t, c) := Fragment.write rest c
    (s ++ t, c)

/-- The name of a table as the context writes it. -/
def Context.tableName (c : Context) (table : Table) : String :=
  (Fragment.write table.fragment c).1

/-- The name of a column as the context writes it. -/
def Context.columnName (c : Context) (column : Column) : String :=
  (Fragment.write (column.fragment c.scope) c).1

/-- The text of a statement and the values bound in it. -/
structure Rendered where
  sql : String
  parameters : Parameters

/-- The fragment as a whole statement. -/
def Fragment.render (f : Fragment) (dialect : Dialect) : Rendered :=
  let (sql, c) := f.write { dialect }
  ⟨sql, c.bindings.parameters⟩

end BoundSql
