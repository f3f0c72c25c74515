import BoundSql.Text.Quoted

/-!
# Dialects

A dialect decides how an identifier is written.  The generic dialect writes it as it is, the
others enclose it in their quote.  Schemas and table aliases are never quoted.

## Main definitions

* `Dialect` : the three dialects, with `Dialect.name` and `Dialect.ofName?`.
* `Dialect.quote` : an identifier as the dialect writes it.
* `prefixed` : a name behind a qualifier, when there is one.
-/

namespace BoundSql

/-- The supported dialects. -/
inductive Dialect where
  | generic
  | postgresql
  | mysql
deriving DecidableEq, Repr

namespace Dialect

/-- The name a dialect is selected by. -/
def name : Dialect → String
  | generic => "generic"
  | postgresql => "postgresql"
  | mysql => "mysql"

/-- The dialect of a name, which must match letter by letter. -/
def ofName? (name : String) : Option Dialect :=
  [generic, postgresql, mysql].find? fun d => d.name == name

@[simp] theorem ofName?_name (d : Dialect) : ofName? d.name = some d := by
  cases d <;> decide

/-- The character the dialect encloses identifiers in, if it quotes them at all. -/
def quoteChar? : Dialect → Option Char
  | generic => none
  | postgresql => some Text.doubleQuote
  | mysql => some Text.graveAccent

/-- An identifier as the dialect writes it. -/
def quote (d : Dialect) (identifier : String) : String :=
  match d.quoteChar? with
  | none => identifier
  | some q => Text.enclosed q identifier

@[simp] theorem quote_generic (identifier : String) : quote generic identifier = identifier := rfl

end Dialect

/-- An optional text, with the empty text counted as absent. -/
def nonempty? (text? : Option String) : Option String := text?.filter (· ≠ "")

/-- The name behind the qualifier and a dot; without a qualifier, or with an empty one, the
name alone. -/
def prefixed (qualifier? : Option String) (name : String) : String :=
  match nonempty? qualifier? with
  | some qualifier => qualifier ++ "." ++ name
  | none => name

namespace Dialect

/-- A table name behind its schema. -/
def qualifiedTable (d : Dialect) (table : String) (schema? : Option String) : String :=
  prefixed schema? (d.quote table)

/-- A column name behind the alias of its table. -/
def qualifiedColumn (d : Dialect) (column : String) (qualifier? : Option String) : String :=
  prefixed qualifier? (d.quote column)

end Dialect

end BoundSql
