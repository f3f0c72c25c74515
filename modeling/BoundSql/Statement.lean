import BoundSql.Insert.Row

/-!
# Rendered statements

What a builder renders to: the text with its parameters, marked with the kind of statement.
The inserts of records keep the records they were rendered from.

## Main definitions

* `Statement` : the rendered statements, over records of the type `ρ`.
-/

namespace BoundSql

/-- A rendered statement. -/
inductive Statement (ρ : Type) where
  | select (r : Rendered)
  | delete (r : Rendered)
  | update (r : Rendered)
  | insertValues (r : Rendered)
  | insertSelect (r : Rendered)
  | insertRow (r : Rendered) (row : ρ)
  | insertMultiple (r : Rendered) (records : List ρ)

namespace Statement

variable {ρ : Type}

/-- The text and the parameters of a statement. -/
def rendered : Statement ρ → Rendered
  | select r => r
  | delete r => r
  | update r => r
  | insertValues r => r
  | insertSelect r => r
  | insertRow r _ => r
  | insertMultiple r _ => r

/-- The text of a statement. -/
def sql (s : Statement ρ) : String := s.rendered.sql

/-- The parameters of a statement. -/
def parameters (s : Statement ρ) : Parameters := s.rendered.parameters

/-- The records a statement was rendered from. -/
def records : Statement ρ → List ρ
  | insertRow _ row => [row]
  | insertMultiple _ records => records
  | _ => []

/-- The name of a statement's kind in messages. -/
def kindName : Statement ρ → String
  | select _ => "SelectStatement"
  | delete _ => "DeleteStatement"
  | update _ => "UpdateStatement"
  | insertValues _ => "GeneralInsertStatement"
  | insertSelect _ => "InsertSelectStatement"
  | insertRow _ _ => "InsertStatement"
  | insertMultiple _ _ => "MultiRowInsertStatement"

end Statement

end BoundSql
