import BoundSql.Dialect
import BoundSql.Value

/-!
# Fragments of statement text

A statement is first put together as a list of pieces, before a dialect is chosen and before
any parameter has a name.  A piece says what stands in the text: SQL that is written verbatim,
an identifier that the dialect quotes, a string literal, a place where a value is bound, or a
parameter whose name is already settled.  Choosing the dialect and numbering the bound values is
done afterwards, from left to right, in one place.

## Main definitions

* `Piece`, `Fragment` : the pieces and their lists.
* `Fragment.joined` : fragments with a separator between neighbours.
* `Fragment.values` : the values bound by a fragment, in order of the text.
-/

namespace BoundSql

/-- One piece of statement text. -/
inductive Piece where
  /-- SQL written as it is. -/
  | sql (s : String)
  /-- An identifier, quoted by the dialect. -/
  | name (s : String)
  /-- A string literal, in single quotes. -/
  | literal (s : String)
  /-- A value bound at this place, under the next free parameter name. -/
  | value (v : Value)
  /-- A parameter whose name is settled. -/
  | parameter (name : String)

/-- A piece of a statement, or all of it. -/
abbrev Fragment := List Piece

namespace Fragment

/-- The fragments with a separator between neighbours. -/
def joined (separator : String) : List Fragment → Fragment
  | [] => []
  | [f] => f
  | f :: g :: rest => f ++ .sql separator :: joined separator (g :: rest)

/-- The fragment between parentheses. -/
def parenthesized (f : Fragment) : Fragment := .sql "(" :: f ++ [.sql ")"]

/-- An optional alias behind what it names.  An empty alias is none. -/
def withAlias (f : Fragment) (separator : String) (alias? : Option String) : Fragment :=
  match nonempty? alias? with
  | some name => f ++ [.sql (separator ++ name)]
  | none => f

/-- A name behind its qualifier. -/
def qualified (qualifier? : Option String) (name : String) : Fragment :=
  match nonempty? qualifier? with
  | some qualifier => [.sql (qualifier ++ "."), .name name]
  | none => [.name name]

/-- The values the fragment binds, in the order of the text. -/
def values (f : Fragment) : List Value :=
  f.filterMap fun
    | .value v => some v
    | _ => none

@[simp] theorem values_nil : values [] = [] := rfl

@[simp] theorem values_append (f g : Fragment) : values (f ++ g) = values f ++ values g := by
  simp [values]

end Fragment

end BoundSql
