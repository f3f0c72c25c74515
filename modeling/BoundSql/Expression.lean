import BoundSql.Context

/-!
# Column expressions

What can stand in a select list or on the left of a condition: a column, all columns of a
table, a function of an expression, a substring, or a count.

## Main definitions

* `Expression` : the expressions, each with an optional alias.
* `Expression.fragment` : the text, in the scope of some table aliases.
* `Expression.convert` : the conversion of values compared with the expression.  A function
  converts as its argument does, a count not at all.
* `Expression.orderName?` : the name by which to sort; only columns and aliased expressions
  have one.
* `Expression.asColumn` : the column that an expression is, where only a column will do.
-/

namespace BoundSql

/-- The functions of one argument. -/
inductive ScalarFunction where
  | upper
  | lower
  | max
  | min
  | avg
  | sum
deriving DecidableEq, Repr

/-- The name of a function in SQL. -/
def ScalarFunction.name : ScalarFunction → String
  | upper => "UPPER"
  | lower => "LOWER"
  | max => "MAX"
  | min => "MIN"
  | avg => "AVG"
  | sum => "SUM"

/-- The function that a call of this name makes. -/
def ScalarFunction.ofName? : String → Option ScalarFunction
  | "upper" => some upper
  | "lower" => some lower
  | "max_" => some max
  | "min_" => some min
  | "avg" => some avg
  | "sum_" => some sum
  | _ => none

/-- An expression over columns. -/
inductive Expression where
  | column (c : Column)
  | all (table : Table)
  | apply (function : ScalarFunction) (argument : Expression) (alias? : Option String)
  | substring (argument : Expression) (offset length : Int) (alias? : Option String)
  | count (argument : Expression) (distinct : Bool) (alias? : Option String)
  | countAll (alias? : Option String)

namespace Expression

/-- The alias in the select list. -/
def alias? : Expression → Option String
  | column c => c.alias?
  | all _ => none
  | apply _ _ alias? => alias?
  | substring _ _ _ alias? => alias?
  | count _ _ alias? => alias?
  | countAll alias? => alias?

/-- The expression under an alias, or under none.  The projection of all columns cannot be
renamed in either way. -/
def as (name? : Option String) : Expression → Except Error Expression
  | column c => .ok (column (c.as name?))
  | all _ => .error .aliasedStar
  | apply f argument _ => .ok (apply f argument name?)
  | substring argument offset length _ => .ok (substring argument offset length name?)
  | count argument distinct _ => .ok (count argument distinct name?)
  | countAll _ => .ok (countAll name?)

/-- The name of an expression's kind in messages. -/
def kindName : Expression → String
  | column _ => "SqlColumn"
  | all _ => "AllColumns"
  | apply _ _ _ => "UniFunction"
  | substring _ _ _ _ => "Substring"
  | count _ _ _ => "Count"
  | countAll _ => "CountAll"

/-- The column that the expression is.  An expression of another kind lacks the attribute that
it was wanted for. -/
def asColumn (wanted : String) : Expression → Except Error Column
  | column c => .ok c
  | e => .error (.attributeMissing e.kindName wanted)

/-- Is the expression sorted downwards? Only columns can be. -/
def isDescending : Expression → Bool
  | column c => c.descending
  | _ => false

/-- Converts a value compared with the expression. -/
def convert : Expression → Value → Except Error Value
  | column c, v => c.convert v
  | apply _ argument _, v => argument.convert v
  | substring argument _ _ _, v => argument.convert v
  | all _, v => .ok v
  | count _ _ _, v => .ok v
  | countAll _, v => .ok v

/-- The text of an expression, without its alias. -/
def fragment (scope : Scope) : Expression → Fragment
  | column c => c.fragment scope
  | all _ => [.sql "*"]
  | apply f argument _ => .sql (f.name ++ "(") :: argument.fragment scope ++ [.sql ")"]
  | substring argument offset length _ =>
    .sql "SUBSTRING(" :: argument.fragment scope ++
      [.sql (", " ++ toString offset ++ ", " ++ toString length ++ ")")]
  | count argument distinct _ =>
    .sql (if distinct then "COUNT(DISTINCT " else "COUNT(") :: argument.fragment scope ++
      [.sql ")"]
  | countAll _ => [.sql "COUNT(*)"]

/-- The text of an expression in a select list, where its alias follows it. -/
def selectFragment (scope : Scope) (e : Expression) : Fragment :=
  (e.fragment scope).withAlias " AS " e.alias?

/-- The name to sort by. -/
def orderName? : Expression → Option String
  | column c => some c.orderName
  | e => nonempty? e.alias?

end Expression

end BoundSql
