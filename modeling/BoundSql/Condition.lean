import BoundSql.Expression

/-!
# Conditions

A condition is what a criterion demands of an expression.  A condition may decline to be
written: a comparison made only when its value is present, if the value is null, and a list
membership, if the list is empty.

## Main definitions

* `Condition` : the conditions.
* `Condition.renders` : does the condition take part in the statement?
* `Condition.fragment` : the text of an expression under the condition.
* `Condition.filter`, `Condition.map` : a list membership with other values.
-/

namespace BoundSql

/-- The comparisons of an expression with one value. -/
inductive Comparison where
  | equal
  | notEqual
  | greater
  | greaterOrEqual
  | less
  | lessOrEqual
  | like
  | notLike
deriving DecidableEq, Repr

/-- A comparison in SQL. -/
def Comparison.symbol : Comparison → String
  | equal => "="
  | notEqual => "<>"
  | greater => ">"
  | greaterOrEqual => ">="
  | less => "<"
  | lessOrEqual => "<="
  | like => "LIKE"
  | notLike => "NOT LIKE"

/-- The comparison of a name. -/
def Comparison.ofName? : String → Option Comparison
  | "is_equal_to" => some equal
  | "is_not_equal_to" => some notEqual
  | "is_greater_than" => some greater
  | "is_greater_than_or_equal_to" => some greaterOrEqual
  | "is_less_than" => some less
  | "is_less_than_or_equal_to" => some lessOrEqual
  | "is_like" => some like
  | "is_not_like" => some notLike
  | _ => none

/-- Is there a form of the comparison that is made only when its value is present? -/
def Comparison.isOptional : Comparison → Bool
  | equal | notEqual | greater | less | like => true
  | greaterOrEqual | lessOrEqual | notLike => false

/-- A demand on an expression. -/
inductive Condition where
  /-- The expression is null, or is not. -/
  | null (negated : Bool)
  /-- The expression compares with a value; possibly only when the value is present. -/
  | compare (comparison : Comparison) (value : Value) (whenPresent : Bool)
  /-- The expression lies between two values, or does not. -/
  | between (negated : Bool) (low high : Value)
  /-- The expression is one of the values, or none of them. -/
  | member (negated : Bool) (values : List Value)
  /-- The expression equals another one. -/
  | equalTo (right : Expression)

namespace Condition

/-- A list membership takes its values one by one or as a single list, tuple or set. -/
def spread : List Value → List Value
  | [.list values] | [.tuple values] | [.set values] => values
  | values => values

/-- Does the condition take part in the statement? -/
def renders : Condition → Bool
  | compare _ value whenPresent => !(whenPresent && value.isNull)
  | member _ values => !values.isEmpty
  | _ => true

/-- The word `NOT`, if asked for. -/
def negation (negated : Bool) : String := if negated then "NOT " else ""

/-- The text of an expression under the condition.  Every value is converted as the expression
demands and then bound, in the order of the text. -/
def fragment (scope : Scope) (e : Expression) : Condition → Except Error Fragment
  | null negated => .ok (e.fragment scope ++ [.sql (" IS " ++ negation negated ++ "NULL")])
  | compare comparison value _ => do
    let value ← e.convert value
    return e.fragment scope ++ [.sql (" " ++ comparison.symbol ++ " "), .value value]
  | between negated low high => do
    let low ← e.convert low
    let high ← e.convert high
    return e.fragment scope ++
      [.sql (" " ++ negation negated ++ "BETWEEN "), .value low, .sql " AND ", .value high]
  | member negated values => do
    let values ← values.mapM e.convert
    return e.fragment scope ++ .sql (" " ++ negation negated ++ "IN (") ::
      Fragment.joined "," (values.map fun v => [.value v]) ++ [.sql ")"]
  | equalTo right => .ok (e.fragment scope ++ .sql " = " :: right.fragment scope)

/-- The name of a condition's kind in messages. -/
def kindName : Condition → String
  | null _ => "NoValueCondition"
  | compare _ _ _ => "SingleValueCondition"
  | between _ _ _ => "TwoValueCondition"
  | member _ _ => "ListValueCondition"
  | equalTo _ => "ColumnComparisonCondition"

/-- A list membership restricted to the values that the caller's predicate accepts; other
conditions have no values to choose from. -/
def filter (accepts : Value → Except Raised Bool) : Condition → Except Error Condition
  | member negated values => (member negated <$> values.filterM accepts).mapError Error.raised
  | c => .error (.attributeMissing c.kindName "filter")

/-- A list membership with the caller's function applied to every value; other conditions have
no list of values. -/
def map (f : Value → Except Raised Value) : Condition → Except Error Condition
  | member negated values => (member negated <$> values.mapM f).mapError Error.raised
  | c => .error (.attributeMissing c.kindName "map")

end Condition

end BoundSql
