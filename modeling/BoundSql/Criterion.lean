import BoundSql.Condition

/-!
# Criteria

A criterion puts an expression under a condition and may carry a group of further criteria.
Criteria are written one behind the other, each with its connector, the first of those that
are written without.  A criterion with a group stands in parentheses together with its group,
unless only one member of them is written.  What declines to be written leaves no trace.

## Main definitions

* `Criterion` : a criterion with its group.
* `Criterion.fragment?` : the text of one criterion, if anything of it is written.
* `Criterion.survivors` : what is written of a list of criteria, each with its connector.
* `Criterion.clause?` : the text of a list of criteria.
-/

namespace BoundSql

/-- How a criterion is connected with what stands before it. -/
inductive Connector where
  | and
  | or
deriving DecidableEq, Repr

/-- The connector in SQL. -/
def Connector.word : Connector → String
  | and => "AND"
  | or => "OR"

/-- An expression under a condition, with a group of further criteria. -/
inductive Criterion where
  | mk (connector : Connector) (column : Expression) (condition : Condition)
    (group : List Criterion)

namespace Criterion

/-- How the criterion is connected with what stands before it. -/
def connector : Criterion → Connector
  | mk connector _ _ _ => connector

/-- Terms one behind the other, each behind its connector except the first. -/
def chain : List (Connector × Fragment) → Fragment
  | [] => []
  | (_, f) :: rest => f ++ rest.flatMap fun t => .sql (" " ++ t.1.word ++ " ") :: t.2

/-- The terms of a group as one term: a single one stands for itself, several are enclosed in
parentheses. -/
def enclose? : List (Connector × Fragment) → Option Fragment
  | [] => none
  | [(_, f)] => some f
  | terms => some (Fragment.parenthesized (chain terms))

mutual

/-- The text of a criterion and its group, if anything of it is written. -/
def fragment? (scope : Scope) : Criterion → Except Error (Option Fragment)
  | mk connector column condition group => do
    let head ← if condition.renders then
        (fun f => [(connector, f)]) <$> condition.fragment scope column
      else pure []
    let rest ← survivors scope group
    return enclose? (head ++ rest)

/-- What is written of a list of criteria, each with its connector. -/
def survivors (scope : Scope) : List Criterion → Except Error (List (Connector × Fragment))
  | [] => .ok []
  | c :: cs => do
    let f? ← fragment? scope c
    let rest ← survivors scope cs
    return (f?.map fun f => (c.connector, f)).toList ++ rest

end

/-- The text of a list of criteria, if anything of it is written. -/
def clause? (scope : Scope) (criteria : List Criterion) : Except Error (Option Fragment) := do
  let terms ← survivors scope criteria
  return if terms.isEmpty then none else some (chain terms)

/-- The `WHERE` clause, which is left out when nothing of it is written. -/
def whereFragment (scope : Scope) (criteria : List Criterion) : Except Error Fragment := do
  let clause? ← clause? scope criteria
  return match clause? with
    | some clause => .sql " WHERE " :: clause
    | none => []

end Criterion

end BoundSql
