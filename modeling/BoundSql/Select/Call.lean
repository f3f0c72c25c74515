import BoundSql.Select

/-!
# Building a select statement call by call

A select statement is completed by a chain of calls.  A call that adds a join moves the chain to
that join: there `on` and `and` add criteria to the join, and every clause of the statement
that can follow a join leads back to the statement.

## Main definitions

* `Select.Call` : the calls.
* `Select.Chain` : a statement together with the place the chain has reached.
* `Select.Chain.call?` : the effect of a call; some calls do not exist at a join, others only
  there.
-/

namespace BoundSql.Select

variable {σ : Type}

/-- A call on a select statement or on one of its joins. -/
inductive Call (σ : Type) where
  | restrict (column : Expression) (condition : Condition) (group : List Criterion)
  | and (column : Expression) (condition : Condition) (group : List Criterion)
  | or (column : Expression) (condition : Condition) (group : List Criterion)
  | on (column : Expression) (condition : Condition)
  | from (source : σ) (alias? : Option String)
  | join (kind : JoinKind) (source : σ) (alias? : Option String)
  | groupBy (columns : List Expression)
  | orderBy (columns : List Expression)
  | limit (count? : Option Value)
  | offset (count? : Option Value)

/-- A statement and the place a chain of calls has reached in it: the statement itself, or one
of its joins by position. -/
structure Chain (σ : Type) where
  query : Select σ
  join? : Option Nat := none

/-- Adds a criterion to the restriction of the rows. -/
def addCriterion (q : Select σ) (c : Criterion) : Select σ :=
  { q with criteria := q.criteria ++ [c] }

/-- Adds a criterion to a join. -/
def addJoinCriterion (q : Select σ) (position : Nat) (c : Criterion) : Select σ :=
  { q with joins := q.joins.modify position fun j => { j with criteria := j.criteria ++ [c] } }

namespace Chain

/-- The chain at the statement. -/
def atQuery (query : Select σ) : Chain σ := ⟨query, none⟩

/-- The chain after one more join, at that join. -/
def joining (query : Select σ) (kind : JoinKind) (source : σ) (alias? : Option String) :
    Chain σ :=
  ⟨{ query with joins := query.joins ++ [⟨kind, source, alias?, []⟩] }, some query.joins.length⟩

/-- The effect of a call, unless the place that the chain has reached knows no such call. -/
def call? (chain : Chain σ) : Call σ → Option (Chain σ)
  | .restrict column condition group =>
    some (atQuery (chain.query.addCriterion (.mk .and column condition group)))
  | .and column condition group =>
    match chain.join? with
    | none => some (atQuery (chain.query.addCriterion (.mk .and column condition group)))
    | some position =>
      some { chain with
        query := chain.query.addJoinCriterion position (.mk .and column condition group) }
  | .or column condition group =>
    match chain.join? with
    | none => some (atQuery (chain.query.addCriterion (.mk .or column condition group)))
    | some _ => none
  | .on column condition =>
    match chain.join? with
    | none => none
    | some position =>
      some { chain with
        query := chain.query.addJoinCriterion position (.mk .and column condition []) }
  | .from source alias? =>
    match chain.join? with
    | none => some (atQuery (chain.query.draw source alias?))
    | some _ => none
  | .join kind source alias? => some (joining chain.query kind source alias?)
  | .groupBy columns =>
    some (atQuery { chain.query with groupBy := chain.query.groupBy ++ columns })
  | .orderBy columns =>
    some (atQuery { chain.query with orderBy := chain.query.orderBy ++ columns })
  | .limit count? => some (atQuery { chain.query with limit? := count? })
  | .offset count? => some (atQuery { chain.query with offset? := count? })

end Chain

end BoundSql.Select
