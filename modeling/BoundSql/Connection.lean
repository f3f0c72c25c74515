import BoundSql.Context
import BoundSql.Error

/-!
# Connections

An executor sends statement text with one set of parameters, or with several at once, and the
connection replies with a result or a failure.  Reading a result can fail as well.  Its rows are
fetched one after the other while they are read, and fetching can break off behind some of them, so
that what is done with a row is done before the next row is asked for.  A single value demands
exactly one row, and at most one row is demanded elsewhere; a second row is asked for to be sure
that there is none.  These are errors of the database layer.  A row that lacks a value fails only
where that value is read, and not as the database layer does.

A statement that returns no rows at all gives a result whose fetching breaks off at once, while the
number of affected rows can be read from it.  So no database gives a result without columns that can
be fetched; `Outcome.firstColumn` raises an error of its own on such a result.

## Main definitions

* `Dispatch` : what is sent.
* `Reply` : what the connection answers.
* `Connection` : the replies still to come and what was sent so far, with `Connection.send`.
* `Row` : a row that is read by column names, with `Row.read` and `Row.dictionary`.
* `Outcome` : a result, and its readings `onlyRow`, `oneOrNone`, `eachRow`, `allRows`,
  `firstColumn`.
-/

namespace BoundSql

/-- What is sent to a connection: a text with one set of parameters, or with several. -/
inductive Dispatch where
  | one (sql : String) (parameters : Parameters)
  | many (sql : String) (parameters : List Parameters)

namespace Dispatch

/-- The text that is sent. -/
def sql : Dispatch → String
  | one sql _ => sql
  | many sql _ => sql

/-- The sets of parameters that are sent. -/
def parameterSets : Dispatch → List Parameters
  | one _ parameters => [parameters]
  | many _ parameters => parameters

end Dispatch

/-- A failure of the database layer: its kind and its message. -/
abbrev DatabaseFailure := Raised

/-- One answer of a connection: the execution fails, or it gives a result.  A result that names no
number of affected rows affects as many as there are sets of parameters.  Fetching may break off
behind the rows. -/
inductive Reply where
  | failure (f : DatabaseFailure)
  | result (columns : List String) (rows : List (List Value)) (affected? : Option Int)
      (broken? : Option DatabaseFailure := none)

instance : Inhabited Reply := ⟨.result ["c"] [] none⟩

/-- A row: the names of the columns and the values.  A name may occur several times, and nothing
makes sure that there are as many values as columns. -/
structure Row where
  columns : List String
  values : List Value

namespace Row

/-- The position of the last column of a name. -/
def lastPosition? (name : String) : List String → Option Nat
  | [] => none
  | column :: rest =>
    match lastPosition? name rest with
    | some i => some (i + 1)
    | none => if column = name then some 0 else none

/-- The value in the column of a name; of several columns of one name the last counts. -/
def read (row : Row) (name : String) : Except Error Value :=
  match lastPosition? name row.columns with
  | none => .error (.keyMissing name)
  | some i =>
    match row.values[i]? with
    | some v => .ok v
    | none => .error .rowTooShort

/-- The row as a dictionary of its columns. -/
def dictionary (row : Row) : Except Error (Assoc String Value) :=
  row.columns.foldlM (fun found name => do
    let v ← row.read name
    return Assoc.put name v found) []

/-- The first value. -/
def first (row : Row) : Except Error Value :=
  match row.values with
  | v :: _ => .ok v
  | [] => .error .rowTooShort

end Row

/-- A result as it is read: the columns, the rows that can be fetched, the number of affected rows,
and what fetching breaks off with behind the rows, if it does. -/
structure Outcome where
  columns : List String
  rows : List (List Value)
  affected : Int
  broken? : Option DatabaseFailure := none

namespace Outcome

/-- The values of a row together with the names of the columns. -/
def named (o : Outcome) (values : List Value) : Row := ⟨o.columns, values⟩

/-- Asks for a row behind the last one: there is none, or fetching breaks off. -/
def finish (o : Outcome) : Except Error Unit :=
  match o.broken? with
  | none => .ok ()
  | some f => .error (.database f)

/-- The only row.  A second one is too many, whatever comes behind it. -/
def onlyRow (o : Outcome) : Except Error Row :=
  match o.rows with
  | [] => do
    o.finish
    throw (.database ⟨"NoResultFound", "No row was found when one was required"⟩)
  | [row] => do
    o.finish
    return o.named row
  | _ => .error (.database
      ⟨"MultipleResultsFound", "Multiple rows were found when exactly one was required"⟩)

/-- The only row, if there is one.  A second one is too many, whatever comes behind it. -/
def oneOrNone (o : Outcome) : Except Error (Option Row) :=
  match o.rows with
  | [] => do
    o.finish
    return none
  | [row] => do
    o.finish
    return some (o.named row)
  | _ => .error (.database
      ⟨"MultipleResultsFound", "Multiple rows were found when one or none was required"⟩)

/-- What is made of every row, each as it is fetched: an error that one of them raises comes before
the end of fetching. -/
def eachRow {α : Type} (o : Outcome) (f : Row → Except Error α) : Except Error (List α) := do
  let values ← o.rows.mapM fun row => f (o.named row)
  o.finish
  return values

/-- All rows, fetched before anything is done with them. -/
def allRows (o : Outcome) : Except Error (List (List Value)) := do
  o.finish
  return o.rows

/-- The value of every row in the column that bears the name of the first one.  A result without
columns has no first one.  That is an error of its own, which no real result raises: a statement
that returns no rows has a result that breaks off as soon as its rows are fetched. -/
def firstColumn (o : Outcome) : Except Error (List Value) := do
  let rows ← o.allRows
  match o.columns with
  | [] => throw .noColumns
  | name :: _ => rows.mapM fun row => (o.named row).read name

end Outcome

/-- A connection: the replies still to come, and what was sent, the oldest first.  When no reply
is left the connection goes on with empty results. -/
structure Connection where
  replies : List Reply := []
  sent : List Dispatch := []

/-- Sends to a connection and takes its reply. -/
def Connection.send (c : Connection) (d : Dispatch) :
    Except DatabaseFailure Outcome × Connection :=
  let after : Connection := ⟨c.replies.tail, c.sent ++ [d]⟩
  match c.replies.head?.getD default with
  | .failure f => (.error f, after)
  | .result columns rows affected? broken? =>
    (.ok ⟨columns, rows, affected?.getD d.parameterSets.length, broken?⟩, after)

end BoundSql
