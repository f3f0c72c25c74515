import BoundSql.Action
import BoundSql.Connection
import BoundSql.Log.Event
import BoundSql.Placeholder

/-!
# Executors

An executor runs rendered statements on a connection.  There is a method for every kind of
statement: selections give rows, counts a number, and all others the number of affected rows.

The execution and the reading of its result stand in one guarded block.  An error of the database
layer that is raised in it, wherever it comes from, is wrapped in an execution error and logged
once; all other errors pass unchanged.  The selection of many rows turns each of them into a value
as it is fetched, so that a caller's row mapper runs inside the block.  That of one row does so
behind it, and so does the reading of a count as an integer.

An executor in batch mode queues single-row changes instead of running them.

## Main definitions

* `Executor` : a connection, and in batch mode a queue.
* `Site` : all that an execution can touch: the executor, the records and the log.
* `Executor.guarded` : the block in which errors of the database layer are wrapped.
* `Executor.run` : one execution with what is made of its result.
* `Executor.perform` : the methods.
-/

namespace BoundSql

/-- A statement waiting to be sent. -/
structure Queued where
  sql : String
  parameters : Parameters

/-- An executor; the queue exists in batch mode only. -/
structure Executor where
  connection : Connection := {}
  queue? : Option (List Queued) := none

/-- The place of a record among all records. -/
abbrev RecordId := Nat

/-- All records, which statements and callers refer to by their places. -/
abbrev Records := List Record

/-- The record at a place. -/
def Records.at (records : Records) (id : RecordId) : Record := records[id]?.getD default

/-- All that an execution can touch. -/
structure Site where
  executor : Executor := {}
  records : Records := []
  log : List LogEvent := []

namespace Site

/-- Logs an event. -/
def note (e : LogEvent) : Action Site Unit := Action.update fun s => { s with log := s.log ++ [e] }

/-- Sends to the connection; a failure of the execution is an error of the database layer. -/
def send (d : Dispatch) : Action Site Outcome :=
  ExceptT.mk fun s =>
    let (reply, connection) := s.executor.connection.send d
    (reply.mapError .database, { s with executor := { s.executor with connection } })

end Site

/-- The result every queued statement has until the queue is flushed. -/
def queuedResult : Int := -2147482646

/-- Turns a row into the value the caller asked for. -/
abbrev RowMapper := Row → Except Error Value

/-- The value of a row: what the caller's mapper makes of it, or else an object. -/
def rowValue (mapper? : Option RowMapper) (row : Row) : Except Error Value :=
  match mapper? with
  | some f => f row
  | none => .object <$> row.dictionary

/-- A value as an integer. -/
def Value.toInteger : Value → Except Error Int
  | .text s => (Text.readInteger s).mapError (Error.ofIntegerFault s)
  | v =>
    match v.number? with
    | some i => .ok i
    | none => .error (.notNumeric v.typeName)

/-! ### Executions -/

namespace Executor

/-- The name of an executor's kind in messages. -/
def kindName (e : Executor) : String :=
  if e.queue?.isSome then "BatchStatementExecutor" else "StatementExecutor"

/-- The error that a failure of the database layer is wrapped in. -/
def wrapped (sql : String) (f : DatabaseFailure) : ExecutionError :=
  ⟨"Statement execution failed: " ++ f.message, some sql, some f⟩

/-- The block that an execution stands in.  An error of the database layer is wrapped, with the text
that was sent, and logged; any other error passes as it is.  What was done before the error stays
done. -/
def guarded {α : Type} (sql : String) (a : Action Site α) : Action Site α := do
  match ← a.attempt with
  | .ok x => return x
  | .error (.database f) =>
    let e := wrapped sql f
    Site.note (executionFailed e)
    throw (.execution e)
  | .error e => throw e

/-- One execution with what is made of its result, both in the guarded block. -/
def run {α : Type} (d : Dispatch) (consume : Outcome → Action Site α) : Action Site α :=
  guarded d.sql (Site.send d >>= consume)

/-- Runs a statement on its own and reads its result. -/
def runOne {α : Type} (r : Rendered) (read : Outcome → Except Error α) : Action Site α :=
  run (.one r.sql r.parameters) fun o => Action.ofExcept (read o)

/-- The methods of an executor. -/
inductive Method where
  | count
  | selectMany
  | selectOne
  | execute
  | update
  | delete
  | insert
  | generalInsert
  | insertMultiple
  | insertSelect
deriving DecidableEq, Repr

/-- The method of a name. -/
def Method.ofName? : String → Option Method
  | "count" => some count
  | "select_many" => some selectMany
  | "select_one" => some selectOne
  | "execute" => some execute
  | "update" => some update
  | "delete" => some delete
  | "insert" => some insert
  | "general_insert" => some generalInsert
  | "insert_multiple" => some insertMultiple
  | "insert_select" => some insertSelect
  | _ => none

/-- Does a method take a row mapper? -/
def Method.mapsRows : Method → Bool
  | selectMany | selectOne => true
  | _ => false

/-- Does a method queue its statement in batch mode? -/
def Method.isQueued : Method → Bool
  | update | delete | insert | generalInsert => true
  | _ => false

/-- Runs a counting statement.  Its value is fetched in the guarded block and read as an integer
behind it. -/
def count (r : Rendered) : Action Site Int := do
  let v ← runOne r fun o => o.onlyRow >>= Row.first
  Action.ofExcept v.toInteger

/-- Runs a selection and gives its rows, each of which is turned into a value as it is fetched. -/
def selectMany (r : Rendered) (mapper? : Option RowMapper) : Action Site (List Value) :=
  runOne r fun o => o.eachRow (rowValue mapper?)

/-- Runs a selection and gives its only row, or null if there is none.  The row is turned into a
value behind the guarded block. -/
def selectOne (r : Rendered) (mapper? : Option RowMapper) : Action Site Value := do
  match ← runOne r Outcome.oneOrNone with
  | some row => Action.ofExcept (rowValue mapper? row)
  | none => return .null

/-- Runs a statement and gives the number of affected rows; no row is fetched. -/
def change (r : Rendered) : Action Site Int := runOne r fun o => .ok o.affected

/-- Queues a statement. -/
def enqueue (queue : List Queued) (r : Rendered) : Action Site Int := do
  Action.update fun s =>
    { s with executor := { s.executor with queue? := some (queue ++ [⟨r.sql, r.parameters⟩]) } }
  return queuedResult

/-- Performs a method on a statement. -/
def perform (method : Method) (r : Rendered) (mapper? : Option RowMapper := none) :
    Action Site Value := do
  match method with
  | .count => .int <$> count r
  | .selectMany => .list <$> selectMany r mapper?
  | .selectOne => selectOne r mapper?
  | method =>
    match method.isQueued, ← Action.look (·.executor.queue?) with
    | true, some queue => .int <$> enqueue queue r
    | _, _ => .int <$> change r

end Executor

end BoundSql
