import BoundSql.Executor

/-!
# Flushing the queue

A flush sends the queued statements in order, those of one text that follow each other in one
go, and gives the number of affected rows of each group.  The queue is empty afterwards, also
when a group fails; the groups behind it are not sent.

## Main definitions

* `Executor.groups` : the maximal runs of neighbours with the same text.
* `Executor.flush` : the flush.
-/

namespace BoundSql.Executor

/-- Statements of one text, to be sent together. -/
structure Group where
  sql : String
  parameters : List Parameters

/-- The maximal runs of neighbours with the same text. -/
def groups : List Queued → List Group
  | [] => []
  | q :: rest =>
    match groups rest with
    | [] => [⟨q.sql, [q.parameters]⟩]
    | g :: gs =>
      if g.sql = q.sql then ⟨g.sql, q.parameters :: g.parameters⟩ :: gs
      else ⟨q.sql, [q.parameters]⟩ :: g :: gs

/-- Sends a group and gives the number of affected rows. -/
def sendGroup (g : Group) : Action Site Int :=
  run (.many g.sql g.parameters) fun o => return o.affected

/-- Empties the queue and sends what was in it, group by group.  The result is the number of
affected rows of each group; an executor that is not in batch mode has none and does nothing. -/
def flush : Action Site (Option (List Int)) := do
  match ← Action.look (·.executor.queue?) with
  | none => return none
  | some queue =>
    Action.update fun s => { s with executor := { s.executor with queue? := some [] } }
    let counts ← (groups queue).mapM sendGroup
    Site.note (batchFlushed queue.length counts.length)
    return some counts

end BoundSql.Executor
