import BoundSql.Executor
import BoundSql.Proofs.Action

/-!
# Executions

An execution sends one thing to the connection and makes something of what it replies.  Both happen
in one guarded block, and what the block does is said here once: `Executor.outcome_guarded`.  It
looks at the outcome of what stands in it and nothing else.  An error of the database layer is
exchanged for an execution error, with one event more in the log; every other outcome is left as it
is, with all that has been done to the site.

From this equation follows what an execution comes to, by the two kinds of reply.

* A failure of the execution is wrapped before anything is made of a result
  (`Executor.outcome_run_of_failure`).
* A result is handed to what consumes it, which is in the block as well
  (`Executor.outcome_run_of_result`).  What consumes it may change records, and may fail with errors
  of its own; nothing is assumed of it here.

`Executor.outcome_runOne` is the case in which the result is only read.  This is the form in which
the methods of an executor use an execution: the reading has no effects, so the outcome is given by
the reply and the reading alone.
-/

namespace BoundSql

open BoundSql.Action

/-! ### Replies -/

namespace Site

/-- What the executor has sent. -/
def sent (s : Site) : List Dispatch := s.executor.connection.sent

/-- The reply that the connection is about to give.  A connection that has no reply left gives an
empty result. -/
def reply (s : Site) : Reply := s.executor.connection.replies.head?.getD default

end Site

/-- The result or the failure that a reply stands for.  The result depends on what was sent only in
the number of affected rows, where the reply does not name it. -/
def Reply.outcome (d : Dispatch) : Reply → Except DatabaseFailure Outcome
  | .failure f => .error f
  | .result columns rows affected? broken? =>
    .ok ⟨columns, rows, affected?.getD d.parameterSets.length, broken?⟩

/-- What a connection answers is the next of its replies, whatever it will be sent after. -/
theorem Connection.fst_send (c : Connection) (d : Dispatch) :
    (c.send d).1 = (c.replies.head?.getD default).outcome d := by
  rw [Connection.send]
  cases c.replies.head?.getD default <;> rfl

/-- A connection fails only if this is the reply that it has; when it has none left it does not
fail. -/
theorem Site.head_replies_of_failure {s : Site} {d : Dispatch} {f : DatabaseFailure}
    (fails : s.reply.outcome d = .error f) :
    s.executor.connection.replies[0]? = some (.failure f) := by
  rw [Site.reply] at fails
  cases replies : s.executor.connection.replies with
  | nil =>
      rw [replies] at fails
      cases fails
  | cons reply rest =>
      rw [replies] at fails
      cases reply with
      | failure f' =>
          obtain rfl : f' = f := Except.error.inj fails
          rfl
      | result columns rows affected? broken? => cases fails

/-- The executor after it has sent some things and taken a reply for each. -/
def Executor.sending (e : Executor) (ds : List Dispatch) : Executor :=
  { e with connection := ⟨e.connection.replies.drop ds.length, e.connection.sent ++ ds⟩ }

namespace Site

/-- The site after one thing has been sent and its reply has been taken.  Records and log are as
they were. -/
def sending (s : Site) (d : Dispatch) : Site := { s with executor := s.executor.sending [d] }

/-- The site after a failure of the database layer has been logged. -/
def noting (s : Site) (sql : String) (f : DatabaseFailure) : Site :=
  { s with log := s.log ++ [executionFailed (Executor.wrapped sql f)] }

theorem keeps_note (e : LogEvent) : Keeps Site.executor (note e) := .update fun _ => rfl

/-- What is sent is sent whatever the reply is. -/
theorem outcome_send (d : Dispatch) (s : Site) :
    (send d).outcome s = ((s.reply.outcome d).mapError .database, s.sending d) := by
  show (((s.executor.connection.send d).1.mapError Error.database, { s with
    executor := { s.executor with connection := (s.executor.connection.send d).2 } }) :
      Except Error _ × Site) = _
  rw [Connection.fst_send, reply, sending, Executor.sending, List.length_singleton, List.drop_one,
    Connection.send]
  cases s.executor.connection.replies.head?.getD default <;> rfl

end Site

namespace Executor

variable {α : Type} {d : Dispatch} {sql : String} {s s' : Site} {a : Action Site α}

/-! ### The guarded block -/

/-- What the guarded block makes of an outcome. -/
def conveyed (sql : String) : Except Error α × Site → Except Error α × Site
  | (.error (.database f), s) => (.error (.execution (wrapped sql f)), s.noting sql f)
  | outcome => outcome

/-- **The guarded block** exchanges an error of the database layer and leaves every other outcome
alone. -/
theorem outcome_guarded (sql : String) (a : Action Site α) (s : Site) :
    (guarded sql a).outcome s = conveyed sql (a.outcome s) := by
  rw [guarded, outcome_bind_of_ok (outcome_attempt a s)]
  generalize a.outcome s = outcome
  obtain ⟨e | x, s'⟩ := outcome
  · cases e <;> rfl
  · rfl

/-- What succeeds in the block succeeds with it. -/
theorem outcome_guarded_of_ok {x : α} (h : a.outcome s = (.ok x, s')) :
    (guarded sql a).outcome s = (.ok x, s') := by
  rw [outcome_guarded, h]
  rfl

/-- What the database layer raises comes out as an execution error with the text that was sent, and
is logged. -/
theorem outcome_guarded_of_database {f : DatabaseFailure}
    (h : a.outcome s = (.error (.database f), s')) :
    (guarded sql a).outcome s = (.error (.execution (wrapped sql f)), s'.noting sql f) := by
  rw [outcome_guarded, h]
  rfl

/-- An error that is not one of the database layer passes, and what was done before stays done. -/
theorem outcome_guarded_of_other {e : Error} (h : a.outcome s = (.error e, s'))
    (other : ∀ f, e ≠ .database f) : (guarded sql a).outcome s = (.error e, s') := by
  rw [outcome_guarded, h]
  cases e with
  | database f => exact absurd rfl (other f)
  | _ => rfl

/-- The guarded block does to the executor what is done in it: it only logs besides.  So what has
been sent can be read off without looking at how the block ends. -/
theorem executor_guarded (sql : String) (a : Action Site α) (s : Site) :
    ((guarded sql a).outcome s).2.executor = (a.outcome s).2.executor := by
  rw [outcome_guarded]
  generalize a.outcome s = outcome
  obtain ⟨e | x, s'⟩ := outcome
  · cases e <;> rfl
  · rfl

/-- The guarded block succeeds exactly if what stands in it does. -/
theorem outcome_guarded_eq_ok_iff {x : α} :
    (guarded sql a).outcome s = (.ok x, s') ↔ a.outcome s = (.ok x, s') := by
  rw [outcome_guarded]
  generalize a.outcome s = outcome
  obtain ⟨e | y, s₁⟩ := outcome
  · cases e <;> exact iff_of_false nofun nofun
  · exact Iff.rfl

/-- An error that is neither raised nor made by the block is that of what stands in it. -/
theorem fst_guarded_eq_error_iff {e : Error} (raw : ∀ f, e ≠ .database f)
    (made : ∀ x, e ≠ .execution x) :
    ((guarded sql a).outcome s).1 = .error e ↔ (a.outcome s).1 = .error e := by
  rw [outcome_guarded]
  generalize a.outcome s = outcome
  obtain ⟨e' | x, s'⟩ := outcome
  · cases e' with
    | database f =>
        refine iff_of_false (fun same => made _ (Except.error.inj same).symm) fun same => ?_
        exact raw f (Except.error.inj same).symm
    | _ => exact Iff.rfl
  · exact Iff.rfl

/-- The errors of what stands in the block have their property behind it as well, if the execution
errors have it that are made of those of the database layer; of these nothing is asked. -/
theorem raises_guarded {P : Error → Prop} (h : Raises (fun e => (∀ f, e ≠ .database f) → P e) a)
    (execution : ∀ x, P (.execution x)) : Raises P (guarded sql a) := by
  intro s e fails
  rw [outcome_guarded] at fails
  have own := h s
  generalize a.outcome s = outcome at fails own
  obtain ⟨e' | x, s'⟩ := outcome
  · cases e' with
    | database f =>
        obtain rfl := Except.error.inj fails
        exact execution _
    | _ =>
        obtain rfl := Except.error.inj fails
        exact own _ rfl nofun
  · cases fails

/-! ### One execution -/

/-- An execution that fails is wrapped and logged, and nothing is made of a result. -/
theorem outcome_run_of_failure {f : DatabaseFailure} (fails : s.reply.outcome d = .error f)
    (consume : Outcome → Action Site α) :
    (run d consume).outcome s =
      (.error (.execution (wrapped d.sql f)), (s.sending d).noting d.sql f) := by
  refine outcome_guarded_of_database ?_
  rw [outcome_bind, Site.outcome_send, fails]
  rfl

/-- An execution that gives a result goes on, still in the block, with what is made of it. -/
theorem outcome_run_of_result {o : Outcome} (reply : s.reply.outcome d = .ok o)
    (consume : Outcome → Action Site α) :
    (run d consume).outcome s = (guarded d.sql (consume o)).outcome (s.sending d) := by
  have sent : (Site.send d).outcome s = (.ok o, s.sending d) := by
    rw [Site.outcome_send, reply]
    rfl
  rw [run, outcome_guarded, outcome_guarded, outcome_bind_of_ok sent]

/-- An execution sends its text and parameters and does nothing else to the executor, whatever the
reply is, if what is made of the result does not touch the executor.  Reading a result does not, and
neither does writing keys into records. -/
theorem executor_run {consume : Outcome → Action Site α}
    (keeps : ∀ o, Keeps Site.executor (consume o)) (d : Dispatch) (s : Site) :
    ((run d consume).outcome s).2.executor = s.executor.sending [d] := by
  rw [run, executor_guarded, Keeps.after keeps, Site.outcome_send]
  rfl

/-- The errors of an execution are execution errors, and those errors of what is made of the result
that the block lets pass. -/
theorem raises_run {P : Error → Prop} {consume : Outcome → Action Site α}
    (h : ∀ o, Raises (fun e => (∀ f, e ≠ .database f) → P e) (consume o))
    (execution : ∀ x, P (.execution x)) (d : Dispatch) : Raises P (run d consume) := by
  have sends : Raises (fun e => (∀ f, e ≠ .database f) → P e) (Site.send d) := by
    intro s e fails other
    rw [Site.outcome_send] at fails
    cases reply : s.reply.outcome d with
    | error f =>
        rw [reply] at fails
        exact absurd (Except.error.inj fails).symm (other f)
    | ok o =>
        rw [reply] at fails
        cases fails
  exact raises_guarded (sends.bind h) execution

/-- A reading of a result succeeds exactly if the result can be read. -/
theorem outcome_run_read_eq_ok_iff {o : Outcome} (reply : s.reply.outcome d = .ok o)
    {read : Outcome → Except Error α} {x : α} :
    (run d fun o => Action.ofExcept (read o)).outcome s = (.ok x, s') ↔
      read o = .ok x ∧ s.sending d = s' := by
  rw [outcome_run_of_result reply, outcome_guarded_eq_ok_iff, outcome_ofExcept, Prod.mk.injEq]

/-- **An execution whose result is only read** has the outcome of the reading.  A failure of the
execution and an error of the database layer in the reading come to the same. -/
theorem outcome_runOne (r : Rendered) (read : Outcome → Except Error α) (s : Site) :
    (runOne r read).outcome s =
      conveyed r.sql
        ((s.reply.outcome (.one r.sql r.parameters)).mapError .database >>= read,
          s.sending (.one r.sql r.parameters)) := by
  rw [runOne, run, outcome_guarded, outcome_bind, Site.outcome_send]
  cases s.reply.outcome (.one r.sql r.parameters) <;> rfl

theorem outcome_runOne_of_result {r : Rendered} {o : Outcome}
    (reply : s.reply.outcome (.one r.sql r.parameters) = .ok o)
    (read : Outcome → Except Error α) :
    (runOne r read).outcome s = conveyed r.sql (read o, s.sending (.one r.sql r.parameters)) := by
  rw [outcome_runOne, reply]
  rfl

theorem raises_runOne {P : Error → Prop} {read : Outcome → Except Error α}
    (h : ∀ o e, read o = .error e → (∀ f, e ≠ .database f) → P e)
    (execution : ∀ x, P (.execution x)) (r : Rendered) : Raises P (runOne r read) :=
  raises_run (fun o => .ofExcept (h o)) execution _

theorem executor_runOne (r : Rendered) (read : Outcome → Except Error α) (s : Site) :
    ((runOne r read).outcome s).2.executor = s.executor.sending [.one r.sql r.parameters] :=
  executor_run (fun _ => .ofExcept _) _ s

end Executor

end BoundSql
