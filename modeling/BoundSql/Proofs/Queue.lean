import Mathlib.Data.List.DropRight
import BoundSql.Executor.Batch
import BoundSql.Proofs.GeneratedKeys

/-!
# The queue of a batch executor

An executor in batch mode queues single-row changes until it is flushed, and runs everything else at
once.  What one operation does to such an executor is said by `Operation.Step`, whatever the
connection replies; from it follows what a whole run does.

## What the discipline is

Three things could go wrong with a queue.  Statements could be lost or sent twice; they could be
sent in another order than they were queued in; and something could be left in the queue, or taken
from it, by an operation that is none of its business.  `Executor.IsAfter` excludes them all: the
queue holds what was queued since the last flush, and what was sent from the queue together with
what is left in it is a sublist of what was queued.  It is a sublist only, because a flush may fail.
Then the groups behind the failing one are not sent, and they are gone, since the queue is emptied
before anything is sent.  The step of a flush says that this is the only case in which something is
lost.

## The shape of the proof

A run is a list of operations, and nothing is assumed about them or about what the connection
replies; failures do not end a run, as a caller may go on after an error.  The invariant is
preserved by every step (`Executor.IsAfter.step`), and holds of a whole run by induction.  For a
single operation there are three cases, of which the flush is the one with an argument of its own:
its groups are sent in turn, and the first that fails is the last one sent
(`Executor.mapM_sendGroup`).

* `Executor.Operation` : the operations, with what each of them queues.
* `Executor.pending` : the statements that were queued since the last flush.
* `Executor.Operation.step` : every operation makes its step.
* `Executor.queue_discipline` : in every run the queue holds what is pending, and what was sent from
  it are statements that were queued, each at most once and in their order.
-/

namespace BoundSql

open BoundSql.Action

namespace Executor

/-! ### Operations -/

/-- What can be done on an executor: a method, a retrieval of generated keys, and a flush. -/
inductive Operation where
  | perform (method : Method) (r : Rendered) (mapper? : Option RowMapper)
  | retrieve (k : KeyRetrieval) (sql : String) (ids : List RecordId)
  | flush

namespace Operation

/-- What the operation queues in batch mode. -/
def queued : Operation → List Queued
  | perform method r _ => if method.isQueued then [⟨r.sql, r.parameters⟩] else []
  | retrieve _ _ _ | flush => []

/-- Is the operation a flush? -/
def isFlush : Operation → Bool
  | flush => true
  | perform _ _ _ | retrieve _ _ _ => false

/-- The site after the operation, whether it has succeeded or failed. -/
def after (s : Site) : Operation → Site
  | perform method r mapper? => ((Executor.perform method r mapper?).outcome s).2
  | retrieve k sql ids => ((k.run sql ids).outcome s).2
  | flush => (Executor.flush.outcome s).2

/-- The site after several operations; a failure of one does not keep the next from being
tried. -/
def run (operations : List Operation) (s : Site) : Site := operations.foldl after s

theorem run_concat (operations : List Operation) (o : Operation) (s : Site) :
    run (operations ++ [o]) s = o.after (run operations s) := by
  rw [run, List.foldl_append]
  rfl

end Operation

/-- The statements that were queued since the last flush. -/
def pending (operations : List Operation) : List Queued :=
  (operations.rtakeWhile fun o => !o.isFlush).flatMap Operation.queued

/-- Behind a flush nothing is pending, whether it has succeeded or not. -/
theorem pending_flush (operations : List Operation) : pending (operations ++ [.flush]) = [] := by
  rw [pending, List.rtakeWhile_concat_neg _ _ _ (by decide)]
  rfl

/-- Any other operation adds what it queues to what is pending, which may be nothing. -/
theorem pending_concat (operations : List Operation) {o : Operation} (h : o.isFlush = false) :
    pending (operations ++ [o]) = pending operations ++ o.queued := by
  rw [pending, List.rtakeWhile_concat_pos _ _ _ (by rw [h]; rfl), List.flatMap_append,
    List.flatMap_singleton]
  rfl

/-! ### Groups -/

/-- The statements of a group, each with its own parameters. -/
def Group.statements (g : Group) : List Queued := g.parameters.map fun p => ⟨g.sql, p⟩

/-- What is sent for a group. -/
def Group.dispatch (g : Group) : Dispatch := .many g.sql g.parameters

end Executor

/-- The statements of a queue that are sent together; what is sent on its own was not queued. -/
def Dispatch.queued : Dispatch → List Queued
  | one _ _ => []
  | many sql parameters => parameters.map fun p => ⟨sql, p⟩

namespace Executor

/-- **Grouping neither drops nor reorders statements.**  The induction is over the queue; a
statement is put in front of the group behind it if the texts are the same, and makes a group of its
own otherwise. -/
theorem statements_groups (queue : List Queued) :
    (groups queue).flatMap Group.statements = queue := by
  induction queue with
  | nil => rfl
  | cons q rest ih =>
      rw [groups]
      -- The first statement joins the group in front of it or opens one of its own, whichever way
      -- the rest was gathered.
      cases gathered : groups rest with
      | nil =>
          rw [gathered] at ih
          rw [← ih]
          rfl
      | cons g gs =>
          rw [gathered] at ih
          by_cases same : g.sql = q.sql
          · simp only [if_pos same]
            rw [← ih, List.flatMap_cons, List.flatMap_cons, Group.statements, List.map_cons, same]
            simp only [Group.statements, same, List.cons_append]
          · simp only [if_neg same]
            rw [← ih]
            rfl

/-! ### One group after the other -/

/-- A group gives the number of affected rows, or it fails and the failure is wrapped.  Nothing is
fetched, so a result cannot fail. -/
theorem fst_sendGroup (g : Group) (s : Site) :
    ((sendGroup g).outcome s).1 =
      match s.reply.outcome g.dispatch with
      | .error f => .error (.execution (wrapped g.sql f))
      | .ok o => .ok o.affected := by
  rw [sendGroup, show Dispatch.many g.sql g.parameters = g.dispatch from rfl]
  cases reply : s.reply.outcome g.dispatch with
  | error f =>
      rw [outcome_run_of_failure reply]
      rfl
  | ok o => rw [outcome_run_of_result reply, outcome_guarded_of_ok (outcome_pure _ _)]

/-- A group is sent in one go, whatever the reply is. -/
theorem executor_sendGroup (g : Group) (s : Site) :
    ((sendGroup g).outcome s).2.executor = s.executor.sending [g.dispatch] :=
  executor_run (fun _ => .pure _) g.dispatch s

/-- What is sent in two steps is sent. -/
theorem sending_sending (e : Executor) (ds ds' : List Dispatch) :
    (e.sending ds).sending ds' = e.sending (ds ++ ds') := by
  rw [sending, sending, sending, List.drop_drop, List.length_append, List.append_assoc]

/-- **The groups of a flush** are sent in their order, and the first of them that fails is the last
one that is sent.  The failure is the reply to this group, and the error carries its text. -/
theorem mapM_sendGroup (gs : List Group) (s : Site) :
    ∃ done rest, gs = done ++ rest ∧
      ((gs.mapM sendGroup).outcome s).2.executor =
        s.executor.sending (done.map Group.dispatch) ∧
      (rest ≠ [] → ∃ sound g f, done = sound ++ [g] ∧
        s.executor.connection.replies[sound.length]? = some (.failure f) ∧
        ((gs.mapM sendGroup).outcome s).1 = .error (.execution (wrapped g.sql f))) := by
  induction gs generalizing s with
  | nil =>
      refine ⟨[], [], rfl, ?_, fun some => absurd rfl some⟩
      show s.executor = s.executor.sending []
      rw [sending, List.append_nil]
      rfl
  | cons g gs ih =>
      have first := executor_sendGroup g s
      have result := fst_sendGroup g s
      rw [List.mapM_cons, outcome_bind]
      cases reply : s.reply.outcome g.dispatch with
      | error f =>
          rw [reply] at result
          simp only [result]
          exact ⟨[g], gs, rfl, first, fun _ =>
            ⟨[], g, f, rfl, Site.head_replies_of_failure reply, rfl⟩⟩
      | ok o =>
          rw [reply] at result
          simp only [result]
          obtain ⟨done, rest, split, executor, cut⟩ := ih ((sendGroup g).outcome s).2
          refine ⟨g :: done, rest, by rw [split]; rfl, ?_, fun some => ?_⟩
          · refine (Keeps.after (fun _ => .pure _) _ _).trans ?_
            rw [executor, first, sending_sending]
            rfl
          · obtain ⟨sound, g', f, rfl, failure, error⟩ := cut some
            refine ⟨g :: sound, g', f, rfl, ?_, ?_⟩
            · rw [first, sending, List.getElem?_drop] at failure
              rw [← failure, List.length_cons, List.length_singleton, Nat.add_comm]
            · rw [outcome_bind, error]

/-! ### One operation -/

/-- What an operation does to an executor in batch mode, whatever the connection replies.  A
change is queued and nothing else happens; any other method is sent on its own, and so is a
retrieval of generated keys unless its parameters cannot be rebuilt; a flush empties the queue and
sends its groups, all of them or up to the first that fails. -/
inductive Operation.Step (s s' : Site) : Operation → Prop where
  | queue {method : Method} {r : Rendered} {mapper? : Option RowMapper} {waiting : List Queued}
      (queued : method.isQueued = true) (before : s.executor.queue? = some waiting)
      (after : s'.executor =
        { s.executor with queue? := some (waiting ++ [⟨r.sql, r.parameters⟩]) }) :
      Step s s' (.perform method r mapper?)
  | perform {method : Method} {r : Rendered} {mapper? : Option RowMapper}
      (immediate : method.isQueued = false)
      (after : s'.executor = s.executor.sending [.one r.sql r.parameters]) :
      Step s s' (.perform method r mapper?)
  | retrieve {k : KeyRetrieval} {sql : String} {ids : List RecordId} {own : List Dispatch}
      (single : own = [] ∨ ∃ parameters, own = [.one (k.statement sql) parameters])
      (after : s'.executor = s.executor.sending own) :
      Step s s' (.retrieve k sql ids)
  | flush {waiting : List Queued} {done rest : List Group}
      (before : s.executor.queue? = some waiting)
      (all : waiting = (done ++ rest).flatMap Group.statements)
      (after : s'.executor =
        { s.executor.sending (done.map Group.dispatch) with queue? := some [] })
      (cut : rest ≠ [] → ∃ sound g f, done = sound ++ [g] ∧
        s.executor.connection.replies[sound.length]? = some (.failure f) ∧
        (Executor.flush.outcome s).1 = .error (.execution
          ⟨"Statement execution failed: " ++ f.message, some g.sql, some f⟩)) :
      Step s s' .flush

variable {s : Site} {waiting : List Queued}

/-- A change is queued in batch mode. -/
theorem executor_perform_of_queued {method : Method} (queued : method.isQueued = true)
    (batch : s.executor.queue? = some waiting) (r : Rendered) (mapper? : Option RowMapper) :
    ((perform method r mapper?).outcome s).2.executor =
      { s.executor with queue? := some (waiting ++ [⟨r.sql, r.parameters⟩]) } := by
  cases method with
  | update | delete | insert | generalInsert =>
      unfold perform
      simp only [outcome_look_bind, batch]
      rfl
  | _ => cases queued

/-- Every other method is sent at once, on its own, and leaves the queue as it is, in batch mode and
without it. -/
theorem executor_perform_of_not_queued {method : Method} (immediate : method.isQueued = false)
    (r : Rendered) (mapper? : Option RowMapper) (s : Site) :
    ((perform method r mapper?).outcome s).2.executor =
      s.executor.sending [.one r.sql r.parameters] := by
  -- what is done behind the guarded block does nothing to the executor
  have sent {α β : Type} (read : Outcome → Except Error α) {rest : α → Action Site β}
      (keeps : ∀ a, Keeps Site.executor (rest a)) :
      ((runOne r read >>= rest).outcome s).2.executor =
        s.executor.sending [.one r.sql r.parameters] :=
    (Keeps.after keeps _ s).trans (executor_runOne r read s)
  cases method with
  | count =>
      unfold perform count
      rw [outcome_map]
      exact sent _ fun _ => .ofExcept _
  | selectMany =>
      unfold perform selectMany
      rw [outcome_map]
      exact executor_runOne r _ s
  | selectOne =>
      refine sent _ fun row? => ?_
      cases row? with
      | none => exact .pure _
      | some row => exact .ofExcept _
  | execute | insertMultiple | insertSelect =>
      unfold perform
      simp only [outcome_look_bind, Method.isQueued, outcome_map]
      exact executor_runOne r _ s
  | _ => cases immediate

/-- The site with nothing in the queue. -/
def emptied (s : Site) : Site := { s with executor := { s.executor with queue? := some [] } }

/-- A flush in batch mode empties the queue before it sends the groups.  What is not sent because of
a failure is therefore not sent later either. -/
theorem outcome_flush (batch : s.executor.queue? = some waiting) :
    Executor.flush.outcome s = ((do
      let counts ← (groups waiting).mapM sendGroup
      Site.note (batchFlushed waiting.length counts.length)
      return some counts : Action Site (Option (List Int))).outcome (emptied s)) := by
  unfold Executor.flush
  rw [outcome_look_bind, batch]
  rfl

/-- What a flush does in batch mode.  What is lost of the queue is what follows a group that has
failed. -/
theorem flush_step (batch : s.executor.queue? = some waiting) :
    Operation.Step s (Executor.flush.outcome s).2 .flush := by
  obtain ⟨done, rest, all, executor, cut⟩ := mapM_sendGroup (groups waiting) (emptied s)
  have opened := outcome_flush batch
  have statements : waiting = (done ++ rest).flatMap Group.statements := by
    rw [← all, statements_groups]
  refine .flush batch statements ?_ fun some => ?_
  · rw [opened]
    refine (Keeps.after (fun counts => ?_) _ _).trans ?_
    · exact (Site.keeps_note _).bind fun _ => .pure _
    · rw [executor]
      rfl
  · obtain ⟨sound, g, f, same, failure, error⟩ := cut some
    refine ⟨sound, g, f, same, failure, ?_⟩
    rw [opened, outcome_bind, error]
    rfl

/-- **Every operation makes its step.**  The executor is in batch mode, and stays in it. -/
theorem Operation.step (batch : s.executor.queue? = some waiting) (o : Operation) :
    o.Step s (o.after s) := by
  cases o with
  | perform method r mapper? =>
      cases queued : method.isQueued with
      | true => exact .queue queued batch (executor_perform_of_queued queued batch r mapper?)
      | false => exact .perform queued (executor_perform_of_not_queued queued r mapper? s)
  | retrieve k sql ids =>
      cases rebuilding : bindRowSlots sql (ids.map s.records.at) with
      | error e =>
          refine .retrieve (.inl rfl) ?_
          rw [after, KeyRetrieval.outcome_run_of_error rebuilding]
          show s.executor = s.executor.sending []
          rw [sending, List.append_nil]
          rfl
      | ok rebuilt => exact .retrieve (.inr ⟨rebuilt, rfl⟩) (KeyRetrieval.executor_run rebuilding)
  | flush => exact flush_step batch

/-! ### Runs -/

end Executor

/-- A site with an executor in batch mode, nothing sent and nothing queued. -/
def Site.batch (replies : List Reply) (records : Records) (log : List LogEvent) : Site where
  executor := { connection := { replies }, queue? := some [] }
  records := records
  log := log

namespace Executor

/-- What a batch executor has come to by a run: the replies are taken one for each thing sent, the
queue holds what is pending, and what was sent from it and what is left in it was queued. -/
structure IsAfter (replies : List Reply) (operations : List Operation) (e : Executor) : Prop where
  replies_eq : e.connection.replies = replies.drop e.connection.sent.length
  queue_eq : e.queue? = some (pending operations)
  sublist : (e.connection.sent.flatMap Dispatch.queued ++ pending operations).Sublist
    (operations.flatMap Operation.queued)

/-- A connection takes one reply for each thing that is sent, so how many are left is known from
what was sent. -/
theorem replies_sending {replies : List Reply} {e : Executor}
    (h : e.connection.replies = replies.drop e.connection.sent.length) (ds : List Dispatch) :
    (e.sending ds).connection.replies =
      replies.drop (e.sending ds).connection.sent.length := by
  rw [sending, h, List.drop_drop, List.length_append]

namespace IsAfter

variable {replies : List Reply} {operations : List Operation} {e : Executor}

/-- What is sent without having been queued makes no difference to the queue.  Methods that are not
queued are of this sort, and retrievals of generated keys. -/
theorem aside (h : IsAfter replies operations e) {o : Operation} (going : o.isFlush = false)
    (nothing : o.queued = []) {own : List Dispatch} (single : own.flatMap Dispatch.queued = []) :
    IsAfter replies (operations ++ [o]) (e.sending own) where
  replies_eq := replies_sending h.replies_eq own
  queue_eq := by
    rw [pending_concat operations going, nothing, List.append_nil]
    exact h.queue_eq
  sublist := by
    show ((e.connection.sent ++ own).flatMap _ ++ _).Sublist _
    rw [pending_concat operations going, nothing, List.append_nil, List.flatMap_append, single,
      List.append_nil, List.flatMap_append, List.flatMap_singleton, nothing, List.append_nil]
    exact h.sublist

/-- A step goes on from what the executor has come to.  For a flush, what was pending is split into
what is sent and what is lost, and the sublist is made of the first part. -/
theorem step {s s' : Site} (h : IsAfter replies operations s.executor) {o : Operation}
    (step : o.Step s s') : IsAfter replies (operations ++ [o]) s'.executor := by
  cases step with
  | @queue method r mapper? waiting queued before after =>
      obtain rfl := Option.some.inj (before.symm.trans h.queue_eq)
      have new : (Operation.perform method r mapper?).queued = [⟨r.sql, r.parameters⟩] := by
        rw [Operation.queued, if_pos queued]
      rw [after]
      refine ⟨h.replies_eq, ?_, ?_⟩
      · rw [pending_concat operations rfl, new]
      · rw [pending_concat operations rfl, new, List.flatMap_append, List.flatMap_singleton, new,
          ← List.append_assoc]
        exact h.sublist.append (.refl _)
  | perform immediate after =>
      rw [after]
      refine h.aside rfl ?_ rfl
      rw [Operation.queued, if_neg (by rw [immediate]; decide)]
  | retrieve single after =>
      rw [after]
      refine h.aside rfl rfl ?_
      obtain rfl | ⟨parameters, rfl⟩ := single
      · rfl
      · rfl
  | @flush waiting done rest before all after cut =>
      obtain rfl := Option.some.inj (before.symm.trans h.queue_eq)
      rw [after]
      refine ⟨replies_sending h.replies_eq _, (congrArg some (pending_flush operations)).symm, ?_⟩
      -- the statements that are not sent are dropped from the end of the queue
      have sent : (done.map Group.dispatch).flatMap Dispatch.queued =
          done.flatMap Group.statements := by
        rw [List.flatMap_map]
        rfl
      show ((s.executor.connection.sent ++ done.map Group.dispatch).flatMap _ ++ _).Sublist _
      rw [pending_flush, List.append_nil, List.flatMap_append, sent, List.flatMap_append]
      refine List.Sublist.trans ?_ (h.sublist.trans (List.sublist_append_left _ _))
      rw [all, List.flatMap_append]
      exact (List.Sublist.refl _).append (List.sublist_append_left _ _)

end IsAfter

/-- A run has come to what it has come to, by the induction on its operations from the last one. -/
theorem isAfter_run (replies : List Reply) (records : Records) (log : List LogEvent)
    (operations : List Operation) :
    IsAfter replies operations
      (Operation.run operations (Site.batch replies records log)).executor := by
  induction operations using List.reverseRecOn with
  | nil => exact ⟨rfl, rfl, .slnil⟩
  | append_singleton operations o ih =>
      rw [Operation.run_concat]
      exact ih.step (Operation.step ih.queue_eq o)

/-- **The discipline of the queue.**  After every run of operations, some of which may have failed,
the queue of a batch executor holds what was queued since the last flush, and what was sent from
the queue together with what is left in it are statements that were queued, each at most once, in
their order and with their own parameters.  From there every operation makes its step: only a
flush sends or drops what is queued, it leaves the queue empty, and it sends all groups unless one
of them fails, which is then the last. -/
theorem queue_discipline (replies : List Reply) (records : Records) (log : List LogEvent)
    (operations : List Operation) :
    let s := Operation.run operations (Site.batch replies records log)
    IsAfter replies operations s.executor ∧ ∀ o : Operation, o.Step s (o.after s) := by
  intro s
  have come := isAfter_run replies records log operations
  exact ⟨come, fun o => Operation.step come.queue_eq o⟩

/-- Statements of three texts, queued around a count and flushed; then one more. -/
def busy : List Operation :=
  [.perform .insert ⟨"a", [("p", .int 1)]⟩ none, .perform .insert ⟨"a", [("p", .int 2)]⟩ none,
    .perform .count ⟨"n", []⟩ none, .perform .update ⟨"b", []⟩ none,
    .perform .delete ⟨"c", []⟩ none, .flush, .perform .insert ⟨"d", []⟩ none]

/-- The second group of the flush fails: the statement behind it is not sent, and the one that is
queued later is pending. -/
theorem queue_discipline_sample :
    let replies := [.result ["n"] [[.int 0]] none, .result [] [] none, .failure ⟨"Locked", "b"⟩]
    let s := Operation.run busy (Site.batch replies [] [])
    IsAfter replies busy s.executor ∧
      s.sent = [.one "n" [], .many "a" [[("p", .int 1)], [("p", .int 2)]], .many "b" [[]]] ∧
      pending busy = [⟨"d", []⟩] :=
  ⟨(queue_discipline _ [] [] busy).1, rfl, rfl⟩

end Executor

end BoundSql
