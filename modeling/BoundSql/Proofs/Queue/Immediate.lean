import Mathlib.Data.List.Chain
import BoundSql.Proofs.Queue

/-!
# Flushing against immediate execution

Statements that an executor in batch mode has queued are sent by a flush, those of one text that
follow each other in one go.  An executor that is not in batch mode sends the same statements one by
one.  This module says that the first is a refinement of the second: the groups of a flush are the
maximal runs of one text, taken apart they are what would have been sent one by one, and the flush
gives the number of affected rows of each group, or fails with the first group that does.

## What is compared

The two executors have connections of their own, which reply as they like; that two ways of sending
the same statements have the same effect on a database cannot be said here, and is not.  What can be
said is what is sent, and how the outcome of a flush is made of the replies to its groups.  Whether
a group succeeds is read off the connection (`Connection.outcomes`), which is asked for the replies
to all groups as if each had been sent; those behind a failure are never taken.

The groups are characterized without the code that gathers them.  A cut into maximal runs has no
empty group, has neighbours of different texts, and gives the queue when it is put together again.
There is only one such cut (`Executor.cutsIntoRuns_iff`), so nothing depends on how it is found.

A failure is an execution error, and its fields are stated: the message, the text of the group, and
the failure that the connection replied with.

* `Executor.cutsIntoRuns_iff` : the groups are the only way to cut a queue into maximal runs.
* `Connection.outcomes` : what a connection replies to several things sent in turn.
* `Executor.flush_refines_immediate` : the refinement.
-/

namespace BoundSql

open BoundSql.Action

/-- The statements that are sent: the text with each set of parameters. -/
def Dispatch.statements (d : Dispatch) : List (String × Parameters) :=
  d.parameterSets.map fun p => (d.sql, p)

/-- What a connection replies to several things that are sent to it in turn.  Each reply is taken
once. -/
def Connection.outcomes (c : Connection) : List Dispatch → List (Except DatabaseFailure Outcome)
  | [] => []
  | d :: ds => (c.send d).1 :: (c.send d).2.outcomes ds

namespace Executor

/-! ### Maximal runs -/

/-- The groups cut a queue into maximal runs of one text. -/
structure CutsIntoRuns (queue : List Queued) (gs : List Group) : Prop where
  /-- No group is empty. -/
  filled : ∀ g ∈ gs, g.parameters ≠ []
  /-- Neighbouring groups have different texts. -/
  apart : gs.IsChain fun g h => g.sql ≠ h.sql
  /-- Put together, the groups are the queue. -/
  together : gs.flatMap Group.statements = queue

/-- The groups of a flush are such. -/
theorem cutsIntoRuns_groups (queue : List Queued) : CutsIntoRuns queue (groups queue) := by
  suffices runs : (∀ g ∈ groups queue, g.parameters ≠ []) ∧
      (groups queue).IsChain fun g h => g.sql ≠ h.sql from
    ⟨runs.1, runs.2, statements_groups queue⟩
  induction queue with
  | nil => exact ⟨List.forall_mem_nil _, .nil⟩
  | cons q rest ih =>
      rw [groups]
      cases gathered : groups rest with
      | nil => exact ⟨List.forall_mem_singleton.mpr (List.cons_ne_nil _ _), .singleton _⟩
      | cons first gs =>
          rw [gathered] at ih
          obtain ⟨filled, apart⟩ := ih
          by_cases same : first.sql = q.sql
          · simp only [if_pos same]
            refine ⟨List.forall_mem_cons.mpr ⟨List.cons_ne_nil _ _, fun g mem =>
              filled g (.tail _ mem)⟩, ?_⟩
            -- a group that has grown has the text that it had
            cases gs with
            | nil => exact .singleton _
            | cons second gs => exact .cons_cons (List.isChain_cons_cons.mp apart).1 apart.tail
          · simp only [if_neg same]
            exact ⟨List.forall_mem_cons.mpr ⟨List.cons_ne_nil _ _, filled⟩,
              .cons_cons (Ne.symm same) apart⟩

/-- Another group of one text is gathered on its own in front of groups that begin with another
text.  The induction is over the parameters of the group; without any there would be no group. -/
theorem groups_append (sql : String) {parameters : List Parameters} (filled : parameters ≠ [])
    {rest : List Queued} (other : ∀ g ∈ (groups rest).head?, sql ≠ g.sql) :
    groups (Group.statements ⟨sql, parameters⟩ ++ rest) = ⟨sql, parameters⟩ :: groups rest := by
  induction parameters with
  | nil => exact absurd rfl filled
  | cons p parameters ih =>
      cases parameters with
      | nil =>
          show groups (⟨sql, p⟩ :: rest) = _
          rw [groups]
          cases gathered : groups rest with
          | nil => rfl
          | cons g gs =>
              rw [gathered] at other
              exact if_neg (Ne.symm (other g rfl))
      | cons p' parameters =>
          show groups (⟨sql, p⟩ :: (Group.statements ⟨sql, p' :: parameters⟩ ++ rest)) = _
          rw [groups, ih (List.cons_ne_nil _ _)]
          exact if_pos rfl

/-- **The groups of a flush are the maximal runs of one text**, and there is no other way to cut
the queue into such. -/
theorem cutsIntoRuns_iff {queue : List Queued} {gs : List Group} :
    CutsIntoRuns queue gs ↔ gs = groups queue := by
  constructor
  · rintro ⟨filled, apart, rfl⟩
    induction gs with
    | nil => rfl
    | cons g gs ih =>
        have rest := ih (fun g mem => filled g (.tail _ mem)) apart.tail
        have other : ∀ h ∈ (groups (gs.flatMap Group.statements)).head?, g.sql ≠ h.sql := by
          rw [← rest]
          exact (List.isChain_cons.mp apart).1
        rw [List.flatMap_cons, groups_append g.sql (filled g List.mem_cons_self) other, ← rest]
  · rintro rfl
    exact cutsIntoRuns_groups queue

/-! ### The replies to the groups -/

/-- A group has the result that the connection answers with. -/
theorem fst_sendGroup_eq (g : Group) (s : Site) :
    ((sendGroup g).outcome s).1 =
      match (s.executor.connection.send g.dispatch).1 with
      | .ok o => .ok o.affected
      | .error f => .error (.execution (wrapped g.sql f)) := by
  rw [fst_sendGroup, Connection.fst_send, Site.reply]
  split <;> rename_i reply <;> rw [reply]

/-- What is replied behind a group is replied to the executor that has sent it. -/
theorem outcomes_sending (e : Executor) (d : Dispatch) (ds : List Dispatch) :
    (e.sending [d]).connection.outcomes ds = (e.connection.send d).2.outcomes ds := by
  have same : (e.sending [d]).connection = (e.connection.send d).2 := by
    rw [sending, Connection.send, List.length_singleton, List.drop_one]
    split <;> rfl
  rw [same]

/-- Where a first group succeeds, the others are sent after it. -/
theorem mapM_sendGroup_cons_of_ok {g : Group} {gs : List Group} {s : Site} {o : Outcome}
    (reply : (s.executor.connection.send g.dispatch).1 = .ok o) :
    ((g :: gs).mapM sendGroup).outcome s =
      ((o.affected :: ·) <$> gs.mapM sendGroup).outcome ((sendGroup g).outcome s).2 := by
  have first : (sendGroup g).outcome s = (.ok o.affected, ((sendGroup g).outcome s).2) :=
    Prod.ext (by rw [fst_sendGroup_eq, reply]) rfl
  rw [List.mapM_cons, outcome_bind_of_ok first, map_eq_pure_bind]

/-- Groups that all succeed are all sent, and each gives the number of rows that it affected.  The
induction is over the groups, at an arbitrary site. -/
theorem mapM_sendGroup_of_ok {gs : List Group} {s : Site} {os : List Outcome}
    (replies : s.executor.connection.outcomes (gs.map Group.dispatch) = os.map .ok) :
    ((gs.mapM sendGroup).outcome s).1 = .ok (os.map Outcome.affected) ∧
      ((gs.mapM sendGroup).outcome s).2.executor =
        s.executor.sending (gs.map Group.dispatch) := by
  induction gs generalizing s os with
  | nil =>
      obtain rfl : os = [] := List.map_eq_nil_iff.mp replies.symm
      refine ⟨rfl, ?_⟩
      show s.executor = s.executor.sending []
      rw [sending, List.append_nil]
      rfl
  | cons g gs ih =>
      cases os with
      | nil => cases replies
      | cons o os =>
          obtain ⟨reply, later⟩ := List.cons.inj replies
          rw [← outcomes_sending, ← executor_sendGroup] at later
          obtain ⟨counts, executor⟩ := ih later
          rw [mapM_sendGroup_cons_of_ok reply, outcome_map, counts, executor, executor_sendGroup,
            sending_sending]
          exact ⟨rfl, rfl⟩

/-- The first group that fails is the last that is sent, and its failure is that of the whole.  The
number of replies before the failure is the number of groups before it. -/
theorem mapM_sendGroup_of_error {gs : List Group} {s : Site} {os : List Outcome}
    {f : DatabaseFailure} {later : List (Except DatabaseFailure Outcome)}
    (replies : s.executor.connection.outcomes (gs.map Group.dispatch) =
      os.map .ok ++ .error f :: later) :
    ∃ g, gs[os.length]? = some g ∧
      ((gs.mapM sendGroup).outcome s).1 = .error (.execution (wrapped g.sql f)) ∧
      ((gs.mapM sendGroup).outcome s).2.executor =
        s.executor.sending ((gs.take (os.length + 1)).map Group.dispatch) := by
  induction gs generalizing s os with
  | nil => cases os <;> cases replies
  | cons g gs ih =>
      cases os with
      | nil =>
          obtain ⟨reply, -⟩ := List.cons.inj replies
          have fails : ((sendGroup g).outcome s).1 = .error (.execution (wrapped g.sql f)) := by
            rw [fst_sendGroup_eq, reply]
          refine ⟨g, rfl, ?_⟩
          rw [List.mapM_cons, outcome_bind, fails]
          exact ⟨rfl, executor_sendGroup g s⟩
      | cons o os =>
          obtain ⟨reply, behind⟩ := List.cons.inj replies
          -- the group was answered, so the replies left are those for the groups behind it
          rw [← outcomes_sending, ← executor_sendGroup] at behind
          obtain ⟨g', at?, error, executor⟩ := ih behind
          refine ⟨g', at?, ?_⟩
          rw [mapM_sendGroup_cons_of_ok reply, outcome_map, error, executor, executor_sendGroup,
            sending_sending]
          exact ⟨rfl, rfl⟩

/-! ### Flushing -/

/-- A flush sends groups that succeed, and gives the number of rows that each of them affected. -/
theorem flush_of_ok {s : Site} {waiting : List Queued} {os : List Outcome}
    (batch : s.executor.queue? = some waiting)
    (replies : s.executor.connection.outcomes ((groups waiting).map Group.dispatch) =
      os.map .ok) :
    (flush.outcome s).1 = .ok (some (os.map Outcome.affected)) ∧
      (flush.outcome s).2.sent = s.sent ++ (groups waiting).map Group.dispatch := by
  obtain ⟨counts, executor⟩ := mapM_sendGroup_of_ok (s := emptied s) replies
  have sent : ((groups waiting).mapM sendGroup).outcome (emptied s) =
      (.ok (os.map Outcome.affected), (((groups waiting).mapM sendGroup).outcome (emptied s)).2) :=
    Prod.ext counts rfl
  rw [outcome_flush batch, outcome_bind_of_ok sent]
  refine ⟨rfl, ?_⟩
  show (((groups waiting).mapM sendGroup).outcome (emptied s)).2.executor.connection.sent = _
  rw [executor]
  rfl

/-- A flush fails with the first group that does, and this is the last that it sends. -/
theorem flush_of_error {s : Site} {waiting : List Queued} {os : List Outcome}
    {f : DatabaseFailure} {later : List (Except DatabaseFailure Outcome)}
    (batch : s.executor.queue? = some waiting)
    (replies : s.executor.connection.outcomes ((groups waiting).map Group.dispatch) =
      os.map .ok ++ .error f :: later) :
    ∃ g, (groups waiting)[os.length]? = some g ∧
      (flush.outcome s).1 = .error (.execution (wrapped g.sql f)) ∧
      (flush.outcome s).2.sent =
        s.sent ++ ((groups waiting).take (os.length + 1)).map Group.dispatch := by
  obtain ⟨g, at?, error, executor⟩ := mapM_sendGroup_of_error (s := emptied s) replies
  refine ⟨g, at?, ?_⟩
  rw [outcome_flush batch, outcome_bind, error]
  refine ⟨rfl, ?_⟩
  show (((groups waiting).mapM sendGroup).outcome (emptied s)).2.executor.connection.sent = _
  rw [executor]
  rfl

/-! ### One by one -/

/-- Changes of a caller's, one after the other: the methods with their statements. -/
abbrev Changes := List (Method × Rendered)

/-- The changes as operations on an executor. -/
def Changes.operations (changes : Changes) : List Operation :=
  changes.map fun c => .perform c.1 c.2 none

/-- The statements of the changes. -/
def Changes.statements (changes : Changes) : List Queued :=
  changes.map fun c => ⟨c.2.sql, c.2.parameters⟩

/-- What is sent for the changes one by one. -/
def Changes.dispatches (changes : Changes) : List Dispatch :=
  changes.map fun c => .one c.2.sql c.2.parameters

/-- Taken apart, what is sent for the groups is the queue. -/
theorem statements_dispatches_groups (queue : List Queued) :
    ((groups queue).map Group.dispatch).flatMap Dispatch.statements =
      queue.map fun q => (q.sql, q.parameters) := by
  have own (g : Group) : g.dispatch.statements =
      g.statements.map fun q => (q.sql, q.parameters) := by
    rw [Group.statements, List.map_map]
    rfl
  rw [List.flatMap_map, List.flatMap_congr fun g _ => own g, ← List.map_flatMap, statements_groups]

/-- What is sent one by one is the changes themselves. -/
theorem Changes.statements_dispatches (changes : Changes) :
    changes.dispatches.flatMap Dispatch.statements =
      changes.statements.map fun q => (q.sql, q.parameters) := by
  rw [dispatches, List.flatMap_map, statements, List.map_map]
  exact List.map_eq_flatMap.symm

/-- In batch mode changes are queued, and nothing else happens to the executor.  That the methods
are those that are queued is needed, since any other would be sent at once. -/
theorem executor_run_changes {changes : Changes} (queued : ∀ c ∈ changes, c.1.isQueued = true)
    {s : Site} {waiting : List Queued} (batch : s.executor.queue? = some waiting) :
    (Operation.run changes.operations s).executor =
      { s.executor with queue? := some (waiting ++ changes.statements) } := by
  induction changes generalizing s waiting with
  | nil =>
      show s.executor = { s.executor with queue? := some (waiting ++ []) }
      rw [List.append_nil, ← batch]
  | cons c changes ih =>
      obtain ⟨own, others⟩ := List.forall_mem_cons.mp queued
      have first := executor_perform_of_queued own batch c.2 none
      have here := ih others (congrArg Executor.queue? first)
      rw [first, List.append_assoc] at here
      exact here

/-- A change is sent at once without batch mode. -/
theorem executor_perform_of_immediate {method : Method} (queued : method.isQueued = true)
    {t : Site} (immediate : t.executor.queue? = none) (r : Rendered)
    (mapper? : Option RowMapper) :
    ((perform method r mapper?).outcome t).2.executor =
      t.executor.sending [.one r.sql r.parameters] := by
  cases method with
  | update | delete | insert | generalInsert =>
      unfold perform
      simp only [outcome_look_bind, immediate, Method.isQueued, outcome_map]
      exact executor_runOne r _ t
  | _ => cases queued

/-- Without batch mode changes are sent one by one. -/
theorem sent_run_changes {changes : Changes} (queued : ∀ c ∈ changes, c.1.isQueued = true)
    {t : Site} (immediate : t.executor.queue? = none) :
    (Operation.run changes.operations t).sent = t.sent ++ changes.dispatches := by
  induction changes generalizing t with
  | nil => exact (List.append_nil _).symm
  | cons c changes ih =>
      obtain ⟨own, others⟩ := List.forall_mem_cons.mp queued
      have first := executor_perform_of_immediate own immediate c.2 none
      have before : ((perform c.1 c.2 none).outcome t).2.sent =
          t.sent ++ [.one c.2.sql c.2.parameters] := by
        rw [Site.sent, first]
        rfl
      have here := ih others ((congrArg Executor.queue? first).trans immediate)
      rw [before, List.append_assoc] at here
      exact here

/-- How the flush of queued changes, on one executor, refines their immediate execution, on
another. -/
structure FlushRefines (changes : Changes) (s t : Site) (gs : List Group) : Prop where
  /-- The groups are the one way to cut the queue into maximal runs of one text. -/
  cuts : ∀ cut, CutsIntoRuns changes.statements cut ↔ cut = gs
  /-- Nothing is sent before the flush. -/
  queued : (Operation.run changes.operations s).sent = s.sent
  /-- Without batch mode each change is sent on its own. -/
  one_by_one : (Operation.run changes.operations t).sent = t.sent ++ changes.dispatches
  /-- Taken apart, the groups are what is sent one by one. -/
  statements_eq : (gs.map Group.dispatch).flatMap Dispatch.statements =
    changes.dispatches.flatMap Dispatch.statements
  /-- If the connection carries out all groups, all are sent in order, and the result is the
  number of affected rows of each. -/
  succeeds : ∀ os : List Outcome,
    s.executor.connection.outcomes (gs.map Group.dispatch) = os.map .ok →
    let flushed := flush.outcome (Operation.run changes.operations s)
    flushed.1 = .ok (some (os.map Outcome.affected)) ∧
      flushed.2.sent = s.sent ++ gs.map Group.dispatch
  /-- If a group is the first that fails, it is the last that is sent, and an execution error is
  raised instead of any numbers, which carries the text of the group and what it failed with. -/
  fails : ∀ (os : List Outcome) f later,
    s.executor.connection.outcomes (gs.map Group.dispatch) = os.map .ok ++ .error f :: later →
    let flushed := flush.outcome (Operation.run changes.operations s)
    ∃ g e, gs[os.length]? = some g ∧ flushed.1 = .error (.execution e) ∧
      e.message = "Statement execution failed: " ++ f.message ∧ e.sql = some g.sql ∧
      e.underlying = some f ∧
      flushed.2.sent = s.sent ++ (gs.take (os.length + 1)).map Group.dispatch

/-- **The flush of a queue refines immediate execution**, group by group.  The queue is empty at the
beginning, so that nothing but the changes is flushed. -/
theorem flush_refines_immediate {changes : Changes}
    (queued : ∀ c ∈ changes, c.1.isQueued = true) {s t : Site}
    (batch : s.executor.queue? = some []) (immediate : t.executor.queue? = none) :
    FlushRefines changes s t (groups changes.statements) := by
  have waiting := executor_run_changes queued batch
  have opened : (Operation.run changes.operations s).executor.queue? =
      some changes.statements := by rw [waiting]; rfl
  have connection : (Operation.run changes.operations s).executor.connection =
      s.executor.connection := by rw [waiting]
  have sent : (Operation.run changes.operations s).sent = s.sent :=
    congrArg Connection.sent connection
  refine ⟨fun _ => cutsIntoRuns_iff, sent, sent_run_changes queued immediate,
    (statements_dispatches_groups _).trans changes.statements_dispatches.symm, ?_, ?_⟩
  · intro os replies
    rw [← connection] at replies
    rw [← sent]
    exact flush_of_ok opened replies
  · intro os f later replies
    rw [← connection] at replies
    rw [← sent]
    obtain ⟨g, at?, error, sent⟩ := flush_of_error opened replies
    exact ⟨g, wrapped g.sql f, at?, error, rfl, rfl, rfl, sent⟩

/-- Changes of two texts, one of which comes back later. -/
def recurring : Changes :=
  [(.insert, ⟨"a", [("p", .int 1)]⟩), (.insert, ⟨"a", [("p", .int 2)]⟩), (.delete, ⟨"b", []⟩),
    (.update, ⟨"a", [("p", .int 3)]⟩)]

/-- A text that comes back later makes a group of its own.  When the second group fails, the third
is not sent. -/
theorem flush_refines_immediate_sample :
    let s := Site.batch [.result [] [] none, .result [] [] (some 5)] [] []
    let locked := Site.batch [.result [] [] none, .failure ⟨"Locked", "b"⟩] [] []
    let gs : List Group :=
      [⟨"a", [[("p", .int 1)], [("p", .int 2)]]⟩, ⟨"b", [[]]⟩, ⟨"a", [[("p", .int 3)]]⟩]
    FlushRefines recurring s {} gs ∧ FlushRefines recurring locked {} gs ∧
      (flush.outcome (Operation.run recurring.operations s)).1 = .ok (some [2, 5, 1]) ∧
      (flush.outcome (Operation.run recurring.operations locked)).1 =
        .error (.execution ⟨"Statement execution failed: b", some "b", some ⟨"Locked", "b"⟩⟩) ∧
      (flush.outcome (Operation.run recurring.operations locked)).2.sent.length = 2 := by
  intro s locked gs
  have queued : ∀ c ∈ recurring, c.1.isQueued = true := by decide
  exact ⟨flush_refines_immediate queued rfl rfl, flush_refines_immediate queued rfl rfl, rfl, rfl,
    rfl⟩

end Executor

end BoundSql
