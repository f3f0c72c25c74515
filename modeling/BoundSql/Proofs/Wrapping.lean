import BoundSql.Proofs.Phases.Execution

/-!
# Failures of the database layer

An execution can fail, and so can the reading of its result.  Both are reported in one way: the
failure is wrapped in an execution error that carries the text that was sent, and logged once.  What
else can go wrong, in a row mapper of the caller's or in the conversion of a value, is passed on as
it is and not logged.

## Where things happen

Which failure a method meets with depends on what stands in the guarded block and in which order.
A count and the selection of one row ask for a second row before they do anything with the first;
the first row is converted behind the block.  The selection of many rows converts each of them as it
is fetched, inside the block: a row that cannot be converted comes before the end of fetching, and a
failure of fetching that comes after it is never met.  The other methods fetch nothing.  A retrieval
of generated keys fetches all rows before it writes any key.

`Executor.Method.misread?` and `KeyRetrieval.failure?` say this of the result alone.  The methods
themselves are looked at twice.  `Executor.outcome_perform` splits each of them into what is read in
the block and what is done behind it, and `Method.read_of_misread` and `Method.bind_of_not_misread`
compare the two parts with the result.  From there on no method is opened again: `Conveys` holds of
an execution as such (`Executor.conveys_run`), and what is done behind the block does not disturb it
(`Executor.Conveys.bind`).

## What is assumed

Of a row mapper it is assumed that it raises no error of the database layer, be it wrapped or not.
Inside the block such an error of the mapper's could not be told from one of fetching: it would be
wrapped as well.  Nothing is assumed of replies: a count that gets no row, a single row where
fetching breaks off behind it, and a row with too few values are all among them.

* `Executor.Conveys` : what a call on an executor sends, reports and logs.
* `Executor.Method.misread?`, `Executor.Method.answer` : what a method makes of a result.
* `Executor.failures_wrapped_once` : every method, and every retrieval of generated keys.
-/

namespace BoundSql

open BoundSql.Action

/-- The error is one of the database layer, be it wrapped or not. -/
def Error.IsDatabase (e : Error) : Prop := e.IsExecution ∨ ∃ f, e = .database f

/-- Plain errors have nothing to do with the database layer. -/
theorem Error.not_isDatabase_of_isPlain {e : Error} (plain : e.isPlain = true) :
    ¬ e.IsDatabase := by
  rintro (execution | ⟨f, rfl⟩)
  · exact not_isExecution_of_isPlain plain execution
  · cases plain

namespace Executor

/-! ### Failures -/

/-- The event in which a failure of the database layer is logged. -/
def failureEvent (sql : String) (f : DatabaseFailure) : LogEvent :=
  [("error_type", .text "ExecutionError"),
   ("message", .text ("Statement execution failed: " ++ f.message)),
   ("sql", .text sql),
   ("original_error_type", .text f.kind),
   ("original_error_message", .text f.message),
   ("event", .text "statement_failed"),
   ("level", .text "error"),
   ("logger", .text "dynamic_sql.io.executor")]

/-- No name in the event is a sensitive one, so everything in it is shown. -/
theorem isSensitive_failureEvent :
    ∀ key ∈ ["error_type", "message", "sql", "original_error_type", "original_error_message",
      "event", "level", "logger"], Redaction.isSensitive key = false := by
  decide +kernel

/-- The fields of an execution error come first in the event, then its name, level and logger. -/
theorem executionFailed_eq (message sql : String) (f : DatabaseFailure) :
    executionFailed ⟨message, some sql, some f⟩ =
      [("error_type", .text "ExecutionError"), ("message", .text message), ("sql", .text sql),
       ("original_error_type", .text f.kind), ("original_error_message", .text f.message),
       ("event", .text "statement_failed"), ("level", .text "error"),
       ("logger", .text "dynamic_sql.io.executor")] := by
  have shown := isSensitive_failureEvent
  simp only [List.forall_mem_cons] at shown
  simp [executionFailed, Logger.event, executorLogger, Logger.named, ExecutionError.fields,
    Value.ofText?, Assoc.put, Assoc.putAll, Assoc.erase, Logger.instructions, LogLevel.name,
    Redaction.redact, Redaction.redactValue, shown]

/-- What is logged of a wrapped failure is that event. -/
theorem executionFailed_wrapped (sql : String) (f : DatabaseFailure) :
    executionFailed (wrapped sql f) = failureEvent sql f :=
  executionFailed_eq _ sql f

/-- What a call on an executor does, when it makes one execution and the database layer fails as
given, or does not fail. -/
structure Conveys {α : Type} (d : Dispatch) (failure? : Option DatabaseFailure) (s : Site)
    (a : Action Site α) : Prop where
  /-- One thing is sent. -/
  sent : (a.outcome s).2.sent = s.sent ++ [d]
  /-- An execution error is raised for a failure only.  It says what has failed, and it carries the
  text that was sent and the failure. -/
  raised : ∀ e, (a.outcome s).1 = .error (.execution e) ↔
    ∃ f, failure? = some f ∧ e.message = "Statement execution failed: " ++ f.message ∧
      e.sql = some d.sql ∧ e.underlying = some f
  /-- A failure is logged once, in one event, and nothing else is logged. -/
  logged : (a.outcome s).2.log = s.log ++ (failure?.map (failureEvent d.sql)).toList

variable {α : Type} {d : Dispatch} {s s' : Site} {a b : Action Site α}

/-- It is the outcome alone that matters. -/
theorem Conveys.congr {failure? : Option DatabaseFailure} (h : Conveys d failure? s b)
    (same : a.outcome s = b.outcome s) : Conveys d failure? s a where
  sent := by rw [same, h.sent]
  raised := by rw [same]; exact h.raised
  logged := by rw [same, h.logged]

/-- A call conveys a failure that it raises and logs, whatever it has done to the records. -/
theorem Conveys.of_failure {f : DatabaseFailure}
    (outcome : a.outcome s = (.error (.execution (wrapped d.sql f)), s'.noting d.sql f))
    (executor : s'.executor = s.executor.sending [d]) (log : s'.log = s.log) :
    Conveys d (some f) s a where
  sent := by
    rw [outcome]
    exact congrArg (·.connection.sent) executor
  raised := by
    intro e
    rw [outcome]
    constructor
    · intro same
      obtain rfl := Error.execution.inj (Except.error.inj same)
      exact ⟨f, rfl, rfl, rfl, rfl⟩
    · rintro ⟨f', same, message, sql, underlying⟩
      obtain rfl := Option.some.inj same
      obtain ⟨_, _, _⟩ := e
      obtain rfl : _ = _ := message
      obtain rfl : _ = _ := sql
      obtain rfl : _ = _ := underlying
      rfl
  logged := by
    rw [outcome, Option.map_some, ← executionFailed_wrapped]
    exact congrArg (· ++ _) log

/-- A call that raises no execution error and logs nothing conveys that nothing has failed. -/
theorem Conveys.of_passed (executor : (a.outcome s).2.executor = s.executor.sending [d])
    (log : (a.outcome s).2.log = s.log)
    (other : ∀ e, (a.outcome s).1 ≠ .error (.execution e)) : Conveys d none s a where
  sent := congrArg (·.connection.sent) executor
  raised e := iff_of_false (other e) (by rintro ⟨f, ⟨⟩, -⟩)
  logged := log.trans (List.append_nil _).symm

/-- What is done behind the guarded block does not disturb what a call conveys, as long as it raises
no execution error of its own. -/
theorem Conveys.bind {β : Type} {failure? : Option DatabaseFailure} (h : Conveys d failure? s a)
    {rest : α → Except Error β} (other : ∀ x e, rest x = .error e → ¬ e.IsExecution) :
    Conveys d failure? s (a >>= fun x => Action.ofExcept (rest x)) := by
  have state : ((a >>= fun x => Action.ofExcept (rest x)).outcome s).2 = (a.outcome s).2 := by
    rw [outcome_bind]
    cases (a.outcome s).1 <;> rfl
  refine ⟨?_, fun e => ?_, ?_⟩
  · rw [state, h.sent]
  · rw [← h.raised e, outcome_bind_eq_error_iff, or_iff_left]
    rintro ⟨x, between, -, fails⟩
    exact other x _ fails ⟨e, rfl⟩
  · rw [state, h.logged]

/-- The failure of the database layer that an outcome is, if it is one. -/
def failed? : Except Error α → Option DatabaseFailure
  | .error (.database f) => some f
  | _ => none

theorem failed?_eq_some_iff {result : Except Error α} {f : DatabaseFailure} :
    failed? result = some f ↔ result = .error (.database f) := by
  constructor
  · intro failed
    unfold failed? at failed
    split at failed
    · rw [Option.some.inj failed]
    · cases failed
  · rintro rfl
    rfl

/-- Otherwise the outcome is any other, be it a success or an error. -/
theorem failed?_eq_none_iff {result : Except Error α} :
    failed? result = none ↔ ∀ f, result ≠ .error (.database f) := by
  simp only [Option.eq_none_iff_forall_ne_some, ne_eq, failed?_eq_some_iff]

/-- The guarded block leaves alone what is not a failure of the database layer. -/
theorem conveyed_of_not_failed {result : Except Error α} (passed : failed? result = none)
    (sql : String) (s : Site) : conveyed sql (result, s) = (result, s) := by
  unfold conveyed
  split
  case h_1 e =>
    cases e
    cases passed
  case h_2 => rfl

/-- **An execution conveys what fails in it**, in the execution itself or in what is made of its
result.  The hypotheses say that what is made of the result is no further execution: it neither
sends nor logs anything, and does not raise the error of another one. -/
theorem conveys_run {consume : Outcome → Action Site α}
    (idle : ∀ o, Keeps Site.executor (consume o)) (silent : ∀ o, Keeps Site.log (consume o))
    (raises : ∀ o, Raises (fun e => ¬ e.IsExecution) (consume o)) (d : Dispatch) (s : Site) :
    Conveys d (failed? ((Site.send d >>= consume).outcome s).1) s (run d consume) := by
  have outcome : (run d consume).outcome s =
      conveyed d.sql ((Site.send d >>= consume).outcome s) := outcome_guarded _ _ s
  have executor : ((Site.send d >>= consume).outcome s).2.executor = s.executor.sending [d] := by
    rw [Keeps.after idle, Site.outcome_send]
    rfl
  have log : ((Site.send d >>= consume).outcome s).2.log = s.log := by
    rw [Keeps.after silent, Site.outcome_send]
    rfl
  -- only the handler makes execution errors, so the block inside it has none of its own
  have other (e : ExecutionError) :
      ((Site.send d >>= consume).outcome s).1 ≠ .error (.execution e) := by
    intro fails
    rcases outcome_bind_eq_error_iff.mp fails with fails | ⟨o, between, -, fails⟩
    · rw [Site.outcome_send] at fails
      cases reply : s.reply.outcome d <;> rw [reply] at fails <;> cases fails
    · exact raises o between _ fails ⟨e, rfl⟩
  generalize (Site.send d >>= consume).outcome s = inner at outcome executor log other
  cases failed : failed? inner.1 with
  | some f =>
      obtain ⟨result, s'⟩ := inner
      obtain rfl := failed?_eq_some_iff.mp failed
      exact .of_failure outcome executor log
  | none =>
      rw [conveyed_of_not_failed failed] at outcome
      exact .of_passed (outcome ▸ executor) (outcome ▸ log) (outcome ▸ other)

/-- What an execution comes to inside the guarded block. -/
theorem fst_send_bind (consume : Outcome → Action Site α) (d : Dispatch) (s : Site) :
    ((Site.send d >>= consume).outcome s).1 =
      match s.reply.outcome d with
      | .error f => .error (.database f)
      | .ok o => ((consume o).outcome (s.sending d)).1 := by
  rw [outcome_bind, Site.outcome_send]
  cases s.reply.outcome d <;> rfl

/-! ### Methods -/

namespace Method

/-- The failure of the database layer that a method meets with when it reads a result.  A count
demands exactly one row and the selection of one row at most one; both ask for a row more.  The
selection of many rows gets behind its rows only if all of them can be converted.  The other methods
fetch nothing. -/
def misread? (mapper? : Option RowMapper) (o : Outcome) : Method → Option DatabaseFailure
  | count =>
    match o.rows with
    | [] => some (o.broken?.getD ⟨"NoResultFound", "No row was found when one was required"⟩)
    | [_] => o.broken?
    | _ => some ⟨"MultipleResultsFound", "Multiple rows were found when exactly one was required"⟩
  | selectOne =>
    match o.rows with
    | [] | [_] => o.broken?
    | _ => some ⟨"MultipleResultsFound", "Multiple rows were found when one or none was required"⟩
  | selectMany =>
    match o.rows.mapM fun row => rowValue mapper? (o.named row) with
    | .ok _ => o.broken?
    | .error _ => none
  | _ => none

/-- The failure of the database layer that a method meets with, in the execution or in the
reading. -/
def failure? (mapper? : Option RowMapper) (method : Method) :
    Except DatabaseFailure Outcome → Option DatabaseFailure
  | .error f => some f
  | .ok o => method.misread? mapper? o

/-- What a method makes of a result that is read without a failure; the errors in it are those of
the row mapper, and of values that are not what is asked for. -/
def answer (mapper? : Option RowMapper) (o : Outcome) : Method → Except Error Value
  | count => .int <$> ((o.named (o.rows.headD [])).first >>= Value.toInteger)
  | selectMany => .list <$> o.rows.mapM fun row => rowValue mapper? (o.named row)
  | selectOne =>
    match o.rows with
    | [] => .ok .null
    | row :: _ => rowValue mapper? (o.named row)
  | _ => .ok (.int o.affected)

/-- What a method reads in the guarded block. -/
def Content : Method → Type
  | count => Value
  | selectMany => List Value
  | selectOne => Option Row
  | _ => Int

/-- How a method reads a result in the guarded block. -/
def read (mapper? : Option RowMapper) (o : Outcome) :
    (method : Method) → Except Error method.Content
  | count => o.onlyRow >>= Row.first
  | selectMany => o.eachRow (rowValue mapper?)
  | selectOne => o.oneOrNone
  | execute | update | delete | insert | generalInsert | insertMultiple | insertSelect =>
    .ok o.affected

/-- What a method makes behind the guarded block of what it has read. -/
def finish (mapper? : Option RowMapper) : (method : Method) → method.Content → Except Error Value
  | count, v => .int <$> Value.toInteger v
  | selectMany, values => .ok (.list values)
  | selectOne, none => .ok .null
  | selectOne, some row => rowValue mapper? row
  | execute, n | update, n | delete, n | insert, n | generalInsert, n | insertMultiple, n
  | insertSelect, n => .ok (.int n)

variable {mapper? : Option RowMapper} {method : Method} {o : Outcome}

/-- Where a result is misread, the failure is raised in the guarded block.  There is one case for
each method that fetches rows, and in it one for each number of rows that makes a difference. -/
theorem read_of_misread {f : DatabaseFailure} (misread : method.misread? mapper? o = some f) :
    method.read mapper? o = .error (.database f) := by
  obtain ⟨columns, rows, affected, broken?⟩ := o
  cases method with
  | count =>
      match rows with
      | [] => cases broken? <;> cases misread <;> rfl
      | [row] => cases misread; rfl
      | _ :: _ :: _ => cases misread; rfl
  | selectMany =>
      show ((rows.mapM fun row => rowValue mapper? ⟨columns, row⟩) >>= fun values => _) = _
      change (match rows.mapM fun row => rowValue mapper? ⟨columns, row⟩ with
        | .ok _ => broken?
        | .error _ => none) = some f at misread
      cases converted : rows.mapM fun row => rowValue mapper? ⟨columns, row⟩ with
      | error e =>
          rw [converted] at misread
          cases misread
      | ok values =>
          rw [converted] at misread
          obtain rfl : broken? = some f := misread
          rfl
  | selectOne =>
      match rows with
      | [] => cases misread; rfl
      | [row] => cases misread; rfl
      | _ :: _ :: _ => cases misread; rfl
  | _ => cases misread

/-- Otherwise the method comes to its answer, partly in the block and partly behind it.  The answer
does not say where each part is made. -/
theorem bind_of_not_misread (whole : method.misread? mapper? o = none) :
    (method.read mapper? o >>= method.finish mapper?) = method.answer mapper? o := by
  obtain ⟨columns, rows, affected, broken?⟩ := o
  cases method with
  | count =>
      match rows with
      | [] => cases whole
      | [row] =>
          obtain rfl : broken? = none := whole
          show (Row.first ⟨columns, row⟩ >>= fun v => Value.int <$> v.toInteger) =
            Value.int <$> (Row.first ⟨columns, row⟩ >>= Value.toInteger)
          cases Row.first ⟨columns, row⟩ <;> rfl
      | _ :: _ :: _ => cases whole
  | selectMany =>
      show (((rows.mapM fun row => rowValue mapper? ⟨columns, row⟩) >>= fun values => _) >>= _) =
        Value.list <$> rows.mapM fun row => rowValue mapper? ⟨columns, row⟩
      change (match rows.mapM fun row => rowValue mapper? ⟨columns, row⟩ with
        | .ok _ => broken?
        | .error _ => none) = none at whole
      cases converted : rows.mapM fun row => rowValue mapper? ⟨columns, row⟩ with
      | error e => rfl
      | ok values =>
          rw [converted] at whole
          obtain rfl : broken? = none := whole
          rfl
  | selectOne =>
      match rows with
      | [] => obtain rfl : broken? = none := whole; rfl
      | [row] => obtain rfl : broken? = none := whole; rfl
      | _ :: _ :: _ => cases whole
  | _ => rfl

variable (own : ∀ f, mapper? = some f → ∀ row e, f row = .error e → ¬ e.IsDatabase)

include own

/-- A row is handed to the mapper, or to the dictionary of its columns, which raises plain
errors. -/
theorem raises_rowValue {row : Row} {e : Error} (h : rowValue mapper? row = .error e) :
    ¬ e.IsDatabase := by
  cases mapper? with
  | some f => exact own f rfl row e h
  | none =>
      exact Error.not_isDatabase_of_isPlain (Row.isPlain_of_dictionary (map_eq_error_iff.mp h))

/-- Apart from the row mapper, nothing that is made of a result raises an error of the database
layer. -/
theorem raises_answer {e : Error} (h : method.answer mapper? o = .error e) : ¬ e.IsDatabase := by
  cases method with
  | count =>
      refine Error.not_isDatabase_of_isPlain ?_
      rcases bind_eq_error_iff.mp (map_eq_error_iff.mp h) with first | ⟨v, -, h⟩
      · exact Row.isPlain_of_first first
      · exact Value.isPlain_of_toInteger h
  | selectMany =>
      obtain ⟨row, -, h⟩ := exists_of_mapM_eq_error (map_eq_error_iff.mp h)
      exact raises_rowValue own h
  | selectOne =>
      rw [answer] at h
      split at h
      · cases h
      · exact raises_rowValue own h
  | _ => cases h

theorem raises_finish {content : method.Content} {e : Error}
    (h : method.finish mapper? content = .error e) : ¬ e.IsDatabase := by
  cases method with
  | count =>
      exact Error.not_isDatabase_of_isPlain (Value.isPlain_of_toInteger (map_eq_error_iff.mp h))
  | selectOne =>
      cases content with
      | none => cases h
      | some row => exact raises_rowValue own h
  | _ => cases h

/-- What is raised in the guarded block is the failure that is foreseen, or no error of the database
layer. -/
theorem raises_read {e : Error} (h : method.read mapper? o = .error e) :
    (∃ f, method.misread? mapper? o = some f ∧ e = .database f) ∨ ¬ e.IsDatabase := by
  cases misread : method.misread? mapper? o with
  | some f => exact .inl ⟨f, rfl, Except.error.inj (h.symm.trans (read_of_misread misread))⟩
  | none =>
      have answered := bind_of_not_misread misread
      rw [h] at answered
      exact .inr (raises_answer own answered.symm)

/-- So the failure that is foreseen is the one that is raised in the block. -/
theorem failed?_read : failed? (method.read mapper? o) = method.misread? mapper? o := by
  cases misread : method.misread? mapper? o with
  | some f => rw [read_of_misread misread, failed?]
  | none =>
      rw [failed?_eq_none_iff]
      intro f fails
      rcases raises_read own fails with ⟨f', some, -⟩ | other
      · cases misread.symm.trans some
      · exact other (.inr ⟨f, rfl⟩)

end Method

variable {method : Method} {r : Rendered} {mapper? : Option RowMapper}

/-- **A method that is not queued** makes one execution, reads its result in the guarded block, and
does the rest behind it. -/
theorem outcome_perform (immediate : method.isQueued = true → s.executor.queue? = none)
    (r : Rendered) (mapper? : Option RowMapper) :
    (perform method r mapper?).outcome s =
      (runOne r (method.read mapper?) >>= fun content =>
        Action.ofExcept (method.finish mapper? content)).outcome s := by
  -- what is read in the block is the same on both sides, and the rest is compared case by case
  have behind {β : Type} {read : Outcome → Except Error β} {f g : β → Action Site Value}
      (same : ∀ x t, (f x).outcome t = (g x).outcome t) :
      (runOne r read >>= f).outcome s = (runOne r read >>= g).outcome s := by
    rw [outcome_bind, outcome_bind]
    cases ((runOne r read).outcome s).1 with
    | error e => rfl
    | ok x => exact same x _
  cases method with
  | count =>
      show (Value.int <$> (runOne r (fun o => o.onlyRow >>= Row.first) >>= _)).outcome s = _
      rw [map_eq_pure_bind, bind_assoc]
      refine behind fun v t => ?_
      rw [← map_eq_pure_bind, outcome_map]
      rfl
  | selectMany =>
      show (Value.list <$> runOne r _).outcome s = _
      rw [map_eq_pure_bind]
      exact behind fun values t => rfl
  | selectOne => exact behind fun row? t => by cases row? <;> rfl
  | execute | insertMultiple | insertSelect =>
      -- these are run in batch mode as well
      show (Value.int <$> runOne r _).outcome s = _
      rw [map_eq_pure_bind]
      exact behind fun n t => rfl
  | update | delete | insert | generalInsert =>
      unfold perform
      simp only [outcome_look_bind, immediate rfl]
      show (Value.int <$> runOne r _).outcome s = _
      rw [map_eq_pure_bind]
      exact behind fun n t => rfl

/-- **A method conveys the failure that is foreseen for it.** -/
theorem conveys_perform (immediate : method.isQueued = true → s.executor.queue? = none)
    (own : ∀ f, mapper? = some f → ∀ row e, f row = .error e → ¬ e.IsDatabase) (r : Rendered) :
    let d := Dispatch.one r.sql r.parameters
    Conveys d (method.failure? mapper? (s.reply.outcome d)) s (perform method r mapper?) := by
  intro d
  have raises (o : Outcome) : Raises (fun e => ¬ e.IsExecution)
      (Action.ofExcept (method.read mapper? o) : Action Site method.Content) := by
    refine .ofExcept fun e fails execution => ?_
    rcases Method.raises_read own fails with ⟨f, -, rfl⟩ | other
    · obtain ⟨x, ⟨⟩⟩ := execution
    · exact other (.inl execution)
  have conveys := conveys_run (fun o => .ofExcept _) (fun o => .ofExcept _) raises d s
  have failed : failed? ((Site.send d >>= fun o => Action.ofExcept (method.read mapper? o)).outcome
      s).1 = method.failure? mapper? (s.reply.outcome d) := by
    rw [fst_send_bind]
    cases s.reply.outcome d with
    | error f => rfl
    | ok o => exact Method.failed?_read own
  rw [failed] at conveys
  refine (conveys.bind fun content e fails execution => ?_).congr
    (outcome_perform immediate r mapper?)
  exact Method.raises_finish own fails (.inl execution)

/-- A method whose result is read without a failure comes to its answer. -/
theorem perform_eq_answer (immediate : method.isQueued = true → s.executor.queue? = none)
    {o : Outcome} (own : ∀ f, mapper? = some f → ∀ row e, f row = .error e → ¬ e.IsDatabase)
    (reply : s.reply.outcome (.one r.sql r.parameters) = .ok o)
    (whole : method.misread? mapper? o = none) :
    ((perform method r mapper?).outcome s).1 = method.answer mapper? o := by
  have passed : failed? (method.read mapper? o) = none := (Method.failed?_read own).trans whole
  rw [outcome_perform immediate, outcome_bind, outcome_runOne_of_result reply,
    conveyed_of_not_failed passed, ← Method.bind_of_not_misread whole]
  cases method.read mapper? o <;> rfl

end Executor

namespace Outcome

variable {α : Type} {f : Row → Except Error α} {columns : List String} {row : List Value}
  {affected : Int} {broken? : Option DatabaseFailure}

/-- A single row that is converted is followed by the end of fetching. -/
theorem eachRow_single_of_ok {a : α} (converted : f ⟨columns, row⟩ = .ok a) :
    eachRow ⟨columns, [row], affected, broken?⟩ f =
      finish ⟨columns, [row], affected, broken?⟩ >>= fun _ => .ok [a] := by
  rw [eachRow, List.mapM_cons, List.mapM_nil]
  show (f ⟨columns, row⟩ >>= _) >>= _ = _
  rw [converted]
  rfl

/-- A single row that cannot be converted ends fetching. -/
theorem eachRow_single_of_error {e : Error} (converted : f ⟨columns, row⟩ = .error e) :
    eachRow ⟨columns, [row], affected, broken?⟩ f = .error e := by
  rw [eachRow, List.mapM_cons, List.mapM_nil]
  show (f ⟨columns, row⟩ >>= _) >>= _ = _
  rw [converted]
  rfl

end Outcome

namespace Executor

variable {s : Site} {r : Rendered} {mapper? : Option RowMapper}

/-- The selection of one row makes of at most one row what the selection of many makes of it.  Where
fetching breaks off behind the row, the selection of one does not convert it, so that the two agree
only if it can be converted. -/
theorem outcome_selectOne
    (few : ∀ o, s.reply.outcome (.one r.sql r.parameters) = .ok o → o.rows.length ≤ 1)
    (converts : ∀ o, s.reply.outcome (.one r.sql r.parameters) = .ok o → o.broken? ≠ none →
      ∀ row ∈ o.rows, ∃ v, rowValue mapper? (o.named row) = .ok v)
    (own : ∀ f, mapper? = some f → ∀ row e, f row = .error e → ¬ e.IsDatabase) :
    (selectOne r mapper?).outcome s =
      ((fun values => values.headD .null) <$> selectMany r mapper?).outcome s := by
  rw [selectOne, selectMany, outcome_bind, outcome_map]
  cases reply : s.reply.outcome (.one r.sql r.parameters) with
  | error f =>
      rw [outcome_runOne, outcome_runOne, reply]
      rfl
  | ok o =>
      have few := few o reply
      have converts := converts o reply
      rw [outcome_runOne_of_result reply, outcome_runOne_of_result reply]
      obtain ⟨columns, rows, affected, broken?⟩ := o
      match rows with
      | [] => cases broken? <;> rfl
      | [row] =>
          cases converted : rowValue mapper? ⟨columns, row⟩ with
          | ok v =>
              rw [Outcome.eachRow_single_of_ok converted]
              cases broken? with
              | none => exact congrArg (·, s.sending (.one r.sql r.parameters)) converted
              | some f => rfl
          | error e =>
              -- then fetching does not break off, and the error passes the block
              have other : failed? (Except.error e : Except Error (List Value)) = none :=
                failed?_eq_none_iff.mpr fun f same =>
                  Method.raises_rowValue own converted (.inr ⟨f, Except.error.inj same⟩)
              rw [Outcome.eachRow_single_of_error converted, conveyed_of_not_failed other]
              cases broken? with
              | none => exact congrArg (·, s.sending (.one r.sql r.parameters)) converted
              | some f =>
                  obtain ⟨v, converts⟩ := converts nofun row List.mem_cons_self
                  cases converts.symm.trans converted
      | _ :: _ :: _ => simp at few

end Executor

/-! ### Retrievals of generated keys -/

namespace KeyRetrieval

variable {k : KeyRetrieval}

/-- The failure of the database layer that a retrieval meets with: that of the execution, or what
fetching breaks off with, since all rows are fetched. -/
def failure? : Except DatabaseFailure Outcome → Option DatabaseFailure
  | .error f => some f
  | .ok o => o.broken?

/-- Nothing is done with a result whose rows cannot be fetched. -/
theorem outcome_assignKeys_of_broken {o : Outcome} {f : DatabaseFailure}
    (broken : o.broken? = some f) (ids : List RecordId) (s : Site) :
    (k.assignKeys ids o).outcome s = (.error (.database f), s) := by
  have unfetched : o.allRows = .error (.database f) := by
    rw [Outcome.allRows, Outcome.finish, broken]
    rfl
  unfold assignKeys
  cases k.matchColumn? with
  | none =>
      simp only [Outcome.firstColumn, unfetched]
      rfl
  | some column =>
      simp only [unfetched]
      rfl

/-- A record that cannot be matched is refused, and one that cannot be written has an error of its
own. -/
theorem raises_assignMatching (property : String) (keys : Assoc Scalar Value) (id : RecordId) :
    Raises (fun e => ¬ e.IsDatabase) (k.assignMatching property keys id) := by
  refine (Raises.look _).bind fun record => (Raises.ofExcept fun e h => ?_).bind fun v => ?_
  · -- a property that is missing makes the statement malformed
    unfold Record.read at h
    split at h <;> cases h
    rintro (⟨x, ⟨⟩⟩ | ⟨f, ⟨⟩⟩)
  · refine Raises.bind (.ofExcept fun e h => ?_) fun value => ?_
    · exact Error.not_isDatabase_of_isPlain (isPlain_of_lookupKey h)
    · cases Assoc.get? value keys with
      | some key => exact (raises_assign id key).imp fun _ => Error.not_isDatabase_of_isPlain
      | none => exact .pure ()

/-- What is done with a result raises no error of the database layer but that of fetching its
rows. -/
theorem raises_assignKeys (ids : List RecordId) (o : Outcome) :
    Raises (fun e => o.allRows = .error e ∨ ¬ e.IsDatabase) (k.assignKeys ids o) := by
  unfold assignKeys
  cases k.matchColumn? with
  | none =>
      refine Raises.bind (.ofExcept fun e h => ?_) fun keys => ?_
      · exact (error_of_firstColumn h).imp_right Error.not_isDatabase_of_isPlain
      · refine Raises.bind (.forM (fun pair => ?_) (ids.zip keys)) fun _ => .pure _
        exact (raises_assign pair.1 pair.2).imp fun _ plain =>
          .inr (Error.not_isDatabase_of_isPlain plain)
  | some column =>
      refine Raises.bind (.ofExcept fun e h => .inl h) fun rows => ?_
      refine Raises.bind (.ofExcept fun e h => ?_) fun keys => ?_
      · exact .inr (Error.not_isDatabase_of_isPlain (isPlain_of_keysByValue h))
      · refine Raises.bind (.forM (fun id => ?_) ids) fun _ => .pure _
        exact (raises_assignMatching _ keys id).imp fun _ => .inr

/-- So a retrieval fails in the block exactly if fetching breaks off. -/
theorem failed?_assignKeys (ids : List RecordId) (o : Outcome) (s : Site) :
    Executor.failed? ((k.assignKeys ids o).outcome s).1 = o.broken? := by
  cases broken : o.broken? with
  | some f => rw [outcome_assignKeys_of_broken broken, Executor.failed?]
  | none =>
      rw [Executor.failed?_eq_none_iff]
      intro f fails
      rcases raises_assignKeys ids o s _ fails with unfetched | other
      · rw [Outcome.allRows, Outcome.finish, broken] at unfetched
        cases unfetched
      · exact other (.inr ⟨f, rfl⟩)

variable {sql : String} {ids : List RecordId} {s : Site} {parameters : Parameters}

/-- A retrieval conveys the failure of the execution or of fetching. -/
theorem conveys_run (bound : bindRowSlots sql (ids.map s.records.at) = .ok parameters) :
    let d := Dispatch.one (k.statement sql) parameters
    Executor.Conveys d (failure? (s.reply.outcome d)) s (k.run sql ids) := by
  intro d
  have raises (o : Outcome) : Raises (fun e => ¬ e.IsExecution) (k.assignKeys ids o) := by
    refine (raises_assignKeys ids o).imp fun e raised execution => ?_
    rcases raised with unfetched | other
    · obtain ⟨f, rfl⟩ := Outcome.database_of_allRows unfetched
      obtain ⟨x, ⟨⟩⟩ := execution
    · exact other (.inl execution)
  have conveys := Executor.conveys_run (k.keeps_assignKeys (fun _ _ => rfl) ids)
    (k.keeps_assignKeys (fun _ _ => rfl) ids) raises d s
  have failed : Executor.failed? ((Site.send d >>= k.assignKeys ids).outcome s).1 =
      failure? (s.reply.outcome d) := by
    rw [Executor.fst_send_bind]
    cases s.reply.outcome d with
    | error f => rfl
    | ok o => exact failed?_assignKeys ids o _
  rw [failed] at conveys
  exact conveys.congr (outcome_run_of_bound bound)

/-- When all rows can be fetched, the guarded block has no part in what is done with them. -/
theorem outcome_run_of_whole (bound : bindRowSlots sql (ids.map s.records.at) = .ok parameters)
    {o : Outcome} (reply : s.reply.outcome (.one (k.statement sql) parameters) = .ok o)
    (whole : o.broken? = none) :
    (k.run sql ids).outcome s =
      (k.assignKeys ids o).outcome (s.sending (.one (k.statement sql) parameters)) := by
  rw [outcome_run_of_bound bound, Executor.outcome_run_of_result reply, Executor.outcome_guarded]
  exact Executor.conveyed_of_not_failed ((failed?_assignKeys ids o _).trans whole) _ _

end KeyRetrieval

namespace Executor

/-! ### Every call -/

/-- **Failures of the database layer are wrapped once and logged once.**  An execution with any
reading of its result, every method that is not queued, and every retrieval of generated keys whose
parameters can be rebuilt send exactly one thing: the text of the statement, to which a retrieval
adds what it wants returned.  They raise an execution error if and only if the execution fails, or
the reading of its result, be it that fetching breaks off, or that a count gets none or several rows
and a selection of one row several; the error carries the text and the failure, and it is logged
once.  Otherwise nothing is logged, and the outcome is what a method makes of the result, or what a
retrieval does with it, errors of a row mapper and of a conversion included, provided that the row
mapper raises no error of the database layer itself.  The selection of one row makes of a failure,
and of at most one row, what the selection of many makes of it; a row behind which fetching breaks
off has to be one that can be converted, since the selection of one never tries. -/
theorem failures_wrapped_once :
    (∀ (α : Type) (d : Dispatch) (consume : Outcome → Action Site α) (s : Site),
      (∀ o, Keeps Site.executor (consume o)) → (∀ o, Keeps Site.log (consume o)) →
      (∀ o, Raises (fun e => ¬ e.IsExecution) (consume o)) →
      Conveys d (failed? ((Site.send d >>= consume).outcome s).1) s (run d consume)) ∧
    (∀ (method : Method) (r : Rendered) (mapper? : Option RowMapper) (s : Site),
      (method.isQueued = true → s.executor.queue? = none) →
      (∀ f, mapper? = some f → ∀ row e, f row = .error e → ¬ e.IsDatabase) →
      let d := Dispatch.one r.sql r.parameters
      Conveys d (method.failure? mapper? (s.reply.outcome d)) s (perform method r mapper?) ∧
        ∀ o, s.reply.outcome d = .ok o → method.misread? mapper? o = none →
          ((perform method r mapper?).outcome s).1 = method.answer mapper? o) ∧
    (∀ (k : KeyRetrieval) (sql : String) (ids : List RecordId) (s : Site)
      (parameters : Parameters), bindRowSlots sql (ids.map s.records.at) = .ok parameters →
      let d := Dispatch.one (k.statement sql) parameters
      Conveys d (KeyRetrieval.failure? (s.reply.outcome d)) s (k.run sql ids) ∧
        ∀ o, s.reply.outcome d = .ok o → o.broken? = none → (k.run sql ids).outcome s =
          (k.assignKeys ids o).outcome { s with executor := s.executor.sending [d] }) ∧
    (∀ (r : Rendered) (mapper? : Option RowMapper) (s : Site),
      (∀ o, s.reply.outcome (.one r.sql r.parameters) = .ok o → o.rows.length ≤ 1) →
      (∀ o, s.reply.outcome (.one r.sql r.parameters) = .ok o → o.broken? ≠ none →
        ∀ row ∈ o.rows, ∃ v, rowValue mapper? (o.named row) = .ok v) →
      (∀ f, mapper? = some f → ∀ row e, f row = .error e → ¬ e.IsDatabase) →
      (selectOne r mapper?).outcome s =
        ((fun values => values.headD .null) <$> selectMany r mapper?).outcome s) ∧
    ∀ e, Assoc.get? "event" (executionFailed e) = some (.text "statement_failed") := by
  refine ⟨fun α d consume s idle silent raises => conveys_run idle silent raises d s,
    ?_, ?_, ?_, ?_⟩
  · intro method r mapper? s immediate own d
    exact ⟨conveys_perform immediate own r, fun o reply whole =>
      perform_eq_answer immediate own reply whole⟩
  · intro k sql ids s parameters bound d
    exact ⟨KeyRetrieval.conveys_run bound, fun o reply whole =>
      KeyRetrieval.outcome_run_of_whole bound reply whole⟩
  · intro r mapper? s few converts own
    exact outcome_selectOne few converts own
  · intro e
    rfl

/-- A site whose connection is about to give a reply. -/
def replying (reply : Reply) : Site := { executor := { connection := { replies := [reply] } } }

/-- A statement that selects names. -/
def selectNames : Rendered := ⟨"SELECT name FROM people", []⟩

/-- A row mapper that accepts no row. -/
def refuseRow : RowMapper := fun _ => .error (.raised ⟨"ValueError", "no such person"⟩)

/-- A retrieval of keys by position. -/
def keysInOrder : KeyRetrieval := { keyColumn := "id", keyProperty := "id" }

/-- A count that gets no row is wrapped and logged, and so are a selection that breaks off behind a
row and a retrieval whose execution fails.  A row mapper's own error is neither, although fetching
would have broken off behind the row.  One row is selected as if many were asked for. -/
theorem failures_wrapped_once_sample :
    let missing : DatabaseFailure := ⟨"NoResultFound", "No row was found when one was required"⟩
    let locked : DatabaseFailure := ⟨"OperationalError", "database is locked"⟩
    let uncounted : ExecutionError :=
      ⟨"Statement execution failed: No row was found when one was required",
        some "SELECT name FROM people", some missing⟩
    let unfetched : ExecutionError :=
      ⟨"Statement execution failed: database is locked", some "SELECT name FROM people",
        some locked⟩
    let unreturned : ExecutionError :=
      ⟨"Statement execution failed: database is locked", some "INSERT RETURNING id", some locked⟩
    let half := replying (.result ["name"] [[.text "Ada"]] none (some locked))
    let single := replying (.result ["name"] [[.text "Ada"]] none)
    let counted := (perform .count selectNames).outcome (replying (.result ["name"] [] none))
    let broken := (perform .selectMany selectNames).outcome half
    let mapped := (perform .selectMany selectNames (some refuseRow)).outcome half
    let retrieved := (keysInOrder.run "INSERT" []).outcome (replying (.failure locked))
    counted.1 = .error (.execution uncounted) ∧
      counted.2.log = [failureEvent "SELECT name FROM people" missing] ∧
      broken.1 = .error (.execution unfetched) ∧
      broken.2.log = [failureEvent "SELECT name FROM people" locked] ∧
      mapped.1 = .error (.raised ⟨"ValueError", "no such person"⟩) ∧ mapped.2.log = [] ∧
      retrieved.1 = .error (.execution unreturned) ∧
      retrieved.2.log = [failureEvent "INSERT RETURNING id" locked] ∧
      (selectOne selectNames none).outcome single =
        ((fun values => values.headD .null) <$> selectMany selectNames none).outcome single := by
  intro missing locked uncounted unfetched unreturned half single counted broken mapped retrieved
  obtain ⟨-, methods, retrievals, selections, -⟩ := failures_wrapped_once
  have unmapped (f : RowMapper) (none : .none = some f) (row : Row) (e : Error)
      (_ : f row = .error e) : ¬ e.IsDatabase := nomatch none
  have plain (f : RowMapper) (same : some refuseRow = some f) (row : Row) (e : Error)
      (fails : f row = .error e) : ¬ e.IsDatabase := by
    cases same
    cases fails
    rintro (⟨x, ⟨⟩⟩ | ⟨x, ⟨⟩⟩)
  have count := (methods .count selectNames none (replying (.result ["name"] [] none))
    (fun _ => rfl) unmapped).1
  have select := (methods .selectMany selectNames none half (fun _ => rfl) unmapped).1
  have refused := methods .selectMany selectNames (some refuseRow) half (fun _ => rfl) plain
  have retrieve := (retrievals keysInOrder "INSERT" [] (replying (.failure locked)) [] rfl).1
  refine ⟨(count.raised _).mpr ⟨missing, rfl, rfl, rfl, rfl⟩, count.logged,
    (select.raised _).mpr ⟨locked, rfl, rfl, rfl, rfl⟩, select.logged, refused.2 _ rfl rfl,
    refused.1.logged, (retrieve.raised _).mpr ⟨locked, rfl, rfl, rfl, rfl⟩, retrieve.logged, ?_⟩
  refine selections selectNames none single (fun o reply => ?_) (fun o reply => ?_) unmapped
  · cases reply
    exact Nat.le_refl 1
  · cases reply
    exact fun broken => absurd rfl broken

end Executor

end BoundSql
