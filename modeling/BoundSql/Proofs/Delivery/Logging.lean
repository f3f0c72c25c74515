import BoundSql.Proofs.Delivery.Watching
import BoundSql.Proofs.GeneratedKeys

/-!
# What the logging of statements makes no difference to

Two worlds may differ in their logs and in whether statements are to be logged, and in nothing else
(`World.SameButLogging`).  An action is blind to logging if it does not tell such worlds apart.  All
steps of a facade function are, so the whole of it is if its completer and its mapper are; and the
calls of the builders and the methods of the executors, of which these are made, are blind.

Blindness is a relation between two runs of one action: from worlds that are the same but for
logging it comes to the same result, and to worlds that are the same but for logging.  It composes,
so it is enough to show it of single steps.  There are two that need thought.  Announcing a
statement looks at the very setting in question, but only to decide whether to log.  And settings
that have not been read yet are read on the way; so the relation has to be about the settings that
would be read as well as about those that are remembered.

A completer or a mapper of the caller's own can look at the log and behave accordingly.  This is why
their blindness is a hypothesis, and that it is needed is shown with the main result on facade
functions.
-/

namespace BoundSql

open BoundSql.Action
open Mapper (Event)

variable {τ α : Type}

/-- The settings without the one for logging statements.  Settings that are equal after this differ
in it alone. -/
def Settings.unlogged (s : Settings) : Settings := { s with logStatements := false }

/-- The worlds are the same but for the log and the setting that statements be logged, be it
remembered or still to be read. -/
structure World.SameButLogging (w v : World τ) : Prop where
  bench : w.bench = v.bench
  records : w.records = v.records
  executors : w.executors = v.executors
  caller : w.caller = v.caller
  remembered : w.settings?.map Settings.unlogged = v.settings?.map Settings.unlogged
  readable : w.readSettings.map Settings.unlogged = v.readSettings.map Settings.unlogged

/-- The action has the same result with statement logging on and off, and what it leaves behind is
the same but for the log. -/
def Action.Blind (a : Action (World τ) α) : Prop := Respects World.SameButLogging a

namespace World.SameButLogging

variable {w v : World τ}

/-- The settings that count are the same but for logging, whether they are remembered or still to be
read. -/
theorem settings (h : SameButLogging w v) :
    w.settings.map Settings.unlogged = v.settings.map Settings.unlogged := by
  have remembered := h.remembered
  rw [World.settings, World.settings]
  cases hw : w.settings? with
  | none =>
      rw [hw] at remembered
      rw [Option.map_eq_none_iff.mp remembered.symm]
      exact h.readable
  | some s =>
      rw [hw] at remembered
      obtain ⟨s', hv, same⟩ := Option.map_eq_some_iff.mp remembered.symm
      rw [hv]
      exact congrArg Except.ok same.symm

/-- The settings can be read in both worlds or in neither, and logging is all they differ in. -/
theorem settings_cases (h : SameButLogging w v) :
    (∃ e, w.settings = .error e ∧ v.settings = .error e) ∨
      ∃ s t, w.settings = .ok s ∧ v.settings = .ok t ∧ s.unlogged = t.unlogged := by
  have same := h.settings
  cases hw : w.settings with
  | error e =>
      rw [hw] at same
      cases hv : v.settings with
      | error e' =>
          rw [hv] at same
          exact .inl ⟨e, rfl, congrArg Except.error (Except.error.inj same).symm⟩
      | ok t => rw [hv] at same; cases same
  | ok s =>
      rw [hw] at same
      cases hv : v.settings with
      | error e => rw [hv] at same; cases same
      | ok t =>
          rw [hv] at same
          exact .inr ⟨s, t, rfl, rfl, Except.ok.inj same⟩

/-- The dialect does not depend on whether statements are logged. -/
theorem dialect_eq {s t : Settings} (h : s.unlogged = t.unlogged) : s.dialect = t.dialect :=
  show s.unlogged.dialect = _ by rw [h]; rfl

/-- Asking for the settings keeps the worlds the same but for logging. -/
theorem remembering (h : SameButLogging w v) : SameButLogging w.remembering v.remembering where
  bench := h.bench
  records := h.records
  executors := h.executors
  caller := h.caller
  remembered := by
    show w.settings.toOption.map _ = v.settings.toOption.map _
    rcases h.settings_cases with ⟨e, hw, hv⟩ | ⟨s, t, hw, hv, same⟩
    · rw [hw, hv]
    · rw [hw, hv]
      exact congrArg some same
  readable := h.readable

theorem withBench (h : SameButLogging w v) (bench : Workbench) :
    SameButLogging { w with bench } { v with bench } :=
  ⟨rfl, h.records, h.executors, h.caller, h.remembered, h.readable⟩

theorem withLogs (h : SameButLogging w v) (log log' : List LogEvent) :
    SameButLogging { w with log } { v with log := log' } :=
  ⟨h.bench, h.records, h.executors, h.caller, h.remembered, h.readable⟩

/-- What a draft renders to is the same with logging and without. -/
theorem rendered (h : SameButLogging w v) (id : DraftId) :
    (w.rendered id).1 = (v.rendered id).1 ∧
      SameButLogging (w.rendered id).2 (v.rendered id).2 := by
  rw [World.rendered, World.rendered, ← h.bench, ← h.records]
  cases Workbench.settled? (w.bench.draft id) with
  | some result => exact ⟨rfl, h⟩
  | none =>
      refine ⟨?_, h.remembering⟩
      rcases h.settings_cases with ⟨e, hw, hv⟩ | ⟨s, t, hw, hv, same⟩
      · rw [hw, hv]
      · rw [hw, hv]
        show w.bench.render w.records id s.dialect = w.bench.render w.records id t.dialect
        rw [dialect_eq same]

end World.SameButLogging

/-! ### The steps of a facade function -/

namespace World

theorem blind_add (d : Draft) : Blind (add d : Action (World τ) DraftId) := by
  refine (Respects.look fun w v h => by rw [h.bench]).bind fun added => ?_
  exact (Respects.update fun w v h => h.withBench added.2).bind fun _ => .pure added.1

theorem blind_render (id : DraftId) :
    Blind (render id .default : Action (World τ) Workbench.Product) := by
  intro w v h
  rw [outcome_render_default, outcome_render_default]
  exact h.rendered id

theorem blind_statements (b : Batch RecordId) :
    Blind (statements b : Action (World τ) (List (Statement RecordId))) :=
  (Respects.look fun _ _ h => h.records).bind fun _ => .ofExcept _

end World

namespace Mapper

/-- Announcing looks at the setting and writes to the log, and neither is seen. -/
theorem blind_announce (kind : StatementKind) (product : Workbench.Product) :
    Blind (announce kind product : Action (World τ) Unit) := by
  intro w v h
  rw [outcome_announce, outcome_announce]
  refine ⟨?_, h.remembering.withLogs _ _⟩
  rcases h.settings_cases with ⟨e, hw, hv⟩ | ⟨s, t, hw, hv, -⟩
  · rw [hw, hv]
  · rw [hw, hv]
    rfl

/-- Preparing is blind if the completer is. -/
theorem blind_prepare (kind : StatementKind) (draft : Draft) {complete : Completer τ}
    (h : ∀ id, Blind (complete id)) : Blind (prepare kind draft complete) := by
  refine (World.blind_add draft).bind fun id => (h id).bind fun _ => ?_
  refine (World.blind_render id).bind fun product => ?_
  exact (blind_announce kind product).bind fun _ => .pure product

/-- **Handing a statement over is blind to logging** if completing and taking it are.  Both are the
caller's, and nothing is known of them. -/
theorem blind_deliver (kind : StatementKind) (draft : Draft) {complete : Completer τ}
    {mapper : Mapper τ α} (completes : ∀ id, Blind (complete id)) (maps : ∀ s, Blind (mapper s)) :
    Blind (deliver kind draft complete mapper) := by
  refine (blind_prepare kind draft completes).bind fun product => ?_
  cases product with
  | statement s => exact maps s
  | batch b => exact .throw _

/-- So is handing over one statement for each record. -/
theorem blind_insertBatch (records : List RecordId) (table : Table) {complete : Completer τ}
    {mapper : Mapper τ α} (completes : ∀ id, Blind (complete id)) (maps : ∀ s, Blind (mapper s)) :
    Blind (insertBatch mapper records table complete) := by
  refine (blind_prepare _ _ completes).bind fun product => ?_
  cases product with
  | statement s => exact .throw _
  | batch b => exact (World.blind_statements b).bind fun statements => .mapM maps statements

end Mapper

/-- Watching is blind where what is watched is. -/
theorem Action.Blind.watched {a : Action (World τ) α} (h : Blind a) (e : Event) :
    Blind (a.watched e) := by
  refine Respects.bind (.update fun w v same => ?_) fun _ w v same => ?_
  · refine ⟨same.bench, same.records, same.executors, ?_, same.remembered, same.readable⟩
    show (w.caller.1, w.caller.2 ++ [e]) = (v.caller.1, v.caller.2 ++ [e])
    rw [same.caller]
  · obtain ⟨result, after⟩ := h w.unwatched v.unwatched ⟨same.bench, same.records,
      same.executors, congrArg Prod.fst same.caller, same.remembered, same.readable⟩
    refine ⟨result, after.bench, after.records, after.executors, ?_, after.remembered,
      after.readable⟩
    exact Prod.ext after.caller (congrArg (·.2) same.caller)

/-! ### What completers and mappers are made of -/

namespace World

/-- A call on a draft is made on the workbench, where nothing is logged. -/
theorem blind_call? (r : Receiver) (c : Workbench.Call) :
    Blind (call? r c : Action (World τ) (Option Receiver)) := by
  refine (Respects.look fun w v h => by rw [h.bench]).bind fun called => ?_
  cases called with
  | none => exact .pure none
  | some result =>
      refine (Respects.ofExcept result).bind fun after => ?_
      exact (Respects.update fun w v h => h.withBench after.2).bind fun _ => .pure (some after.1)

end World

/-- What an executor can touch is the same but for the log. -/
def Site.SameButLog (s t : Site) : Prop := s.executor = t.executor ∧ s.records = t.records

/-- What an executor does is blind to logging if it makes nothing of the log. -/
theorem World.blind_atExecutor (executor : Nat) {a : Action Site α}
    (h : Respects Site.SameButLog a) : Blind (atExecutor executor a : Action (World τ) α) := by
  intro w v same
  have here : (w.site executor).executor = (v.site executor).executor := by
    show w.executor executor = v.executor executor
    rw [World.executor, World.executor, same.executors]
  obtain ⟨result, after, records⟩ := h (w.site executor) (v.site executor) ⟨here, same.records⟩
  refine ⟨result, same.bench, records, ?_, same.caller, same.remembered, same.readable⟩
  show w.executors.set executor _ = v.executors.set executor _
  rw [same.executors, after]

namespace Executor

theorem respects_send (d : Dispatch) : Respects Site.SameButLog (Site.send d) := by
  rintro s t ⟨executor, records⟩
  refine ⟨?_, ?_, records⟩
  · show (s.executor.connection.send d).1.mapError Error.database =
      (t.executor.connection.send d).1.mapError Error.database
    rw [executor]
  · show { s.executor with connection := (s.executor.connection.send d).2 } =
      { t.executor with connection := (t.executor.connection.send d).2 }
    rw [executor]

/-- The guarded block makes nothing of the log but to add to it.  What it adds is logged in both
worlds, as it does not depend on the setting. -/
theorem respects_guarded {a : Action Site α} (h : Respects Site.SameButLog a) (sql : String) :
    Respects Site.SameButLog (guarded sql a) := by
  refine h.attempt.bind fun outcome => ?_
  cases outcome with
  | ok x => exact .pure x
  | error e =>
      cases e with
      | database f => exact (Respects.update fun _ _ same => same).bind fun _ => .throw _
      | _ => exact .throw _

/-- An execution does not look at the log, if what consumes its result does not. -/
theorem respects_run {consume : Outcome → Action Site α}
    (h : ∀ o, Respects Site.SameButLog (consume o)) (d : Dispatch) :
    Respects Site.SameButLog (run d consume) :=
  respects_guarded ((respects_send d).bind h) d.sql

theorem respects_runOne (r : Rendered) (read : Outcome → Except Error α) :
    Respects Site.SameButLog (runOne r read) :=
  respects_run (fun _ => .ofExcept _) _

theorem respects_change (r : Rendered) : Respects Site.SameButLog (change r) :=
  respects_runOne r _

/-- There is one case for each method; reading a result has no effects, and the others only send and
log. -/
theorem respects_perform (method : Method) (r : Rendered) (mapper? : Option RowMapper) :
    Respects Site.SameButLog (perform method r mapper?) := by
  -- whether there is a queue is read from the executor, and the two sites have the same one
  have queue : Respects Site.SameButLog (Action.look (·.executor.queue?)) :=
    .look fun s t same => by rw [same.1]
  cases method with
  | count => exact ((respects_runOne r _).bind fun v => .ofExcept _).map Value.int
  | selectMany => exact (respects_runOne r _).map Value.list
  | selectOne =>
      refine (respects_runOne r _).bind fun row? => ?_
      cases row? with
      | none => exact .pure _
      | some row => exact .ofExcept _
  | execute | insertMultiple | insertSelect =>
      exact queue.bind fun queue? => (respects_change r).map Value.int
  | update | delete | insert | generalInsert =>
      refine queue.bind fun queue? => ?_
      cases queue? with
      | none => exact (respects_change r).map Value.int
      | some queue =>
          refine Respects.map ((Respects.update ?_).bind fun _ => .pure _) Value.int
          rintro s t ⟨executor, records⟩
          exact ⟨by rw [executor], records⟩

/-- **Every method of an executor is blind to logging.** -/
theorem blind_perform (executor : Nat) (method : Method) (r : Rendered)
    (mapper? : Option RowMapper) :
    Blind (World.atExecutor executor (perform method r mapper?) : Action (World τ) Value) :=
  World.blind_atExecutor executor (respects_perform method r mapper?)

end Executor

namespace KeyRetrieval

variable (k : KeyRetrieval)

theorem respects_record (id : RecordId) :
    Respects Site.SameButLog (Action.look fun s => s.records.at id) :=
  .look fun s t same => by rw [same.2]

theorem respects_assign (id : RecordId) (key : Value) :
    Respects Site.SameButLog (k.assign id key) := by
  refine (respects_record id).bind fun record => (Respects.ofExcept _).bind fun written => ?_
  refine .update ?_
  rintro s t ⟨executor, records⟩
  exact ⟨executor, by rw [records]⟩

theorem respects_assignMatching (property : String) (keys : Assoc Scalar Value) (id : RecordId) :
    Respects Site.SameButLog (k.assignMatching property keys id) := by
  refine (respects_record id).bind fun record => (Respects.ofExcept _).bind fun v => ?_
  refine (Respects.ofExcept _).bind fun s => ?_
  cases Assoc.get? s keys with
  | some key => exact k.respects_assign id key
  | none => exact .pure ()

/-- Writing keys into records has nothing to do with the log. -/
theorem respects_assignKeys (ids : List RecordId) (o : Outcome) :
    Respects Site.SameButLog (k.assignKeys ids o) := by
  unfold assignKeys
  cases k.matchColumn? with
  | none =>
      refine (Respects.ofExcept _).bind fun keys => ?_
      exact (Respects.forM (fun _ => k.respects_assign _ _) _).bind fun _ => .pure _
  | some column =>
      refine (Respects.ofExcept _).bind fun rows => (Respects.ofExcept _).bind fun keys => ?_
      exact (Respects.forM (fun id => k.respects_assignMatching _ keys id) ids).bind
        fun _ => .pure _

theorem respects_run (sql : String) (ids : List RecordId) :
    Respects Site.SameButLog (k.run sql ids) := by
  have records : Respects Site.SameButLog (Action.look fun s => ids.map s.records.at) :=
    .look fun s t same => by rw [same.2]
  refine records.bind fun rows => (Respects.ofExcept _).bind fun parameters => ?_
  exact Executor.respects_run (k.respects_assignKeys ids) _

/-- **Retrieving generated keys is blind to logging.** -/
theorem blind_mapper (executor : Nat) (sql : String) (ids : List RecordId) :
    Blind (k.mapper executor sql ids : Action (World τ) Int) :=
  World.blind_atExecutor executor (k.respects_run sql ids)

end KeyRetrieval

end BoundSql
