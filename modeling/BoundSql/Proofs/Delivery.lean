import BoundSql.Proofs.Delivery.Logging

/-!
# What a facade function hands over

Every facade function starts a draft, calls the completer on it, renders it and hands the statement
to the mapper; the batch insert hands over one statement for each record.  `Mapper.Course` and
`Mapper.BatchCourse` list the courses that this can take, each with the calls that are made in it
and with its outcome.  Completers and mappers are arbitrary actions, which may fail at any point and
may change anything in the world.

## How calls are observed

How often the mapper has been called, and on what, cannot be seen in an outcome: a mapper may do
nothing at all.  So the same facade function is run on a watched completer and a watched mapper,
which note each call before they act, beside the program's own state (`Proofs/Delivery/Watching`).
A course gives the calls, and `Mapper.Takes` says that they are those which are noted; as nothing
else depends on the notes, the unwatched function makes the same calls.

## What the courses say

The mapper is called on what the completed draft has been rendered to, so a course relates the
worlds in between: the one that the completer has left, the one after rendering, and the one in
which the statement has been announced.  Courses in which the mapper is not called end with an
error.  Two of these are there because completers are arbitrary.  One that puts another draft in the
place of the one it was given makes the function fail; a completer that makes calls cannot do this,
which is the fourth part of `Mapper.delivery_protocol`.

Preparing a statement is common to all functions, and `Mapper.Continues` sums up how they go on from
there, so that each of the two kinds of course is shown once for everything that can follow.

* `Mapper.delivery_protocol` : every facade function takes one of these courses, with statement
  logging on and off alike.
* `Mapper.delivery_limits` : what cannot be promised.
-/

namespace BoundSql

open BoundSql.Action

variable {τ α : Type}

/-- The place where the next draft is put. -/
def World.vacant (w : World τ) : DraftId := w.bench.drafts.length

/-- The world with a further draft. -/
def World.starting (w : World τ) (draft : Draft) : World τ :=
  { w with bench := (w.bench.add draft).2 }

namespace Mapper

/-! ### Completing and rendering -/

section Preparing

variable (draft : Draft) (complete : Completer τ) (w : World τ)

/-- The completer fails, or the rendering of the draft that it has completed.  The world is the one
that the failure leaves. -/
inductive Fails : Error → World τ → Prop where
  | completing {e : Error} {w' : World τ}
      (completed : (complete w.vacant).outcome (w.starting draft) = (.error e, w')) : Fails e w'
  | rendering {e : Error} {w₁ w' : World τ}
      (completed : (complete w.vacant).outcome (w.starting draft) = (.ok (), w₁))
      (rendered : (World.render w.vacant .default).outcome w₁ = (.error e, w')) : Fails e w'

/-- The draft is completed, which leads to the first world, and then rendered, which leads to the
second. -/
structure Renders (product : Workbench.Product) (w₁ w₂ : World τ) : Prop where
  completed : (complete w.vacant).outcome (w.starting draft) = (.ok (), w₁)
  rendered : (World.render w.vacant .default).outcome w₁ = (.ok product, w₂)

end Preparing

section Courses

variable {draft : Draft} {complete : Completer τ} {w w₁ w₂ : World τ}
  {product : Workbench.Product}

/-- There is no third possibility: actions always come to an outcome. -/
theorem fails_or_renders (draft : Draft) (complete : Completer τ) (w : World τ) :
    (∃ e w', Fails draft complete w e w') ∨
      ∃ product w₁ w₂, Renders draft complete w product w₁ w₂ := by
  cases completed : (complete w.vacant).outcome (w.starting draft) with
  | mk result w₁ =>
      cases result with
      | error e => exact .inl ⟨e, w₁, .completing completed⟩
      | ok u =>
          cases rendered : (World.render w.vacant .default).outcome w₁ with
          | mk result w₂ =>
              cases result with
              | error e => exact .inl ⟨e, w₂, .rendering completed rendered⟩
              | ok product => exact .inr ⟨product, w₁, w₂, completed, rendered⟩

theorem outcome_prepare (kind : StatementKind) (draft : Draft) (complete : Completer τ)
    (w : World τ) :
    (prepare kind draft complete).outcome w =
      (complete w.vacant >>= fun _ => World.render w.vacant .default >>= fun product =>
        announce kind product >>= fun _ => pure product).outcome (w.starting draft) := rfl

/-- Where completing or rendering fails, preparing fails with the same error, and nothing has been
announced. -/
theorem Fails.outcome_prepare {e : Error} {w' : World τ} (h : Fails draft complete w e w')
    (kind : StatementKind) :
    (prepare kind draft complete).outcome w = (.error e, w') := by
  rw [Mapper.outcome_prepare]
  cases h with
  | completing completed => rw [outcome_bind, completed]
  | rendering completed rendered =>
      rw [outcome_bind_of_ok completed, outcome_bind, rendered]

/-- What has been rendered is announced, and that is all that remains.  It fails only if the
settings cannot be read. -/
theorem Renders.outcome_prepare (h : Renders draft complete w product w₁ w₂)
    (kind : StatementKind) :
    (prepare kind draft complete).outcome w =
      (w₂.settings.map fun _ => product, w₂.announcing kind product) := by
  rw [Mapper.outcome_prepare, outcome_bind_of_ok h.completed, outcome_bind_of_ok h.rendered,
    outcome_bind, outcome_announce]
  cases w₂.settings <;> rfl

theorem Renders.rendered_eq (h : Renders draft complete w product w₁ w₂) :
    w₁.rendered w.vacant = (.ok product, w₂) := by
  rw [← World.outcome_render_default, h.rendered]

/-- A draft that has kept its subject renders to what it was started for, with its records.  This is
what connects the statement that the mapper gets with the records that the caller has given. -/
theorem Renders.kept (h : Renders draft complete w product w₁ w₂)
    (same : (w₁.bench.draft w.vacant).subject = draft.subject) :
    product.records = draft.records ∧ product.isBatch = draft.isBatch := by
  obtain ⟨records, isBatch⟩ := World.records_of_rendered h.rendered_eq
  exact ⟨records.trans (congrArg Prod.snd same), isBatch.trans (Draft.isBatch_of_subject same)⟩

/-- A completer that leaves the drafts in their places leaves the one that it completes. -/
theorem Renders.subject_eq (h : Renders draft complete w product w₁ w₂)
    (keeps : ∀ id, KeepsDrafts (complete id)) :
    (w₁.bench.draft w.vacant).subject = draft.subject := by
  have started : (w.starting draft).bench.subject? w.vacant = some draft.subject := by
    show (w.bench.drafts ++ [draft])[w.bench.drafts.length]?.map Draft.subject = _
    rw [List.getElem?_concat_length]
    rfl
  have kept := keeps w.vacant (w.starting draft) w.vacant _ started
  rw [h.completed] at kept
  exact Workbench.subject_eq kept

/-! ### Going on -/

/-- How a facade function goes on when a statement has been prepared: it stops where preparing has
failed, and otherwise it does what is next in the world in which the product has been announced.
The second action is the first with its completer watched. -/
inductive Continues (kind : StatementKind) (draft : Draft) (complete : Completer τ) (w : World τ)
    (a : Action (World τ) α) (watched : Action (World (τ × List Event)) α)
    (next : Workbench.Product → Action (World τ) α)
    (watchedNext : Workbench.Product → Action (World (τ × List Event)) α) : Prop where
  | failed {e : Error} {w' : World τ} (fails : Fails draft complete w e w')
      (outcome : a.outcome w = (.error e, w'))
      (watches : Watches a watched w [.completed w.vacant])
  | unannounced {w₁ w₂ : World τ} {e : Error}
      (renders : Renders draft complete w (.batch ⟨"", [], []⟩) w₁ w₂)
      (unread : w₂.settings = .error e) (outcome : a.outcome w = (.error e, w₂))
      (watches : Watches a watched w [.completed w.vacant])
  | announced {product : Workbench.Product} {w₁ w₂ : World τ}
      (renders : Renders draft complete w product w₁ w₂)
      (outcome : a.outcome w = (next product).outcome (w₂.announcing kind product))
      (watches : ∀ {events : List Event},
        Watches (next product) (watchedNext product) (w₂.announcing kind product) events →
          Watches a watched w (.completed w.vacant :: events))

/-- Whatever is next, a function that begins with preparing goes on in one of these ways.  Where
nothing could be announced, an empty batch has been rendered, since everything else needs the
settings for its dialect. -/
theorem prepare_continues (kind : StatementKind) (draft : Draft) (complete : Completer τ)
    (w : World τ) (next : Workbench.Product → Action (World τ) α)
    (watchedNext : Workbench.Product → Action (World (τ × List Event)) α) :
    Continues kind draft complete w (prepare kind draft complete >>= next)
      (prepare kind draft complete.watched >>= watchedNext) next watchedNext := by
  have prepared := watches_prepare kind draft complete w
  rcases fails_or_renders draft complete w with ⟨e, w', fails⟩ | ⟨product, w₁, w₂, renders⟩
  · have outcome := fails.outcome_prepare kind
    exact .failed fails (by rw [outcome_bind, outcome]) (prepared.bind_error outcome)
  · have outcome := renders.outcome_prepare kind
    cases read : w₂.settings with
    | ok settings =>
        rw [read] at outcome
        exact .announced renders (outcome_bind_of_ok outcome) (prepared.bind_ok outcome)
    | error e =>
        -- the settings were not needed for the rendering
        rcases World.settings_of_rendered renders.rendered_eq with ⟨settings, read'⟩ | rfl
        · cases read.symm.trans read'
        · rw [read, World.announcing_of_error read] at outcome
          exact .unannounced renders read (by rw [outcome_bind, outcome]; rfl)
            (prepared.bind_error outcome)

/-- The action takes a course, and the calls of the course are those that are seen when it is
watched.  The course determines the outcome as well as the calls, so both are about the same run. -/
def Takes (course : List Event → Except Error α × World τ → Prop) (a : Action (World τ) α)
    (watched : Action (World (τ × List Event)) α) (w : World τ) : Prop :=
  ∃ events, course events (a.outcome w) ∧ Watches a watched w events

/-! ### One statement -/

/-- The course of a facade function that hands over one statement: the calls that are made, and
the outcome.  The calls are those of the completer and of the mapper. -/
inductive Course (kind : StatementKind) (draft : Draft) (complete : Completer τ)
    (mapper : Mapper τ α) (call : Statement RecordId → Event) (w : World τ) :
    List Event → Except Error α × World τ → Prop where
  /-- The completer or the rendering fails.  Its error is raised, and the mapper is not called. -/
  | failed {e : Error} {w' : World τ} (fails : Fails draft complete w e w') :
      Course kind draft complete mapper call w [.completed w.vacant] (.error e, w')
  /-- The mapper is called once, on what the completed draft renders to, and its outcome is the
  outcome.  The records of the statement are those of the draft that was started, if the completer
  has left that draft in its place, as calls do. -/
  | handed {s : Statement RecordId} {w₁ w₂ : World τ}
      (renders : Renders draft complete w (.statement s) w₁ w₂)
      (kept : (w₁.bench.draft w.vacant).subject = draft.subject → s.records = draft.records) :
      Course kind draft complete mapper call w [.completed w.vacant, call s]
        ((mapper s).outcome (w₂.announcing kind (.statement s)))
  /-- The completer has put another draft in the place of the one that was started, and that is a
  batch. -/
  | exchanged {b : Batch RecordId} {w₁ w₂ w' : World τ} {e : Error}
      (renders : Renders draft complete w (.batch b) w₁ w₂)
      (changed : (w₁.bench.draft w.vacant).subject ≠ draft.subject) :
      Course kind draft complete mapper call w [.completed w.vacant] (.error e, w')

/-- What becomes of one statement that has been prepared. -/
def handOne (mapper : Mapper τ α) : Workbench.Product → Action (World τ) α
  | .statement s => mapper s
  | .batch _ => throw .unexpectedDraft

/-- The functions that hand over one statement are alike in what follows the preparing. -/
theorem deliver_eq_prepare (kind : StatementKind) (draft : Draft) (complete : Completer τ)
    (mapper : Mapper τ α) :
    deliver kind draft complete mapper = prepare kind draft complete >>= handOne mapper := by
  refine congrArg (prepare kind draft complete >>= ·) (funext fun product => ?_)
  cases product <;> rfl

/-- Handing over one statement takes a course, and its calls are seen.  The draft that is started
must not be that of a batch, and none of these functions starts one. -/
theorem takes_deliver (kind : StatementKind) {draft : Draft} (single : draft.isBatch = false)
    (complete : Completer τ) (mapper : Mapper τ α) (call : Statement RecordId → Event)
    (w : World τ) :
    Takes (Course kind draft complete mapper call w) (deliver kind draft complete mapper)
      (deliver kind draft complete.watched fun s => Action.watched (call s) (mapper s)) w := by
  rw [deliver_eq_prepare, deliver_eq_prepare]
  -- A draft that is no batch renders a batch only if its completer has put another draft in its
  -- place.
  have changed : ∀ {b w₁ w₂}, Renders draft complete w (.batch b) w₁ w₂ →
      (w₁.bench.draft w.vacant).subject ≠ draft.subject := fun renders same =>
    Bool.noConfusion ((renders.kept same).2.trans single)
  cases prepare_continues kind draft complete w (handOne mapper)
      (handOne fun s => Action.watched (call s) (mapper s)) with
  | failed fails outcome watches =>
      refine ⟨_, ?_, watches⟩
      rw [outcome]
      exact .failed fails
  | unannounced renders unread outcome watches =>
      refine ⟨_, ?_, watches⟩
      rw [outcome]
      exact .exchanged renders (changed renders)
  | @announced product w₁ w₂ renders outcome watches =>
      cases product with
      | statement s =>
          refine ⟨_, ?_, watches (.watched (call s) (mapper s) _)⟩
          rw [outcome]
          exact .handed renders fun same => (renders.kept same).1
      | batch b =>
          refine ⟨_, ?_, watches (.throw .unexpectedDraft _)⟩
          rw [outcome]
          exact .exchanged renders (changed renders)

/-! ### A statement for each record -/

/-- The calls of a mapper on a list of statements, and the outcome: all statements up to the first
on which it fails. -/
inductive Rounds (mapper : Mapper τ α) (statements : List (Statement RecordId)) (w : World τ) :
    List (Statement RecordId) → Except Error (List α) × World τ → Prop where
  /-- The mapper succeeds on all statements, and the results are listed. -/
  | finished {results : List α} {w' : World τ}
      (all : (statements.mapM mapper).outcome w = (.ok results, w'))
      (each : results.length = statements.length) :
      Rounds mapper statements w statements (.ok results, w')
  /-- The mapper fails on a statement, after it has succeeded on those before. -/
  | raised {done : List (Statement RecordId)} {s : Statement RecordId}
      {rest : List (Statement RecordId)} {results : List α} {between w' : World τ} {e : Error}
      (split : statements = done ++ s :: rest)
      (before : (done.mapM mapper).outcome w = (.ok results, between))
      (raises : (mapper s).outcome between = (.error e, w')) :
      Rounds mapper statements w (done ++ [s]) (.error e, w')

/-- Working off a list succeeds if its first member does and then the others. -/
theorem outcome_mapM_cons_of_ok {mapper : Mapper τ α} {s : Statement RecordId}
    {rest : List (Statement RecordId)} {w w₁ w₂ : World τ} {x : α} {xs : List α}
    (first : (mapper s).outcome w = (.ok x, w₁))
    (others : (rest.mapM mapper).outcome w₁ = (.ok xs, w₂)) :
    ((s :: rest).mapM mapper).outcome w = (.ok (x :: xs), w₂) := by
  rw [List.mapM_cons, outcome_bind_of_ok first, outcome_bind_of_ok others, outcome_pure]

/-- A round on a first statement comes before the rounds on the others.  The results are listed in
the order of the statements. -/
theorem Rounds.cons {mapper : Mapper τ α} {s : Statement RecordId}
    {rest called : List (Statement RecordId)} {w w₁ : World τ} {x : α}
    (first : (mapper s).outcome w = (.ok x, w₁))
    {outcome : Except Error (List α) × World τ}
    (h : Rounds mapper rest w₁ called outcome) :
    Rounds mapper (s :: rest) w (s :: called) ((x :: ·) <$> outcome.1, outcome.2) := by
  cases h with
  | finished all each =>
      exact .finished (outcome_mapM_cons_of_ok first all) (congrArg (· + 1) each)
  | @raised done s' rest results between w' e split before raises =>
      rw [← List.cons_append]
      exact .raised (congrArg (s :: ·) split) (outcome_mapM_cons_of_ok first before) raises

/-- Working off a list makes its rounds, and the calls of these are seen.  The induction is over the
list, in an arbitrary world, because each round begins in the world that the one before has left. -/
theorem rounds_mapM (mapper : Mapper τ α) (statements : List (Statement RecordId)) (w : World τ) :
    ∃ called,
      Rounds mapper statements w called ((statements.mapM mapper).outcome w) ∧
      Watches (statements.mapM mapper) (statements.mapM mapper.watched) w
        (called.map Event.handed) := by
  induction statements generalizing w with
  | nil => exact ⟨[], .finished rfl rfl, .pure [] w⟩
  | cons s rest ih =>
      rw [List.mapM_cons, List.mapM_cons]
      have first : Watches (mapper s) (mapper.watched s) w [.handed s] := .watched _ _ w
      cases h : (mapper s).outcome w with
      | mk result w₁ =>
          cases result with
          | error e =>
              refine ⟨[s], ?_, first.bind_error h⟩
              rw [outcome_bind, h]
              exact .raised (List.nil_append (s :: rest)).symm rfl h
          | ok x =>
              obtain ⟨called, rounds, watches⟩ := ih w₁
              refine ⟨s :: called, ?_, first.bind_ok h (watches.bind_silent fun xs w' =>
                .pure (x :: xs) w')⟩
              rw [outcome_bind_of_ok h, ← map_eq_pure_bind, outcome_map]
              exact rounds.cons h

/-- The draft of a batch insert. -/
def batchDraft (records : List RecordId) (table : Table) : Draft :=
  .insertBatch { target := { table? := some table }, records }

/-- What becomes of a batch that has been prepared. -/
def handEach (mapper : Mapper τ α) : Workbench.Product → Action (World τ) (List α)
  | .batch b => World.statements b >>= fun statements => statements.mapM mapper
  | .statement _ => throw .unexpectedDraft

/-- A batch insert differs from the other functions in what it does with the product only. -/
theorem insertBatch_eq (mapper : Mapper τ α) (records : List RecordId) (table : Table)
    (complete : Completer τ) :
    insertBatch mapper records table complete =
      prepare .insertBatch (batchDraft records table) complete >>= handEach mapper := by
  refine congrArg (prepare .insertBatch (batchDraft records table) complete >>= ·) ?_
  funext product
  cases product <;> rfl

/-- The course of a batch insert: the calls that are made, and the outcome. -/
inductive BatchCourse (records : List RecordId) (table : Table) (complete : Completer τ)
    (mapper : Mapper τ α) (w : World τ) : List Event → Except Error (List α) × World τ → Prop where
  /-- The completer or the rendering fails.  Its error is raised, and the mapper is not called. -/
  | failed {e : Error} {w' : World τ} (fails : Fails (batchDraft records table) complete w e w') :
      BatchCourse records table complete mapper w [.completed w.vacant] (.error e, w')
  /-- A batch without records has been rendered, for which the settings are not needed, and they
  cannot be read when they are asked whether it is to be logged. -/
  | unannounced {b : Batch RecordId} {w₁ w₂ : World τ} {e : Error}
      (renders : Renders (batchDraft records table) complete w (.batch b) w₁ w₂)
      (empty : b.records = []) (unread : w₂.settings = .error e) :
      BatchCourse records table complete mapper w [.completed w.vacant] (.error e, w₂)
  /-- One of the statements cannot be made.  The mapper is not called on any of them. -/
  | unexpanded {b : Batch RecordId} {w₁ w₂ : World τ} {e : Error}
      (renders : Renders (batchDraft records table) complete w (.batch b) w₁ w₂)
      (expanded : w₁.expanded b = .error e) :
      BatchCourse records table complete mapper w [.completed w.vacant]
        (.error e, w₂.announcing .insertBatch (.batch b))
  /-- The mapper is called on the statements, which are one for each record.  No record lacks a
  property that is mapped.  The records are those of the draft that was started, if the completer
  has left that draft in its place. -/
  | handed {b : Batch RecordId} {w₁ w₂ : World τ} {statements called : List (Statement RecordId)}
      {outcome : Except Error (List α) × World τ}
      (renders : Renders (batchDraft records table) complete w (.batch b) w₁ w₂)
      (kept : (w₁.bench.draft w.vacant).subject = (batchDraft records table).subject →
        b.records = records)
      (present : ¬ (w₁.bench.draft w.vacant).Lacks w₁.bench.catalog w₁.records)
      (expands : b.Expands w₁.records statements)
      (rounds : Rounds mapper statements (w₂.announcing .insertBatch (.batch b)) called outcome) :
      BatchCourse records table complete mapper w
        (.completed w.vacant :: called.map .handed) outcome
  /-- The completer has put another draft in the place of the one that was started. -/
  | exchanged {s : Statement RecordId} {w₁ w₂ w' : World τ} {e : Error}
      (renders : Renders (batchDraft records table) complete w (.statement s) w₁ w₂)
      (changed : (w₁.bench.draft w.vacant).subject ≠ (batchDraft records table).subject) :
      BatchCourse records table complete mapper w [.completed w.vacant] (.error e, w')

/-- The statements of a batch that has been announced are handed over one by one.  They are all made
before the mapper is called on the first, so a record that lacks a property keeps it from being
called at all. -/
theorem batchCourse_handEach {records : List RecordId} {table : Table} {b : Batch RecordId}
    (renders : Renders (batchDraft records table) complete w (.batch b) w₁ w₂)
    (mapper : Mapper τ α) :
    let announced := w₂.announcing .insertBatch (.batch b)
    ∃ events,
      BatchCourse records table complete mapper w (.completed w.vacant :: events)
        ((handEach mapper (.batch b)).outcome announced) ∧
      Watches (handEach mapper (.batch b)) (handEach mapper.watched (.batch b)) announced
        events := by
  intro announced
  have silent := World.watches_statements b announced
  have made := World.outcome_statements b announced
  rw [World.expanded_announcing renders.rendered_eq] at made
  cases expanded : w₁.expanded b with
  | error e =>
      rw [expanded] at made
      refine ⟨[], ?_, silent.bind_error made⟩
      rw [handEach, outcome_bind, made]
      exact .unexpanded renders expanded
  | ok statements =>
      rw [expanded] at made
      obtain ⟨called, rounds, watches⟩ := rounds_mapM mapper statements announced
      refine ⟨called.map .handed, ?_, silent.bind_ok made watches⟩
      rw [handEach, outcome_bind_of_ok made]
      exact .handed renders (fun same => (renders.kept same).1)
        (World.not_lacks_of_expanded renders.rendered_eq expanded)
        (World.expands_of_expanded expanded) rounds

/-- A batch insert takes a course, and its calls are seen, whatever the records are. -/
theorem takes_insertBatch (records : List RecordId) (table : Table)
    (complete : Completer τ) (mapper : Mapper τ α) (w : World τ) :
    Takes (BatchCourse records table complete mapper w)
      (insertBatch mapper records table complete)
      (insertBatch mapper.watched records table complete.watched) w := by
  rw [insertBatch_eq, insertBatch_eq]
  cases prepare_continues .insertBatch (batchDraft records table) complete w (handEach mapper)
      (handEach mapper.watched) with
  | failed fails outcome watches =>
      refine ⟨_, ?_, watches⟩
      rw [outcome]
      exact .failed fails
  | unannounced renders unread outcome watches =>
      refine ⟨_, ?_, watches⟩
      rw [outcome]
      exact .unannounced renders rfl unread
  | @announced product w₁ w₂ renders outcome watches =>
      cases product with
      | batch b =>
          obtain ⟨events, course, handed⟩ := batchCourse_handEach renders mapper
          refine ⟨_, ?_, watches handed⟩
          rw [outcome]
          exact course
      | statement s =>
          refine ⟨_, ?_, watches (.throw .unexpectedDraft _)⟩
          rw [outcome]
          refine .exchanged renders fun same => ?_
          cases (renders.kept same).2

end Courses

/-! ### All facade functions -/

/-- What is asked of a facade function that hands over one statement. -/
inductive Request where
  | count (column : Expression) (source : SourceRef)
  | countDistinct (column : Expression) (source : SourceRef)
  | countFrom (source : SourceRef)
  | deleteFrom (table : Table)
  | insert (row : RecordId) (table : Table)
  | insertInto (table : Table)
  | insertMultiple (records : List RecordId) (table : Table)
  | insertSelect (table : Table)
  | selectDistinct (columns : List Expression) (source : SourceRef)
  | selectList (columns : List Expression) (source : SourceRef)
  | selectOne (columns : List Expression) (source : SourceRef)
  | update (table : Table)

namespace Request

/-- The kind of statement that is asked for. -/
def kind : Request → StatementKind
  | count _ _ => .count
  | countDistinct _ _ => .countDistinct
  | countFrom _ => .countFrom
  | deleteFrom _ => .delete
  | insert _ _ => .insert
  | insertInto _ => .insertInto
  | insertMultiple _ _ => .insertMultiple
  | insertSelect _ => .insertSelect
  | selectDistinct _ _ => .selectDistinct
  | selectList _ _ => .select
  | selectOne _ _ => .select
  | update _ => .update

/-- The draft that is started. -/
def draft : Request → Draft
  | count column source => fromSource (.countColumn column) source
  | countDistinct column source => fromSource (.countDistinct column) source
  | countFrom source => .select (.countAll source)
  | deleteFrom table => .delete { table }
  | insert row table => .insertRow { target := { table? := some table }, row }
  | insertInto table => .insertValues { table }
  | insertMultiple records table =>
    .insertMultiple { target := { table? := some table }, records }
  | insertSelect table => .insertSelect { table }
  | selectDistinct columns source => fromSource (.distinctColumns columns) source
  | selectList columns source => fromSource (.ofColumns columns) source
  | selectOne columns source => fromSource (.ofColumns columns) source
  | update table => .update { table }

/-- The facade function that answers the request. -/
def answer (mapper : Mapper τ α) (complete : Completer τ) : Request → Action (World τ) α
  | count column source => Mapper.count mapper column source complete
  | countDistinct column source => Mapper.countDistinct mapper column source complete
  | countFrom source => Mapper.countFrom mapper source complete
  | deleteFrom table => Mapper.deleteFrom mapper table complete
  | insert row table => Mapper.insert mapper row table complete
  | insertInto table => Mapper.insertInto mapper table complete
  | insertMultiple records table => Mapper.insertMultiple mapper records table complete
  | insertSelect table => Mapper.insertSelect mapper table complete
  | selectDistinct columns source => Mapper.selectDistinct mapper columns source complete
  | selectList columns source => Mapper.selectList mapper columns source complete
  | selectOne columns source => Mapper.selectOne mapper columns source complete
  | update table => Mapper.update mapper table complete

/-- Every request is answered by handing over one statement, of its kind and from its draft. -/
theorem answer_eq (r : Request) (mapper : Mapper τ α) (complete : Completer τ) :
    r.answer mapper complete = deliver r.kind r.draft complete mapper := by
  cases r <;> rfl

/-- None of the drafts that are started for a request is a batch. -/
theorem isBatch_draft (r : Request) : r.draft.isBatch = false := by
  cases r <;> rfl

end Request

/-- **The protocol of the facade functions.**  Whatever the completer and the mapper do, every
facade function takes one of its courses: the completer is called once, and the mapper after it and
only on what the completed draft has been rendered to.  A completer that makes calls cannot put
another draft in the place of the one that was started.  With statement logging on and off the
calls and the outcome are the same, unless the completer or the mapper itself tells the two
apart. -/
theorem delivery_protocol (complete : Completer τ) :
    (∀ (r : Request) (mapper : Mapper τ α) (w : World τ),
      Takes (Course r.kind r.draft complete mapper .handed w)
        (r.answer mapper complete) (r.answer mapper.watched complete.watched) w) ∧
    (∀ (mapper : KeyMapper τ α) (records : List RecordId) (table : Table) (w : World τ),
      Takes (Course .insertMultiple (Request.insertMultiple records table).draft complete
          (fun s => mapper s.sql s.records) (fun s => .handedKeys s.sql s.records) w)
        (insertMultipleWithGeneratedKeys mapper records table complete)
        (insertMultipleWithGeneratedKeys mapper.watched records table complete.watched) w) ∧
    (∀ (mapper : Mapper τ α) (records : List RecordId) (table : Table) (w : World τ),
      Takes (BatchCourse records table complete mapper w)
        (insertBatch mapper records table complete)
        (insertBatch mapper.watched records table complete.watched) w) ∧
    ((∀ id, KeepsDrafts (complete id)) → ∀ {draft product} {w w₁ w₂ : World τ},
      Renders draft complete w product w₁ w₂ →
        (w₁.bench.draft w.vacant).subject = draft.subject) ∧
    ((∀ id, Blind (complete id)) →
      (∀ (r : Request) (mapper : Mapper τ α), (∀ s, Blind (mapper s)) →
        Blind (r.answer mapper.watched complete.watched)) ∧
      (∀ (mapper : KeyMapper τ α) (records : List RecordId) (table : Table),
        (∀ sql ids, Blind (mapper sql ids)) →
        Blind (insertMultipleWithGeneratedKeys mapper.watched records table complete.watched)) ∧
      ∀ (mapper : Mapper τ α) (records : List RecordId) (table : Table),
        (∀ s, Blind (mapper s)) →
        Blind (insertBatch mapper.watched records table complete.watched)) := by
  refine ⟨fun r mapper w => ?_, fun mapper records table w => ?_,
    fun mapper records table w => takes_insertBatch records table complete mapper w,
    fun keeps => fun renders => renders.subject_eq keeps, fun completes => ?_⟩
  · rw [r.answer_eq, r.answer_eq]
    exact takes_deliver r.kind r.isBatch_draft complete mapper .handed w
  · exact takes_deliver .insertMultiple rfl complete (fun s => mapper s.sql s.records)
      (fun s => .handedKeys s.sql s.records) w
  · have completes' : ∀ id, Blind (complete.watched id) := fun id => (completes id).watched _
    refine ⟨fun r mapper maps => ?_, fun mapper records table maps => ?_,
      fun mapper records table maps => ?_⟩
    · rw [r.answer_eq]
      exact blind_deliver _ _ completes' fun s => (maps s).watched _
    · exact blind_deliver _ _ completes' fun s => (maps s.sql s.records).watched _
    · exact blind_insertBatch records table completes' fun s => (maps s).watched _

/-- A table of the staff. -/
def staff : Table := ⟨0, "staff", none⟩

/-- A world with three records, in which statements are logged. -/
def logged : World Unit :=
  { records := ["Ada", "Bob", "Cy"].map fun name => .mapping [(.text "name", .text name)]
    settings? := some { logStatements := true }
    caller := () }

/-- A mapper that fails on the second of three records is not called on the third. -/
theorem delivery_protocol_sample :
    let complete : Completer Unit := fun _ => pure ()
    let mapper : Mapper Unit Int := fun s => if s.records = [1] then throw .noColumns else pure 1
    let a := insertBatch mapper.watched [0, 1, 2] staff complete.watched
    let insertion (name : String) (id : RecordId) : Statement RecordId :=
      .insertRow ⟨"INSERT INTO staff (name) VALUES (:name)", [("name", .text name)]⟩ id
    (∀ id, KeepsDrafts (complete id)) ∧ Blind a ∧
      (a.outcome (logged.watching [])).1 = .error .noColumns ∧
      (a.outcome (logged.watching [])).2.caller.2 =
        [.completed 0, .handed (insertion "Ada" 0), .handed (insertion "Bob" 1)] := by
  intro complete mapper a insertion
  refine ⟨fun _ => .pure (), ?_, rfl, rfl⟩
  refine ((delivery_protocol complete).2.2.2.2 fun _ => .pure ()).2.2 mapper _ _ fun s => ?_
  by_cases second : s.records = [1]
  · rw [show mapper s = throw .noColumns from if_pos second]
    exact .throw _
  · rw [show mapper s = pure 1 from if_neg second]
    exact .pure 1

/-- A world whose settings cannot be read: they name a dialect that there is none of. -/
def unread : World Unit := { environment := [("DSQL_DIALECT", "bogus")], caller := () }

/-- The settings of this world name a dialect that does not exist, and nothing else is wrong with
them. -/
theorem settings_unread :
    unread.settings = .error (.settings [⟨"dialect", .notADialect, .text "bogus"⟩]) := by
  let sources : Settings.Sources := { environment := [("DSQL_DIALECT", "bogus")] }
  show Settings.load sources = _
  have level : sources.value? "LOG_LEVEL" "LOG_LEVEL" = none :=
    Option.isNone_iff_eq_none.mp (by decide +kernel)
  have url : sources.value? "DATABASE_URL" "DATABASE_URL" = none :=
    Option.isNone_iff_eq_none.mp (by decide +kernel)
  have dialect : sources.value? "dialect" "DSQL_DIALECT" = some (.text "bogus") := by
    simp [sources, Settings.Sources.value?, Settings.named?, Settings.lookup?]
  have logging : sources.value? "log_statements" "DSQL_LOG_STATEMENTS" = none :=
    Option.isNone_iff_eq_none.mp (by decide +kernel)
  have echo : sources.value? "sql_echo" "DSQL_SQL_ECHO" = none :=
    Option.isNone_iff_eq_none.mp (by decide +kernel)
  simp only [Settings.load, Settings.setting, level, url, dialect, logging, echo]
  rfl

/-- **Where the protocol ends.**  A batch without records can be completed and rendered, and yet
the call raises an error: the settings, for which there was no need, cannot be read when they are
asked whether to log.  And a mapper that looks at the log itself finds out whether statements are
logged. -/
theorem delivery_limits :
    let complete : Completer Unit := fun _ => pure ()
    ((∃ w, Renders (batchDraft [] staff) complete unread (.batch ⟨"", [], []⟩) w w) ∧
      ((insertBatch (fun _ => pure 1 : Mapper Unit Int) [] staff complete).outcome unread).1 =
        .error (.settings [⟨"dialect", .notADialect, .text "bogus"⟩])) ∧
    let mapper : Mapper Unit Nat := fun _ => Action.look fun w => w.log.length
    ((deleteFrom mapper staff complete).outcome logged).1 = .ok 1 ∧
      ((deleteFrom mapper staff complete).outcome { logged with settings? := some {} }).1 =
        .ok 0 := by
  intro complete
  have renders : Renders (batchDraft [] staff) complete unread (.batch ⟨"", [], []⟩)
      (unread.starting (batchDraft [] staff)) (unread.starting (batchDraft [] staff)) :=
    ⟨rfl, rfl⟩
  refine ⟨⟨⟨_, renders⟩, ?_⟩, rfl, rfl⟩
  have still : (unread.starting (batchDraft [] staff)).settings = _ := settings_unread
  rw [insertBatch_eq, outcome_bind, renders.outcome_prepare, still]
  rfl

end Mapper

end BoundSql
