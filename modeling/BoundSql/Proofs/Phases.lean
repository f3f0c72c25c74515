import BoundSql.Proofs.Delivery
import BoundSql.Proofs.Phases.Execution

/-!
# Building and executing

A statement is built before it is executed, so a build error ought to mean that nothing has been
sent and that no record has been changed.  With the methods of an executor as mappers it does, for
every facade function.  With a retrieval of generated keys it does not: when the rows are matched by
a column, the properties that they are matched by are read after the insert has been executed, and a
record that lacks its property is refused with a build error when the records before it have their
keys.

## From which moment on

A completer is arbitrary, and may execute other statements itself.  So effects are counted from the
moment at which it has finished (`World.completed`), and for a completer that has none of its own
this is the same as counting from the beginning, which the main result says as well.

What a facade function does behind the completer begins with preparing the statement.  Since this
has no effects, the question is only what is done with the prepared statement, and
`Mapper.buildsFirst_prepare_bind` says so as an equivalence.  That is needed for the insert that
retrieves keys, where the answer is a condition (`KeyRetrieval.MissesMatch`) and not simply yes.

A row mapper of the caller's may raise anything, a build error included, while rows are read.  The
hypothesis on row mappers excludes that and nothing else.

* `World.effects` : what executions have an effect on.
* `Mapper.BuildsFirst` : a build error means that nothing has been executed.
* `Mapper.buildsFirst_prepare_bind` : it is enough to look at what follows on the rendering.
* `Mapper.build_errors_come_first` : for which mappers, and for which insert, this holds.
-/

namespace BoundSql

open BoundSql.Action

variable {τ α : Type}

namespace World

/-- What executions have an effect on: the executors, with all that they have sent, and the
records. -/
def effects (w : World τ) : List Executor × Records := (w.executors, w.records)

/-- Rendering executes nothing and changes no record. -/
theorem keeps_effects_render (id : DraftId) :
    Keeps effects (render id .default : Action (World τ) Workbench.Product) := by
  intro w
  rw [outcome_render_default, rendered]
  split <;> rfl

/-- Neither does announcing. -/
theorem keeps_effects_announce (kind : StatementKind) (product : Workbench.Product) :
    Keeps effects (Mapper.announce kind product : Action (World τ) Unit) := by
  intro w
  rw [Mapper.outcome_announce]
  rfl

/-- A call on a draft has no effects, and neither has a completer that makes calls one after the
other. -/
theorem keeps_effects_call? (r : Receiver) (c : Workbench.Call) :
    Keeps effects (call? r c : Action (World τ) (Option Receiver)) := by
  refine (Keeps.look _).bind fun outcome? => ?_
  cases outcome? with
  | none => exact .pure none
  | some outcome =>
      refine (Keeps.ofExcept outcome).bind fun after => ?_
      exact Keeps.bind (.update fun _ => rfl) fun _ => .pure _

/-- The world in which the completer of a draft has finished or failed. -/
def completed (w : World τ) (draft : Draft) (complete : Completer τ) : World τ :=
  ((complete w.vacant).outcome (w.starting draft)).2

/-- A completer without effects has none on a draft that is started. -/
theorem effects_completed {complete : Completer τ} (keeps : ∀ id, Keeps effects (complete id))
    (w : World τ) (draft : Draft) : (w.completed draft complete).effects = w.effects :=
  keeps w.vacant (w.starting draft)

end World

namespace Mapper

/-- An outcome is no build error, or it has no effects beyond those in a world. -/
def BuildsFirst (w : World τ) (outcome : Except Error α × World τ) : Prop :=
  ∀ b, outcome.1 = .error (.build b) → outcome.2.effects = w.effects

/-- An action that raises no build error cannot raise it late. -/
theorem buildsFirst_of_raises {a : Action (World τ) α} (h : Raises (fun e => ¬ e.IsBuild) a)
    (w : World τ) : BuildsFirst w (a.outcome w) :=
  fun b fails => absurd ⟨b, rfl⟩ (h w (.build b) fails)

/-- Preparing has no effects behind the completer, whether it succeeds or not. -/
theorem effects_prepare (kind : StatementKind) (draft : Draft) (complete : Completer τ)
    (w : World τ) :
    ((prepare kind draft complete).outcome w).2.effects = (w.completed draft complete).effects := by
  rw [outcome_prepare]
  refine Keeps.after (fun _ => ?_) (complete w.vacant) (w.starting draft)
  refine (World.keeps_effects_render _).bind fun product => ?_
  exact (World.keeps_effects_announce kind product).bind fun _ => .pure product

/-- **Preparing comes first**: a call executes nothing before a build error exactly if what it does
with the prepared statement does not.  Where preparing fails itself, nothing has been executed in
any case. -/
theorem buildsFirst_prepare_bind {kind : StatementKind} {draft : Draft} {complete : Completer τ}
    {next : Workbench.Product → Action (World τ) α} {w : World τ} :
    BuildsFirst (w.completed draft complete) ((prepare kind draft complete >>= next).outcome w) ↔
      ∀ product w₁, (prepare kind draft complete).outcome w = (.ok product, w₁) →
        BuildsFirst w₁ ((next product).outcome w₁) := by
  have effects := effects_prepare kind draft complete w
  rw [outcome_bind]
  generalize (prepare kind draft complete).outcome w = prepared at effects
  obtain ⟨_ | product, w₁⟩ := prepared
  · exact iff_of_true (fun _ _ => effects) fun _ _ other => nomatch other
  · constructor
    · rintro first _ _ ⟨⟩ b fails
      exact (first b fails).trans effects.symm
    · intro first b fails
      exact (first product w₁ rfl b fails).trans effects

/-! ### Methods -/

/-- The mapper of an executor that performs a method. -/
def performing (executor : Nat) (method : Executor.Method) (rows? : Option RowMapper) :
    Mapper τ Value :=
  fun s => World.atExecutor executor (Executor.perform method s.rendered rows?)

/-- A method raises no build error if its row mapper raises none. -/
theorem raises_performing {rows? : Option RowMapper}
    (plain : ∀ f row b, rows? = some f → f row ≠ .error (.build b)) (executor : Nat)
    (method : Executor.Method) (s : Statement RecordId) :
    Raises (fun e => ¬ e.IsBuild)
      (performing executor method rows? s : Action (World τ) Value) := by
  refine Raises.within fun site e fails => ?_
  rintro ⟨b, rfl⟩
  obtain ⟨f, row, given, raised⟩ := Executor.raises_perform method _ rows? site _ fails ⟨b, rfl⟩
  exact plain f row b given raised

/-- Handing over a statement raises what the mapper raises; a batch in its place is an error of
another kind. -/
theorem raises_handOne {mapper : Mapper τ α}
    (h : ∀ s, Raises (fun e => ¬ e.IsBuild) (mapper s)) (product : Workbench.Product) :
    Raises (fun e => ¬ e.IsBuild) (handOne mapper product) := by
  cases product with
  | statement s => exact h s
  | batch b =>
      refine .throw ?_
      rintro ⟨b, ⟨⟩⟩

/-- The statements of a batch are all made before the first of them is handed over.  So a record
that cannot be bound is noticed before anything is executed, also if it is the last. -/
theorem buildsFirst_handEach {mapper : Mapper τ α}
    (h : ∀ s, Raises (fun e => ¬ e.IsBuild) (mapper s)) (product : Workbench.Product)
    (w : World τ) : BuildsFirst w ((handEach mapper product).outcome w) := by
  cases product with
  | statement s =>
      rintro b ⟨⟩
  | batch batch =>
      have made := World.outcome_statements batch w
      cases expanded : w.expanded batch with
      | error e =>
          rw [expanded] at made
          intro b fails
          rw [handEach, outcome_bind, made]
      | ok statements =>
          rw [expanded] at made
          rw [handEach, outcome_bind_of_ok made]
          exact buildsFirst_of_raises (.mapM h statements) w

/-! ### Retrievals of generated keys -/

/-- A retrieval executes nothing before a build error exactly if it does not come upon a record that
cannot be matched.  If it does, the insert has been sent already, so that there always is an
effect. -/
theorem buildsFirst_keys {k : KeyRetrieval} {executor : Nat} {sql : String} {ids : List RecordId}
    {w : World τ} (present : executor < w.executors.length) :
    BuildsFirst w ((k.mapper executor sql ids).outcome w) ↔
      ¬ k.MissesMatch sql ids (w.site executor) := by
  cases bound : bindRowSlots sql (ids.map w.records.at) with
  | error e =>
      rw [KeyRetrieval.outcome_mapper_of_error present bound]
      refine iff_of_true (fun _ _ => rfl) ?_
      rintro ⟨-, bound', -⟩
      cases bound.symm.trans bound'
  | ok parameters =>
      have here : bindRowSlots sql (ids.map (w.site executor).records.at) = .ok parameters := bound
      rw [← KeyRetrieval.run_eq_build_iff here, not_exists]
      -- the insert was sent, so a build error that comes now comes after an effect
      have executed : ((k.mapper executor sql ids).outcome w).2.effects ≠ w.effects := by
        intro same
        have unsent : ((k.mapper executor sql ids).outcome w).2.sent executor =
            w.sent executor := by
          rw [World.sent, World.sent, World.executor, World.executor, (Prod.mk.inj same).1]
        have further := unsent.symm.trans (KeyRetrieval.sent_mapper present bound)
        cases List.self_eq_append_right.mp further
      constructor
      · intro first b fails
        exact executed (first b fails)
      · intro none b fails
        exact absurd fails (none b)

/-- A retrieval gets the text and the records of the statement that has been prepared. -/
theorem insertMultipleWithGeneratedKeys_eq_prepare (mapper : KeyMapper τ α)
    (records : List RecordId) (table : Table) (complete : Completer τ) :
    insertMultipleWithGeneratedKeys mapper records table complete =
      prepare .insertMultiple (Request.insertMultiple records table).draft complete >>=
        handOne fun s => mapper s.sql s.records :=
  deliver_eq_prepare _ _ _ _

/-- **A build error comes first, unless keys are retrieved for a record that cannot be matched.**
Whatever the completer does, a facade function that hands its statement, or its statements, to a
method of an executor has not executed anything since if it raises a build error: no executor has
sent or queued anything, and no record has been changed.  This takes row mappers that raise no build
error of their own.  The insert that retrieves generated keys has not executed anything either,
except in one case: the statement has been prepared and executed, the keys of the records before
have been written, and a record lacks the property that it is matched by. -/
theorem build_errors_come_first (complete : Completer τ) :
    ((∀ id, Keeps World.effects (complete id)) →
      ∀ (w : World τ) draft, (w.completed draft complete).effects = w.effects) ∧
    (∀ (executor : Nat) (method : Executor.Method) (rows? : Option RowMapper),
      (∀ f row b, rows? = some f → f row ≠ .error (.build b)) →
      ∀ w : World τ,
        (∀ r : Request, BuildsFirst (w.completed r.draft complete)
          ((r.answer (performing executor method rows?) complete).outcome w)) ∧
        ∀ records table, BuildsFirst (w.completed (batchDraft records table) complete)
          ((insertBatch (performing executor method rows?) records table complete).outcome w)) ∧
    ∀ (k : KeyRetrieval) (executor : Nat) (records : List RecordId) (table : Table) (w : World τ),
      let draft := (Request.insertMultiple records table).draft
      executor < (w.completed draft complete).executors.length →
        (BuildsFirst (w.completed draft complete)
            ((insertMultipleWithGeneratedKeys (k.mapper executor) records table
              complete).outcome w) ↔
          ∀ s w₁, (prepare .insertMultiple draft complete).outcome w = (.ok (.statement s), w₁) →
            ¬ k.MissesMatch s.sql s.records (w₁.site executor)) := by
  refine ⟨fun keeps w draft => World.effects_completed keeps w draft, ?_, ?_⟩
  · intro executor method rows? plain w
    have performed (s : Statement RecordId) : Raises (fun e => ¬ e.IsBuild)
        (performing executor method rows? s : Action (World τ) Value) :=
      raises_performing plain executor method s
    constructor
    · intro r
      rw [r.answer_eq, deliver_eq_prepare]
      exact buildsFirst_prepare_bind.mpr fun product w₁ _ =>
        buildsFirst_of_raises (raises_handOne performed product) w₁
    · intro records table
      rw [insertBatch_eq]
      exact buildsFirst_prepare_bind.mpr fun product w₁ _ =>
        buildsFirst_handEach performed product w₁
  · intro k executor records table w draft present
    rw [insertMultipleWithGeneratedKeys_eq_prepare, buildsFirst_prepare_bind]
    -- the executors are those that the completer has left
    have still {product : Workbench.Product} {w₁ : World τ}
        (prepared : (prepare .insertMultiple draft complete).outcome w = (.ok product, w₁)) :
        executor < w₁.executors.length := by
      have effects := effects_prepare .insertMultiple draft complete w
      rw [prepared] at effects
      rwa [(Prod.mk.inj effects).1]
    constructor
    · intro first s w₁ prepared
      exact (buildsFirst_keys (still prepared)).mp (first _ w₁ prepared)
    · intro matched product w₁ prepared
      cases product with
      | statement s => exact (buildsFirst_keys (still prepared)).mpr (matched s w₁ prepared)
      | batch b =>
          rintro b ⟨⟩

open KeyRetrieval (persons)

/-- A world with two records of persons, the second of which has no code, and an executor whose
connection returns the keys of both with their codes. -/
def coded : World Unit :=
  { bench := { catalog := ⟨[(persons, [.plain "name" persons none])]⟩ }
    records := [.mapping [(.text "name", .text "Ada"), (.text "code", .text "a")],
      .mapping [(.text "name", .text "Bob")]]
    executors := [{ connection := { replies :=
      [.result ["id", "code"] [[.int 7, .text "a"], [.int 8, .text "b"]] none] } }]
    settings? := some {}
    caller := () }

/-- The insert of both records. -/
def codedInsert : Rendered :=
  ⟨"INSERT INTO person (name) VALUES (:records_0_name), (:records_1_name)",
    [("records_0_name", .text "Ada"), ("records_1_name", .text "Bob")]⟩

/-- The statement of the sample, prepared without calls of its completer. -/
theorem prepare_coded :
    (prepare .insertMultiple (Request.insertMultiple [0, 1] persons).draft fun _ =>
      pure ()).outcome coded =
        (.ok (.statement (.insertMultiple codedInsert [0, 1])),
          coded.starting (Request.insertMultiple [0, 1] persons).draft) := by
  rfl

/-- The insert of both records is executed and the first gets its key, before the second is refused
with a build error.  Without the retrieval nothing of that kind can happen. -/
theorem build_errors_come_first_sample :
    let k : KeyRetrieval := { keyColumn := "id", keyProperty := "id", matchColumn? := some "code" }
    let complete : Completer Unit := fun _ => pure ()
    let draft := (Request.insertMultiple [0, 1] persons).draft
    let outcome :=
      (insertMultipleWithGeneratedKeys (k.mapper 0) [0, 1] persons complete).outcome coded
    outcome.1 = .error (.build ⟨.missingProperty "code" .key, .insertMultiple⟩) ∧
    outcome.2.sent 0 = [.one (k.statement codedInsert.sql) codedInsert.parameters] ∧
    outcome.2.records.at 0 = .mapping
      [(.text "name", .text "Ada"), (.text "code", .text "a"), (.text "id", .int 7)] ∧
    (coded.completed draft complete).effects = coded.effects ∧
    ¬ BuildsFirst (coded.completed draft complete) outcome ∧
    BuildsFirst (coded.completed draft complete)
      (((Request.insertMultiple [0, 1] persons).answer (performing 0 .insertMultiple none)
        complete).outcome coded) := by
  intro k complete draft outcome
  have bound : bindRowSlots codedInsert.sql ([0, 1].map (coded.site 0).records.at) =
      .ok codedInsert.parameters := rfl
  -- the first record has its key already when the second turns out to lack the property
  let first : Record := .mapping
    [(.text "name", .text "Ada"), (.text "code", .text "a"), (.text "id", .int 7)]
  let after : Site :=
    { executor := { connection :=
        ⟨[], [.one (k.statement codedInsert.sql) codedInsert.parameters]⟩ }
      records := [first, .mapping [(.text "name", .text "Bob")]] }
  have run : (k.run codedInsert.sql [0, 1]).outcome (coded.site 0) =
      (.error (.build ⟨.missingProperty "code" .key, .insertMultiple⟩), after) := by
    rw [KeyRetrieval.run, outcome_look_bind, bound, outcome_bind_of_ok (outcome_ofExcept _ _)]
    rfl
  have handed : outcome =
      (.error (.build ⟨.missingProperty "code" .key, .insertMultiple⟩),
        (coded.starting draft).withSite 0 after) := by
    show (insertMultipleWithGeneratedKeys (k.mapper 0) [0, 1] persons complete).outcome coded = _
    rw [insertMultipleWithGeneratedKeys_eq_prepare, outcome_bind_of_ok prepare_coded]
    exact congrArg (fun r => (r.1, (coded.starting draft).withSite 0 r.2)) run
  have misses : k.MissesMatch codedInsert.sql [0, 1] (coded.site 0) :=
    (KeyRetrieval.run_eq_build_iff bound).mp ⟨_, congrArg Prod.fst run⟩
  obtain ⟨quiet, methods, keys⟩ := build_errors_come_first complete
  have late : ¬ BuildsFirst (coded.completed draft complete) outcome := fun first =>
    (keys k 0 [0, 1] persons coded Nat.zero_lt_one).mp first _ _ prepare_coded misses
  exact ⟨congrArg Prod.fst handed, congrArg (·.2.sent 0) handed,
    congrArg (·.2.records.at 0) handed, quiet (fun _ => .pure ()) coded draft, late,
    (methods 0 .insertMultiple none (fun _ _ _ other => by cases other) coded).1 _⟩

end Mapper

end BoundSql
