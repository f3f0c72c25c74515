import BoundSql.Mapper
import BoundSql.Proofs.Action
import BoundSql.Proofs.Results

/-!
# What is handed to a mapper

A statement is prepared without its mapper, so handing over means to prepare the statement first and
to apply the mapper to it afterwards (`Mapper.deliver_eq`).  Rendering and announcing read the
workbench and the records and leave them as they are; what an insert of many records hands over is
therefore what its draft renders to in the world in which the mapper is called
(`Mapper.insertMultiple_eq_ok`).

This is more than that the statement has been rendered at some time.  Between the rendering and the
call of the mapper a statement is announced, for which settings may have to be read, and it matters
to a mapper that looks at the records again that they are the ones from which the statement was
made.  What is kept on the way are the workbench and the records (`World.sources`); the log and the
remembered settings may have changed.

The completer comes before all of this and is arbitrary.  So nothing is said of the draft that was
started, only of the one that stands in its place when the completer has finished.
-/

namespace BoundSql

open BoundSql.Action

variable {τ α : Type}

/-! ### Rendering a draft -/

namespace World

/-- What statements are rendered from. -/
def sources (w : World τ) : Workbench × Records := (w.bench, w.records)

/-- Settings are read without looking at a draft or a record. -/
theorem keeps_loadSettings : Keeps sources (loadSettings : Action (World τ) Settings) := by
  refine (Keeps.look _).bind fun settings? => ?_
  cases settings? with
  | some settings => exact .pure settings
  | none =>
      refine (Keeps.look _).bind fun read => (Keeps.ofExcept read).bind fun settings => ?_
      refine Keeps.bind (.update ?_) fun _ => .pure settings
      exact fun w => rfl

theorem keeps_dialect (choice : DialectChoice) :
    Keeps sources (dialect choice : Action (World τ) Dialect) := by
  cases choice with
  | default => exact keeps_loadSettings.bind fun _ => .pure _
  | named name => exact .ofExcept _
  | given d => exact .pure d

theorem keeps_note (e : LogEvent) : Keeps sources (note e : Action (World τ) Unit) :=
  .update fun _ => rfl

/-- What a draft has been rendered to was settled without a dialect, or is its rendering in one.
The workbench and the records are as before. -/
theorem render_eq_ok {id : DraftId} {choice : DialectChoice} {w w' : World τ}
    {product : Workbench.Product} (h : (render id choice).outcome w = (.ok product, w')) :
    w'.sources = w.sources ∧
      (Workbench.settled? (w.bench.draft id) = some (.ok product) ∨
        ∃ d, w.bench.render w.records id d = .ok product) := by
  rw [render, outcome_look_bind] at h
  cases settled : Workbench.settled? (w.bench.draft id) with
  | some result =>
      rw [settled] at h
      obtain ⟨rfl, rfl⟩ := Prod.mk.inj h
      exact ⟨rfl, .inl rfl⟩
  | none =>
      rw [settled] at h
      obtain ⟨d, between, chosen, h⟩ := outcome_bind_eq_ok_iff.mp h
      have kept : between.sources = w.sources := by
        rw [← keeps_dialect choice w, chosen]
      obtain ⟨rendered, rfl⟩ := Prod.mk.inj h
      obtain ⟨bench, records⟩ := Prod.mk.inj kept
      exact ⟨kept, .inr ⟨d, by rw [← bench, ← records]; exact rendered⟩⟩

end World

namespace Workbench

variable {w : Workbench} {records : Records} {id : DraftId} {r : Rendered} {ids : List RecordId}

/-- Only a batch without records has a rendering that is settled without a dialect.  The other
outcomes that are settled are errors. -/
theorem settled?_eq_ok {d : Draft} {product : Product} (h : settled? d = some (.ok product)) :
    ∃ target, d = .insertBatch ⟨target, []⟩ ∧ product = .batch ⟨"", [], []⟩ := by
  cases d with
  | insertBatch i =>
      obtain ⟨⟨table?, mappings⟩, records⟩ := i
      cases records with
      | cons id rest => cases h
      | nil =>
          cases table? with
          | none => cases h
          | some table =>
              cases h
              exact ⟨_, rfl, rfl⟩
  | insertMultiple i =>
      obtain ⟨target, records⟩ := i
      cases records with
      | cons id rest => cases h
      | nil => cases h
  | insertSelect i =>
      rw [settled?] at h
      cases hq : i.query? with
      | none => rw [hq] at h; cases h
      | some id => rw [hq] at h; cases h
  | select | delete | update | insertRow | insertValues => cases h

/-- What is rendered to an insert of many records is a draft of one. -/
theorem render_eq_insertMultiple {d : Dialect}
    (h : w.render records id d = .ok (.statement (.insertMultiple r ids))) :
    ∃ target, w.draft id = .insertMultiple ⟨target, ids⟩ ∧
      InsertMultiple.render w.catalog ⟨target, ids.map records.at⟩ d = .ok r := by
  rw [render] at h
  cases hd : w.draft id with
  | insertMultiple i =>
      rw [hd] at h
      obtain ⟨rendered, hr, h⟩ := bind_eq_ok_iff.mp h
      cases pure_eq_ok_iff.mp h
      exact ⟨i.target, rfl, hr⟩
  | _ =>
      rw [hd] at h
      obtain ⟨rendered, -, h⟩ := bind_eq_ok_iff.mp h
      cases pure_eq_ok_iff.mp h

end Workbench

namespace Mapper

/-! ### Handing over -/

/-- Announcing leaves what statements are rendered from as it is. -/
theorem keeps_announce (kind : StatementKind) (product : Workbench.Product) :
    Keeps World.sources (announce kind product : Action (World τ) Unit) := by
  refine World.keeps_loadSettings.bind fun settings => ?_
  cases settings.logStatements with
  | true => exact World.keeps_note _
  | false => exact .pure ()

/-- **A statement is handed over after it has been prepared**: the mapper is applied to what is
delivered to the mapper that does nothing. -/
theorem deliver_eq (kind : StatementKind) (draft : Draft) (complete : Completer τ)
    (mapper : Mapper τ α) :
    deliver kind draft complete mapper = deliver kind draft complete pure >>= mapper := by
  rw [deliver, deliver, bind_assoc]
  refine congrArg (prepare kind draft complete >>= ·) (funext fun product => ?_)
  cases product with
  | statement s => exact (pure_bind s mapper).symm
  | batch b => rfl

/-- A mapper that retrieves generated keys gets the text and the records of the same statement. -/
theorem insertMultipleWithGeneratedKeys_eq (mapper : KeyMapper τ α) (records : List RecordId)
    (table : Table) (complete : Completer τ) :
    insertMultipleWithGeneratedKeys mapper records table complete =
      insertMultiple pure records table complete >>= fun s => mapper s.sql s.records :=
  deliver_eq _ _ _ _

/-- What has been prepared is what the draft renders to in the world after it.  The dialect is not
named, because which one it was depends on settings that need not be at hand any more. -/
theorem prepare_eq_ok {kind : StatementKind} {draft : Draft} {complete : Completer τ}
    {w w' : World τ} {product : Workbench.Product}
    (h : (prepare kind draft complete).outcome w = (.ok product, w')) :
    Workbench.settled? (w'.bench.draft w.bench.drafts.length) = some (.ok product) ∨
      ∃ d, w'.bench.render w'.records w.bench.drafts.length d = .ok product := by
  obtain ⟨id, w₁, added, h⟩ := outcome_bind_eq_ok_iff.mp h
  obtain ⟨⟨⟩, w₂, -, h⟩ := outcome_bind_eq_ok_iff.mp h
  obtain ⟨rendered, w₃, hrender, h⟩ := outcome_bind_eq_ok_iff.mp h
  obtain ⟨⟨⟩, w₄, announced, h⟩ := outcome_bind_eq_ok_iff.mp h
  obtain ⟨rfl, rfl⟩ := outcome_pure_eq_ok_iff.mp h
  -- the draft was put where the next one goes
  obtain rfl : w.bench.drafts.length = id := Except.ok.inj (Prod.mk.inj added).1
  obtain ⟨kept, outcome⟩ := World.render_eq_ok hrender
  -- neither rendering nor announcing touches what was rendered
  have after : w₄.sources = w₂.sources := by
    rw [← kept, ← keeps_announce kind rendered w₃, announced]
  obtain ⟨bench, records⟩ := Prod.mk.inj after
  rw [bench, records]
  exact outcome

/-- What is handed over is what the draft renders to in the world after it. -/
theorem deliver_eq_ok {kind : StatementKind} {draft : Draft} {complete : Completer τ}
    {w w' : World τ} {s : Statement RecordId}
    (h : (deliver kind draft complete pure).outcome w = (.ok s, w')) :
    Workbench.settled? (w'.bench.draft w.bench.drafts.length) = some (.ok (.statement s)) ∨
      ∃ d, w'.bench.render w'.records w.bench.drafts.length d = .ok (.statement s) := by
  obtain ⟨product, w₁, prepared, h⟩ := outcome_bind_eq_ok_iff.mp h
  cases product with
  | batch b => cases (Prod.mk.inj h).1
  | statement s' =>
      obtain ⟨rfl, rfl⟩ := outcome_pure_eq_ok_iff.mp h
      exact prepare_eq_ok prepared

/-- **An insert of many records that is handed over** is what its draft renders to, in some dialect,
in the world in which the mapper is called.  The records are those of this world, too. -/
theorem insertMultiple_eq_ok {records : List RecordId} {table : Table} {complete : Completer τ}
    {w w' : World τ} {r : Rendered} {ids : List RecordId}
    (h : (insertMultiple pure records table complete).outcome w =
      (.ok (.insertMultiple r ids), w')) :
    ∃ target d, w'.bench.draft w.bench.drafts.length = .insertMultiple ⟨target, ids⟩ ∧
      InsertMultiple.render w'.bench.catalog ⟨target, ids.map w'.records.at⟩ d = .ok r := by
  rcases deliver_eq_ok h with settled | ⟨d, rendered⟩
  · obtain ⟨target, -, other⟩ := Workbench.settled?_eq_ok settled
    cases other
  · obtain ⟨target, draft, rendered⟩ := Workbench.render_eq_insertMultiple rendered
    exact ⟨target, d, draft, rendered⟩

end Mapper

end BoundSql
