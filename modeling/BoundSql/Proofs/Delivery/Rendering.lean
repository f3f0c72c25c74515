import BoundSql.Proofs.Binding
import BoundSql.Proofs.Drafts
import BoundSql.Proofs.Mapper

/-!
# Rendering and announcing a draft

What a facade function does between its completer and its mapper: the draft is rendered in the
dialect of the settings, and what it has been rendered to is announced if the settings ask for it.
Both outcomes are written out here (`World.outcome_render_default`, `Mapper.outcome_announce`).
Announcing fails only if the settings cannot be read, and then only an empty batch has been
rendered, which needs no dialect (`World.settings_of_rendered`).

A draft keeps its subject, which are its kind and its records, through every call
(`Action.KeepsDrafts.call?`).

Settings are read when they are first needed, and remembered from then on.  `World.settings` says
which settings count without saying whether they have been read already, and `World.remembering`
what asking for them does to the world.  With these two an action that asks for the settings has an
outcome that can be written down, and asking twice is the same as asking once.

For a batch the outcome has a second step, in which one statement is made for each record
(`Batch.Expands`).  It fails if a record lacks a property that is mapped.  When the batch is
rendered, only its first record is looked at, so that a record further on which lacks a property is
noticed in the second step only; but then it is noticed before anything has been handed over.
-/

namespace BoundSql

open BoundSql.Action

variable {τ α β : Type}

/-! ### The subject of a draft -/

namespace Workbench

/-- The subject of the draft at a place, if there is one. -/
def subject? (w : Workbench) (place : DraftId) : Option (String × List RecordId) :=
  w.drafts[place]?.map Draft.subject

/-- Where there is a draft, its subject is the one that is found for the place. -/
theorem subject_eq {w : Workbench} {place : DraftId} {subject : String × List RecordId}
    (h : w.subject? place = some subject) : (w.draft place).subject = subject := by
  obtain ⟨d, present, same⟩ := Option.map_eq_some_iff.mp h
  rw [draft, present, ← same]
  rfl

/-- Every call keeps the subjects of all drafts, also of those that it is not made on.  A call may
add a draft, but behind all that are there. -/
theorem subject?_call? {w w' : Workbench} {r r' : Receiver} {c : Call}
    (h : w.call? r c = some (.ok (r', w'))) {id : DraftId} {subject : String × List RecordId}
    (present : w.subject? id = some subject) : w'.subject? id = some subject := by
  obtain ⟨d, at?, rfl⟩ := Option.map_eq_some_iff.mp present
  obtain ⟨d', there, continues⟩ := exists_continues_call? h at?
  rw [subject?, there, Option.map_some, continues.subject]

end Workbench

/-- The action leaves all drafts in their places, and each keeps its subject. -/
def Action.KeepsDrafts (a : Action (World τ) α) : Prop :=
  ∀ (w : World τ) (place : DraftId) (subject : String × List RecordId),
    w.bench.subject? place = some subject →
      (a.outcome w).2.bench.subject? place = some subject

namespace Action.KeepsDrafts

theorem pure (x : α) : KeepsDrafts (Pure.pure x : Action (World τ) α) :=
  fun _ _ _ present => present

theorem throw (e : Error) : KeepsDrafts (MonadExcept.throw e : Action (World τ) α) :=
  fun _ _ _ present => present

/-- Actions that keep the drafts keep them one after the other. -/
theorem bind {a : Action (World τ) α} {f : α → Action (World τ) β} (ha : KeepsDrafts a)
    (hf : ∀ x, KeepsDrafts (f x)) : KeepsDrafts (a >>= f) := by
  intro w place subject present
  have between := ha w place subject present
  rw [outcome_bind]
  cases (outcome a w).1 with
  | error e => exact between
  | ok x => exact hf x _ place subject between

/-- **A call keeps the drafts**, and so does a completer that makes calls one after the other.  A
call that is refused changes nothing. -/
theorem call? (r : Receiver) (c : Workbench.Call) :
    KeepsDrafts (World.call? r c : Action (World τ) (Option Receiver)) := by
  intro w place subject present
  rw [World.call?, outcome_look_bind]
  cases called : w.bench.call? r c with
  | none => exact present
  | some result =>
      cases result with
      | error e => exact present
      | ok after => exact Workbench.subject?_call? called present

end Action.KeepsDrafts

namespace World

/-! ### Settings -/

/-- The settings that count: those remembered, or else those that can be read. -/
def settings (w : World τ) : Except Error Settings :=
  match w.settings? with
  | some settings => .ok settings
  | none => w.readSettings

/-- The world in which the settings have been asked for. -/
def remembering (w : World τ) : World τ := { w with settings? := w.settings.toOption }

/-- Asking for the settings gives those that count, and remembers them. -/
theorem outcome_loadSettings (w : World τ) :
    loadSettings.outcome w = (w.settings, w.remembering) := by
  obtain ⟨bench, records, executors, environment, settings?, log, caller⟩ := w
  cases settings? with
  | some settings => rfl
  | none =>
      rw [loadSettings, outcome_look_bind]
      show outcome (Action.look readSettings >>= fun read => Action.ofExcept read >>= _) _ = _
      rw [outcome_look_bind, outcome_bind, outcome_ofExcept, remembering, settings]
      cases readSettings _ with
      | ok settings => rfl
      | error e => rfl

/-- Settings that cannot be read are not remembered. -/
theorem remembering_of_error {w : World τ} {e : Error} (unread : w.settings = .error e) :
    w.remembering = w := by
  obtain ⟨bench, records, executors, environment, settings?, log, caller⟩ := w
  cases settings? with
  | some settings => cases unread
  | none =>
      rw [remembering, unread]
      rfl

@[simp] theorem settings_remembering (w : World τ) : w.remembering.settings = w.settings := by
  cases read : w.settings with
  | ok s =>
      rw [remembering, read]
      rfl
  | error e => rw [remembering_of_error read, read]

/-! ### Rendering in the dialect of the settings -/

/-- What a draft renders to in the dialect of the settings, and the world after it.  The settings
are not asked for when the outcome does not depend on them, so it may be known even where they
cannot be read. -/
def rendered (w : World τ) (id : DraftId) : Except Error Workbench.Product × World τ :=
  match Workbench.settled? (w.bench.draft id) with
  | some outcome => (outcome, w)
  | none => (w.settings >>= fun s => w.bench.render w.records id s.dialect, w.remembering)

/-- This is what rendering without a given dialect comes to. -/
theorem outcome_render_default (id : DraftId) (w : World τ) :
    (render id .default).outcome w = w.rendered id := by
  rw [render, outcome_look_bind, rendered]
  cases Workbench.settled? (w.bench.draft id) with
  | some result => rfl
  | none =>
      show outcome (Settings.dialect <$> loadSettings >>= fun d =>
        Action.look (fun w => w.bench.render w.records id d) >>= Action.ofExcept) w = _
      rw [map_eq_pure_bind, bind_assoc, outcome_bind, outcome_loadSettings]
      cases w.settings with
      | ok s => rfl
      | error e => rfl

end World

namespace Workbench

/-- Is a product a batch? -/
def Product.isBatch : Product → Bool
  | .statement _ => false
  | .batch _ => true

/-- The records of a product. -/
def Product.records : Product → List RecordId
  | .statement s => s.records
  | .batch b => b.records

/-- A product keeps the records of its draft, and only a batch insert renders to a batch. -/
theorem render_eq_ok {w : Workbench} {records : Records} {id : DraftId} {d : Dialect}
    {product : Product} (h : w.render records id d = .ok product) :
    product.records = (w.draft id).records ∧ product.isBatch = (w.draft id).isBatch := by
  rw [render] at h
  cases draft : w.draft id with
  | _ =>
      rw [draft] at h
      obtain ⟨made, -, h⟩ := bind_eq_ok_iff.mp h
      cases pure_eq_ok_iff.mp h
      exact ⟨rfl, rfl⟩

/-- What a batch binds are the bindings of its draft, for which the first record stands.  Without
records there are none, and the draft has to have one. -/
theorem bindings_of_render {w : Workbench} {records : Records} {id : DraftId} {d : Dialect}
    {target : RowTarget} {first : RecordId} {rest : List RecordId} {b : Batch RecordId}
    (draft : w.draft id = .insertBatch ⟨target, first :: rest⟩)
    (h : w.render records id d = .ok (.batch b)) :
    target.bindings .insertBatch w.catalog (records.at first) = .ok b.bindings := by
  rw [render, draft] at h
  obtain ⟨made, rendered, h⟩ := bind_eq_ok_iff.mp h
  cases pure_eq_ok_iff.mp h
  obtain ⟨⟨table, mappings⟩, resolved, rendered⟩ := bind_eq_ok_iff.mp rendered
  obtain ⟨columns, named, rendered⟩ := bind_eq_ok_iff.mp rendered
  obtain ⟨values, -, rendered⟩ := bind_eq_ok_iff.mp rendered
  cases pure_eq_ok_iff.mp rendered
  refine bind_eq_ok_iff.mpr ⟨_, resolved, ?_⟩
  exact bind_eq_ok_iff.mpr ⟨_, named, rfl⟩

end Workbench

namespace World

variable {id : DraftId} {product : Workbench.Product} {w w' : World τ}

/-- A draft has been rendered without the settings if it is a batch without records, and in their
dialect otherwise.  The other outcomes that do not depend on a dialect are errors. -/
theorem rendered_eq_ok (h : w.rendered id = (.ok product, w')) :
    (∃ target, w.bench.draft id = .insertBatch ⟨target, []⟩ ∧ product = .batch ⟨"", [], []⟩ ∧
      w' = w) ∨
    ∃ s, w.settings = .ok s ∧ w.bench.render w.records id s.dialect = .ok product ∧
      w' = w.remembering := by
  rw [rendered] at h
  cases settled : Workbench.settled? (w.bench.draft id) with
  | some result =>
      rw [settled] at h
      obtain ⟨rfl, rfl⟩ := Prod.mk.inj h
      obtain ⟨target, draft, product⟩ := Workbench.settled?_eq_ok settled
      exact .inl ⟨target, draft, product, rfl⟩
  | none =>
      rw [settled] at h
      obtain ⟨made, rfl⟩ := Prod.mk.inj h
      obtain ⟨s, read, made⟩ := bind_eq_ok_iff.mp made
      exact .inr ⟨s, read, made, rfl⟩

/-- A product keeps the records of its draft, and only a batch insert renders to a batch. -/
theorem records_of_rendered (h : w.rendered id = (.ok product, w')) :
    product.records = (w.bench.draft id).records ∧
      product.isBatch = (w.bench.draft id).isBatch := by
  rcases rendered_eq_ok h with ⟨target, draft, rfl, -⟩ | ⟨s, -, made, -⟩
  · rw [draft]
    exact ⟨rfl, rfl⟩
  · exact Workbench.render_eq_ok made

/-- Once something has been rendered, the settings have been read, unless it is a batch without
records. -/
theorem settings_of_rendered (h : w.rendered id = (.ok product, w')) :
    (∃ s, w'.settings = .ok s) ∨ product = .batch ⟨"", [], []⟩ := by
  rcases rendered_eq_ok h with ⟨target, -, empty, -⟩ | ⟨s, read, -, rfl⟩
  · exact .inr empty
  · exact .inl ⟨s, by rw [settings_remembering, read]⟩

end World

/-! ### Announcing -/

/-- The event that announces a product. -/
def Workbench.Product.event (kind : StatementKind) : Product → LogEvent
  | .statement s => statementRendered kind s.sql s.parameters.length
  | .batch b => statementRendered kind b.sql 0

/-- What is logged of a product: one event if the settings ask for it. -/
def World.announcements (w : World τ) (kind : StatementKind) (product : Workbench.Product) :
    List LogEvent :=
  match w.settings with
  | .ok s => if s.logStatements then [product.event kind] else []
  | .error _ => []

/-- The world in which a product has been announced.  Nothing but the log has changed, and the
settings are remembered. -/
def World.announcing (w : World τ) (kind : StatementKind) (product : Workbench.Product) :
    World τ :=
  { w.remembering with log := w.log ++ w.announcements kind product }

/-- Nothing is logged if the settings cannot be read. -/
theorem World.announcing_of_error {w : World τ} {e : Error} (unread : w.settings = .error e)
    (kind : StatementKind) (product : Workbench.Product) : w.announcing kind product = w := by
  rw [announcing, announcements, unread, remembering_of_error unread, List.append_nil]

/-- Announcing fails exactly if the settings cannot be read.  In both cases the world afterwards is
the one in which the product has been announced, as nothing is then. -/
theorem Mapper.outcome_announce (kind : StatementKind) (product : Workbench.Product)
    (w : World τ) :
    (announce kind product).outcome w =
      (w.settings.map fun _ => (), w.announcing kind product) := by
  show outcome (World.loadSettings >>= fun settings =>
    if settings.logStatements then World.note (product.event kind) else pure ()) w = _
  rw [outcome_bind, World.outcome_loadSettings, World.announcing, World.announcements]
  cases w.settings with
  | error e =>
      rw [List.append_nil]
      rfl
  | ok s =>
      show outcome (if s.logStatements then World.note (product.event kind) else pure ()) _ =
        (.ok (), { w.remembering with
          log := w.log ++ if s.logStatements then [product.event kind] else [] })
      cases s.logStatements with
      | true => rfl
      | false =>
          rw [if_neg Bool.false_ne_true, if_neg Bool.false_ne_true, List.append_nil]
          rfl

/-! ### The statements of a batch -/

/-- The statements of a batch: one for each record, in order, with the text of the batch and the
parameters that are read from the record. -/
def Batch.Expands (b : Batch RecordId) (records : Records)
    (statements : List (Statement RecordId)) : Prop :=
  List.Forall₂ (fun row s => ∃ parameters,
    bindRecord .insertBatch id (records.at row) b.bindings = .ok parameters ∧
      s = .insertRow ⟨b.sql, parameters⟩ row) b.records statements

/-- The statements of a batch, or how they cannot be made. -/
def World.expanded (w : World τ) (b : Batch RecordId) : Except Error (List (Statement RecordId)) :=
  b.records.mapM fun row => do
    let r ← Batch.statement ⟨b.sql, [], b.bindings⟩ (w.records.at row)
    return .insertRow r row

/-- Making the statements of a batch changes nothing, whether it succeeds or not. -/
theorem World.outcome_statements (b : Batch RecordId) (w : World τ) :
    (World.statements b).outcome w = (w.expanded b, w) := rfl

/-- Rendering and announcing make no difference to the records that are read. -/
theorem World.expanded_announcing {place : DraftId} {product : Workbench.Product} {w w' : World τ}
    (rendered : w.rendered place = (.ok product, w')) (kind : StatementKind)
    (b : Batch RecordId) : (w'.announcing kind product).expanded b = w.expanded b := by
  rcases rendered_eq_ok rendered with ⟨_, -, -, rfl⟩ | ⟨_, -, -, rfl⟩ <;> rfl

/-- Statements that have been made are the statements of the batch. -/
theorem World.expands_of_expanded {b : Batch RecordId} {w : World τ}
    {statements : List (Statement RecordId)} (h : w.expanded b = .ok statements) :
    b.Expands w.records statements := by
  refine (mapM_eq_ok_iff.mp h).imp fun row s made => ?_
  obtain ⟨r, bound, made⟩ := bind_eq_ok_iff.mp made
  obtain ⟨parameters, bound, same⟩ := bind_eq_ok_iff.mp bound
  refine ⟨parameters, bound, ?_⟩
  rw [← pure_eq_ok_iff.mp made, ← pure_eq_ok_iff.mp same]

/-- The draft is a batch insert, and one of its records lacks a property that is mapped.  The first
record stands for all where the mappings are to be inferred. -/
def Draft.Lacks (catalog : Catalog) (records : Records) (d : Draft) : Prop :=
  ∃ target first rest bound, d = .insertBatch ⟨target, first :: rest⟩ ∧
    target.bindings .insertBatch catalog (records.at first) = .ok bound ∧
    ∃ row ∈ first :: rest, ∃ b ∈ bound, ∃ e, (records.at row).get b.property = .error e

/-- **A batch has no statements if a record lacks a property that is mapped**, be it the last.
Every record is read for every binding, so one that lacks a property makes the reading fail. -/
theorem World.not_lacks_of_expanded {place : DraftId} {b : Batch RecordId} {w w' : World τ}
    {statements : List (Statement RecordId)}
    (rendered : w.rendered place = (.ok (.batch b), w')) (h : w.expanded b = .ok statements) :
    ¬ (w.bench.draft place).Lacks w.bench.catalog w.records := by
  rintro ⟨target, first, rest, bound, draft, bindings, row, mem, c, binds, e, absent⟩
  rcases rendered_eq_ok rendered with ⟨_, empty, -, -⟩ | ⟨s, -, made, -⟩
  · cases draft.symm.trans empty
  · have same := Workbench.bindings_of_render draft made
    obtain rfl := Except.ok.inj (bindings.symm.trans same)
    have mem' : row ∈ b.records := by
      show row ∈ (Workbench.Product.batch b).records
      rw [(Workbench.render_eq_ok made).1, draft]
      exact mem
    -- the record has a statement, so all that is bound could be read from it
    obtain ⟨_, -, read⟩ := exists_result_of_mem h mem'
    obtain ⟨r, read, -⟩ := bind_eq_ok_iff.mp read
    obtain ⟨parameters, read, -⟩ := bind_eq_ok_iff.mp read
    obtain ⟨v, _, present, -⟩ := converts_of_bindRecord read binds
    cases absent.symm.trans present

end BoundSql
