import BoundSql.Delete
import BoundSql.Insert.Query
import BoundSql.Insert.Row
import BoundSql.Insert.Values
import BoundSql.Select.Call
import BoundSql.Statement
import BoundSql.Update
import BoundSql.Executor

/-!
# The workbench

Statements under construction, their tables and their records lie on a workbench and are
referred to by their places.  What refers to a draft, a record or a table's columns sees their
present state: a select statement may be completed after it was used as the source of another,
and a record may be changed before the statement that inserts it is rendered.

## Main definitions

* `Draft` : a statement under construction.
* `Workbench` : the catalog, the drafts and the shared rendering contexts.
* `Workbench.query` : a select draft with all its sources taken from the workbench.
* `Workbench.call` : the effect of a call on a draft, or on one of its joins.
* `Workbench.render` : the statement a draft stands for at present.
-/

namespace BoundSql

/-- The place of a draft on the workbench. -/
abbrev DraftId := Nat

/-- A source of a select draft: a table, or another select draft.  A record can stand in its place,
or something else, named by its kind and by an attribute of tables that it lacks. -/
inductive SourceRef where
  | table (t : Table)
  | draft (id : DraftId)
  | record (id : RecordId)
  | foreign (owner lacking : String)

/-- What a record stands for as a source: its attributes `name` and `schema` name it.  A name has
to be a text; a schema that is none is left out. -/
def Source.ofRecord (r : Record) : Source :=
  match r.attribute? "name", r.attribute? "schema" with
  | none, _ => .foreign r.typeName "name"
  | some _, none => .foreign r.typeName "schema"
  | some (.text name), some (.text schema) => .named (some schema) name
  | some (.text name), some _ => .named none name
  | some v, some _ => .foreign v.typeName "replace"

/-- A statement under construction. -/
inductive Draft where
  | select (q : Select SourceRef)
  | delete (d : Delete)
  | update (u : Update)
  | insertRow (i : InsertRow RecordId)
  | insertBatch (i : InsertBatch RecordId)
  | insertMultiple (i : InsertMultiple RecordId)
  | insertValues (i : InsertValues)
  | insertSelect (i : InsertSelect DraftId)

instance : Inhabited Draft := ⟨.select (.ofColumns [])⟩

/-- The name of a draft's kind in messages. -/
def Draft.kindName : Draft → String
  | .select _ => "QueryExpressionDSL"
  | .delete _ => "DeleteDSL"
  | .update _ => "UpdateDSL"
  | .insertRow _ => "InsertDSL"
  | .insertBatch _ => "BatchInsertDSL"
  | .insertMultiple _ => "MultiRowInsertDSL"
  | .insertValues _ => "GeneralInsertDSL"
  | .insertSelect _ => "InsertSelectDSL"

/-- What calls are made on: a draft, or one of its joins by position. -/
structure Receiver where
  draft : DraftId
  join? : Option Nat := none
deriving DecidableEq, Repr

/-- A rendering context whose bindings are shared with the contexts it was derived from. -/
structure SharedContext where
  dialect : Dialect
  bindings : Nat
  scope : Scope := []

/-- Everything under construction. -/
structure Workbench where
  catalog : Catalog := {}
  drafts : List Draft := []
  bindings : List Bindings := []
  contexts : List SharedContext := []

namespace Workbench

/-! ### Drafts -/

/-- Puts a draft on the workbench. -/
def add (w : Workbench) (d : Draft) : DraftId × Workbench :=
  (w.drafts.length, { w with drafts := w.drafts ++ [d] })

/-- The draft at a place. -/
def draft (w : Workbench) (id : DraftId) : Draft := w.drafts[id]?.getD default

/-- The name of a receiver's kind in messages. -/
def kindName (w : Workbench) (r : Receiver) : String :=
  if r.join?.isSome then "JoinSpecification" else (w.draft r.draft).kindName

/-- Replaces the draft at a place. -/
def replace (w : Workbench) (id : DraftId) (d : Draft) : Workbench :=
  { w with drafts := w.drafts.set id d }

/-! ### Sources -/

/-- The select statement at a place.  A draft of another kind stands for one that selects
nothing. -/
def select (w : Workbench) (id : DraftId) : Select SourceRef :=
  match w.draft id with
  | .select q => q
  | _ => .ofColumns []

/-- A select draft with its sources taken from the workbench and the records, down to the given
depth.  The drafts in `opened` contain it, so they are not opened again. -/
def queryWithin (w : Workbench) (records : Records) :
    Nat → List DraftId → Select SourceRef → Query
  | 0, _, q => q.mapSources fun _ => .recurring
  | depth + 1, opened, q =>
    q.mapSources fun
      | .table t => .table t
      | .draft id =>
        if opened.contains id then .recurring
        else .subquery (w.queryWithin records depth (id :: opened) (w.select id))
      | .record id => .ofRecord (records.at id)
      | .foreign owner lacking => .foreign owner lacking

/-- The select draft at a place, with all its sources taken from the workbench and the records.
Drafts that do not contain each other are at most as deep as there are drafts. -/
def query (w : Workbench) (records : Records) (id : DraftId) : Query :=
  w.queryWithin records w.drafts.length [id] (w.select id)

/-! ### Calls -/

/-- A call on a draft. -/
inductive Call where
  | select (c : Select.Call SourceRef)
  | delete (c : Delete.Call)
  | update (c : Update.Call)
  | insertRecords (c : RowTarget.Call)
  | insertValues (c : InsertValues.Call)
  | addColumns (columns : List Expression)
  | beginSelect (columns : List Expression)
  | addMapping (m : Mapping)

/-- The draft with a further mapping of any kind, if it takes mappings at all. -/
def addMapping? (m : Mapping) : Draft → Option Draft
  | .update u => some (.update (u.add m))
  | .insertRow i => some (.insertRow { i with target := i.target.add m })
  | .insertBatch i => some (.insertBatch { i with target := i.target.add m })
  | .insertMultiple i => some (.insertMultiple { i with target := i.target.add m })
  | .insertValues i => some (.insertValues (i.add m))
  | _ => none

/-- The effect of a call that concerns one draft alone. -/
def callDraft? (c : Call) (d : Draft) : Option (Except Error Draft) :=
  match c, d with
  | .delete c, .delete d => some (.ok (.delete (d.call c)))
  | .update c, .update u => some (.ok (.update (u.call c)))
  | .insertRecords c, .insertRow i =>
    some ((i.target.call .insert c).map fun target => .insertRow { i with target })
  | .insertRecords c, .insertBatch i =>
    some ((i.target.call .insertBatch c).map fun target => .insertBatch { i with target })
  | .insertRecords c, .insertMultiple i =>
    some ((i.target.call .insertMultiple c).map fun target => .insertMultiple { i with target })
  | .insertValues c, .insertValues i => some (.ok (.insertValues (i.call c)))
  | .addColumns columns, .insertSelect i => some (.ok (.insertSelect (i.addColumns columns)))
  | .addMapping m, d => (addMapping? m d).map .ok
  | _, _ => none

/-- The effect of a call: what it is that the next call is made on, and the workbench after
it.  There is none when the receiver knows no such call. -/
def call? (w : Workbench) (r : Receiver) (c : Call) :
    Option (Except Error (Receiver × Workbench)) :=
  match c, r.join?, w.draft r.draft with
  | .select c, join?, .select q =>
    (Select.Chain.call? ⟨q, join?⟩ c).map fun chain =>
      .ok (⟨r.draft, chain.join?⟩, w.replace r.draft (.select chain.query))
  | .beginSelect columns, none, .insertSelect i =>
    let (id, w) := w.add (.select (.forInsert columns))
    some (.ok (⟨id, none⟩, w.replace r.draft (.insertSelect (i.setQuery id))))
  | c, none, d =>
    (callDraft? c d).map fun result => result.map fun d => (r, w.replace r.draft d)
  | _, some _, _ => none

/-! ### Rendering -/

/-- What a draft renders to: a statement, or a batch of statements. -/
inductive Product where
  | statement (s : Statement RecordId)
  | batch (b : Batch RecordId)

/-- The name of a product's kind in messages. -/
def Product.kindName : Product → String
  | .statement s => s.kindName
  | .batch _ => "BatchInsert"

/-- The outcome of rendering a draft when it does not depend on the dialect. -/
def settled? : Draft → Option (Except Error Product)
  | .insertBatch i => i.settled?.map fun r => r.map .batch
  | .insertMultiple i =>
    i.settled?.map fun r => r.map fun s => .statement (.insertMultiple s i.records)
  | .insertSelect i =>
    match i.query? with
    | none => some (fail .missingSelect .insertSelect)
    | some _ => none
  | _ => none

/-- The statement that the draft at a place stands for. -/
def render (w : Workbench) (records : Records) (id : DraftId) (dialect : Dialect) :
    Except Error Product :=
  match w.draft id with
  | .select _ => return .statement (.select (← (w.query records id).render dialect))
  | .delete d => return .statement (.delete (← d.render dialect))
  | .update u => return .statement (.update (← u.render dialect))
  | .insertRow i => do
    let r ← InsertRow.render w.catalog ⟨i.target, records.at i.row⟩ dialect
    return .statement (.insertRow r i.row)
  | .insertBatch i => do
    let b ← InsertBatch.render w.catalog ⟨i.target, i.records.map records.at⟩ dialect
    return .batch ⟨b.sql, i.records, b.bindings⟩
  | .insertMultiple i => do
    let r ← InsertMultiple.render w.catalog ⟨i.target, i.records.map records.at⟩ dialect
    return .statement (.insertMultiple r i.records)
  | .insertValues i => return .statement (.insertValues (← i.render dialect))
  | .insertSelect i => do
    let r ← InsertSelect.render ⟨i.table, i.columns, i.query?.map (w.query records)⟩ dialect
    return .statement (.insertSelect r)

/-! ### Shared contexts -/

/-- Opens a rendering context with bindings of its own. -/
def openContext (w : Workbench) (dialect : Dialect) (bindings : Bindings) : Nat × Workbench :=
  (w.contexts.length,
    { w with bindings := w.bindings ++ [bindings]
             contexts := w.contexts ++ [⟨dialect, w.bindings.length, []⟩] })

/-- The rendering context at a place. -/
def context? (w : Workbench) (id : Nat) : Option Context := do
  let shared ← w.contexts[id]?
  return ⟨shared.dialect, w.bindings[shared.bindings]?.getD {}, shared.scope⟩

/-- Puts a rendering context back; its bindings count for all contexts that share them. -/
def storeContext (w : Workbench) (id : Nat) (c : Context) : Workbench :=
  match w.contexts[id]? with
  | none => w
  | some shared =>
    { w with bindings := w.bindings.set shared.bindings c.bindings
             contexts := w.contexts.set id { shared with scope := c.scope } }

/-- Opens a child of a rendering context, which shares its bindings. -/
def openChild (w : Workbench) (id : Nat) : Nat × Workbench :=
  match w.contexts[id]? with
  | none => (id, w)
  | some shared =>
    (w.contexts.length, { w with contexts := w.contexts ++ [{ shared with scope := [] }] })

end Workbench

end BoundSql
