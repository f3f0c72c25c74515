import BoundSql.World

/-!
# Building and handing over

Every function here makes one kind of statement: it starts a draft, lets the caller complete it,
renders it in the default dialect and hands the statement to the caller's mapper, whose result
is the result of the whole.  When completing or rendering fails the mapper is not called.  If the
settings ask for it, the statement is logged before it is handed over.

## Main definitions

* `Completer`, `Mapper` : what the caller supplies.
* `Mapper.deliver` : the steps common to all functions.
* `Mapper.count` and the other functions, one for each kind of statement.
-/

namespace BoundSql

/-- Completes a draft. -/
abbrev Completer (τ : Type) := DraftId → Action (World τ) Unit

/-- Receives a rendered statement. -/
abbrev Mapper (τ α : Type) := Statement RecordId → Action (World τ) α

/-- Receives the text of an insert of many records, and the records. -/
abbrev KeyMapper (τ α : Type) := String → List RecordId → Action (World τ) α

namespace Mapper

variable {τ α : Type}

/-- Logs a rendered statement if the settings ask for it. -/
def announce (kind : StatementKind) (product : Workbench.Product) : Action (World τ) Unit := do
  let settings ← World.loadSettings
  if settings.logStatements then
    World.note (match product with
      | .statement s => statementRendered kind s.sql s.parameters.length
      | .batch b => statementRendered kind b.sql 0)

/-- Starts a draft, lets the caller complete it, renders it and announces the outcome. -/
def prepare (kind : StatementKind) (draft : Draft) (complete : Completer τ) :
    Action (World τ) Workbench.Product := do
  let id ← World.add draft
  complete id
  let product ← World.render id .default
  announce kind product
  return product

/-- Prepares a statement and hands it over. -/
def deliver (kind : StatementKind) (draft : Draft) (complete : Completer τ) (mapper : Mapper τ α) :
    Action (World τ) α := do
  match ← prepare kind draft complete with
  | .statement s => mapper s
  | .batch _ => throw .unexpectedDraft

/-- A select draft that draws from a source. -/
def fromSource (q : Select SourceRef) (source : SourceRef) : Draft := .select (q.draw source none)

/-- Counts the rows in which an expression is not null. -/
def count (mapper : Mapper τ α) (column : Expression) (source : SourceRef)
    (complete : Completer τ) : Action (World τ) α :=
  deliver .count (fromSource (.countColumn column) source) complete mapper

/-- Counts the different values of an expression. -/
def countDistinct (mapper : Mapper τ α) (column : Expression) (source : SourceRef)
    (complete : Completer τ) : Action (World τ) α :=
  deliver .countDistinct (fromSource (.countDistinct column) source) complete mapper

/-- Counts the rows of a source. -/
def countFrom (mapper : Mapper τ α) (source : SourceRef) (complete : Completer τ) :
    Action (World τ) α :=
  deliver .countFrom (.select (.countAll source)) complete mapper

/-- Deletes from a table. -/
def deleteFrom (mapper : Mapper τ α) (table : Table) (complete : Completer τ) :
    Action (World τ) α :=
  deliver .delete (.delete { table }) complete mapper

/-- Inserts one record. -/
def insert (mapper : Mapper τ α) (row : RecordId) (table : Table) (complete : Completer τ) :
    Action (World τ) α :=
  deliver .insert (.insertRow { target := { table? := some table }, row }) complete mapper

/-- Inserts every record by a statement of its own, in order; the results are listed.  All
statements are made before the first is handed over. -/
def insertBatch (mapper : Mapper τ α) (records : List RecordId) (table : Table)
    (complete : Completer τ) : Action (World τ) (List α) := do
  let draft := Draft.insertBatch { target := { table? := some table }, records }
  match ← prepare .insertBatch draft complete with
  | .batch b => do
    let statements ← World.statements b
    statements.mapM mapper
  | .statement _ => throw .unexpectedDraft

/-- Inserts one row of given values. -/
def insertInto (mapper : Mapper τ α) (table : Table) (complete : Completer τ) :
    Action (World τ) α :=
  deliver .insertInto (.insertValues { table }) complete mapper

/-- Inserts all records by one statement. -/
def insertMultiple (mapper : Mapper τ α) (records : List RecordId) (table : Table)
    (complete : Completer τ) : Action (World τ) α :=
  deliver .insertMultiple (.insertMultiple { target := { table? := some table }, records })
    complete mapper

/-- Inserts all records by one statement for a mapper that retrieves generated keys. -/
def insertMultipleWithGeneratedKeys (mapper : KeyMapper τ α) (records : List RecordId)
    (table : Table) (complete : Completer τ) : Action (World τ) α :=
  insertMultiple (fun s => mapper s.sql s.records) records table complete

/-- Inserts the rows of a select statement. -/
def insertSelect (mapper : Mapper τ α) (table : Table) (complete : Completer τ) :
    Action (World τ) α :=
  deliver .insertSelect (.insertSelect { table }) complete mapper

/-- Selects rows without duplicates. -/
def selectDistinct (mapper : Mapper τ α) (columns : List Expression) (source : SourceRef)
    (complete : Completer τ) : Action (World τ) α :=
  deliver .selectDistinct (fromSource (.distinctColumns columns) source) complete mapper

/-- Selects rows. -/
def selectList (mapper : Mapper τ α) (columns : List Expression) (source : SourceRef)
    (complete : Completer τ) : Action (World τ) α :=
  deliver .select (fromSource (.ofColumns columns) source) complete mapper

/-- Selects one row. -/
def selectOne (mapper : Mapper τ α) (columns : List Expression) (source : SourceRef)
    (complete : Completer τ) : Action (World τ) α :=
  deliver .select (fromSource (.ofColumns columns) source) complete mapper

/-- Updates a table. -/
def update (mapper : Mapper τ α) (table : Table) (complete : Completer τ) : Action (World τ) α :=
  deliver .update (.update { table }) complete mapper

end Mapper

end BoundSql
