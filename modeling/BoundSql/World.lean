import BoundSql.Workbench

/-!
# The world of a program

A program that builds and runs statements has a workbench, records, executors, an environment
from which settings are read once, and a log.  Its own state, which the functions it supplies
may use, is kept beside.

## Main definitions

* `World` : the state, with the program's own part of the type `τ`.
* `World.loadSettings` : the settings, read once and then remembered.
* `World.dialect` : the dialect a caller asked for, or the one in the settings.
* `World.render` : the rendering of a draft.
* `World.atExecutor` : an action of one executor.
-/

namespace BoundSql

/-- The state of a program. -/
structure World (τ : Type) where
  bench : Workbench := {}
  records : Records := []
  executors : List Executor := []
  environment : Environment := []
  settings? : Option Settings := none
  log : List LogEvent := []
  caller : τ

/-- The dialect that a caller asks for. -/
inductive DialectChoice where
  /-- The dialect of the settings. -/
  | default
  /-- The dialect of a name. -/
  | named (name : String)
  /-- A dialect itself. -/
  | given (d : Dialect)

namespace World

variable {τ : Type}

/-- Reads the settings from the environment. -/
def readSettings (w : World τ) : Except Error Settings :=
  Settings.load { environment := w.environment }

/-- The settings: those remembered, or else those read now, which are remembered from then on. -/
def loadSettings : Action (World τ) Settings := do
  match ← Action.look World.settings? with
  | some settings => return settings
  | none =>
    let settings ← Action.ofExcept (← Action.look readSettings)
    Action.update fun w => { w with settings? := some settings }
    return settings

/-- Forgets the settings, so that they are read again. -/
def forgetSettings : Action (World τ) Unit := Action.update fun w => { w with settings? := none }

/-- The dialect that was asked for. -/
def dialect : DialectChoice → Action (World τ) Dialect
  | .given d => return d
  | .named name => Action.ofExcept (match Dialect.ofName? name with
    | some d => .ok d
    | none => .error (.unknownDialect name))
  | .default => Settings.dialect <$> loadSettings

/-- Renders a draft.  The dialect is settled first, unless the outcome does not depend on it. -/
def render (id : DraftId) (choice : DialectChoice) : Action (World τ) Workbench.Product := do
  let draft ← Action.look fun w => w.bench.draft id
  match Workbench.settled? draft with
  | some outcome => Action.ofExcept outcome
  | none =>
    let d ← dialect choice
    let product ← Action.look fun w => w.bench.render w.records id d
    Action.ofExcept product

/-- Sets a variable of the environment, or removes it. -/
def setVariable (name : String) (value? : Option String) : Action (World τ) Unit :=
  Action.update fun w =>
    { w with environment :=
        match value? with
        | some value => Assoc.put name value w.environment
        | none => Assoc.erase name w.environment }

/-- Logs an event. -/
def note (e : LogEvent) : Action (World τ) Unit :=
  Action.update fun w => { w with log := w.log ++ [e] }

/-- Takes the events logged so far out of the log. -/
def takeLog : Action (World τ) (List LogEvent) := do
  let log ← Action.look World.log
  Action.update fun w => { w with log := [] }
  return log

/-- Creates a table. -/
def createTable (name : String) (schema? : Option String) : Action (World τ) Table := do
  let created ← Action.look fun w => w.bench.catalog.create name schema?
  let (table, catalog) ← Action.ofExcept created
  Action.update fun w => { w with bench := { w.bench with catalog } }
  return table

/-- Declares a column on a table. -/
def declareColumn (table : Table) (name : String) (converter? : Option Converter) :
    Action (World τ) Column := do
  let (column, catalog) ← Action.look fun w => w.bench.catalog.declare table name converter?
  Action.update fun w => { w with bench := { w.bench with catalog } }
  return column

/-- Makes a call; the result is what the next call is made on.  There is none when the receiver
knows no such call. -/
def call? (r : Receiver) (c : Workbench.Call) : Action (World τ) (Option Receiver) := do
  match ← Action.look fun w => w.bench.call? r c with
  | none => return none
  | some outcome =>
    let (r, bench) ← Action.ofExcept outcome
    Action.update fun w => { w with bench }
    return some r

/-- Puts a draft on the workbench. -/
def add (d : Draft) : Action (World τ) DraftId := do
  let (id, bench) ← Action.look fun w => w.bench.add d
  Action.update fun w => { w with bench }
  return id

/-- Keeps a new record. -/
def addRecord (r : Record) : Action (World τ) RecordId := do
  let id ← Action.look fun w => w.records.length
  Action.update fun w => { w with records := w.records ++ [r] }
  return id

/-- Writes a property of a record. -/
def setProperty (id : RecordId) (name : String) (v : Value) : Action (World τ) Record := do
  let record ← Action.look fun w => w.records.at id
  let record ← Action.ofExcept (record.set name v)
  Action.update fun w => { w with records := w.records.set id record }
  return record

/-! ### Rendering contexts -/

/-- Opens a rendering context. -/
def openContext (d : Dialect) (bindings : Bindings) : Action (World τ) Nat := do
  let (id, bench) ← Action.look fun w => w.bench.openContext d bindings
  Action.update fun w => { w with bench }
  return id

/-- Opens a child of a rendering context. -/
def openChild (parent : Nat) : Action (World τ) Nat := do
  let (id, bench) ← Action.look fun w => w.bench.openChild parent
  Action.update fun w => { w with bench }
  return id

/-- Uses a rendering context; the result comes with the parameters bound after it. -/
def useContext {α : Type} (id : Nat) (f : Context → α × Context) :
    Action (World τ) (α × Parameters) := do
  let context? ← Action.look fun w => w.bench.context? id
  let (result, c) := f (context?.getD { dialect := .generic })
  Action.update fun w => { w with bench := w.bench.storeContext id c }
  return (result, c.bindings.parameters)

/-! ### Executors -/

/-- Sets an executor up on a connection with the given replies. -/
def addExecutor (replies : List Reply) (batch : Bool) : Action (World τ) Nat := do
  let id ← Action.look fun w => w.executors.length
  let executor : Executor := ⟨{ replies }, if batch then some [] else none⟩
  Action.update fun w => { w with executors := w.executors ++ [executor] }
  return id

/-- The executor at a place. -/
def executor (w : World τ) (id : Nat) : Executor := w.executors[id]?.getD {}

/-- The queue of an executor, if it is in batch mode. -/
def queue? (id : Nat) : Action (World τ) (Option (List Queued)) :=
  Action.look fun w => (w.executor id).queue?

/-- Takes what an executor sent so far out of its connection. -/
def takeSent (id : Nat) : Action (World τ) (List Dispatch) := do
  let e ← Action.look fun w => w.executor id
  Action.update fun w =>
    { w with executors :=
        w.executors.set id { e with connection := { e.connection with sent := [] } } }
  return e.connection.sent

/-- What an executor can touch. -/
def site (w : World τ) (id : Nat) : Site := ⟨w.executor id, w.records, w.log⟩

/-- The world after an executor has acted. -/
def withSite (w : World τ) (id : Nat) (s : Site) : World τ :=
  { w with executors := w.executors.set id s.executor, records := s.records, log := s.log }

/-- An action of one executor. -/
def atExecutor {α : Type} (id : Nat) (a : Action Site α) : Action (World τ) α :=
  Action.within (site · id) (withSite · id ·) a

/-- The statements of a batch, one for each record in order; every one keeps its record. -/
def statements (b : Batch RecordId) : Action (World τ) (List (Statement RecordId)) := do
  let records ← Action.look World.records
  Action.ofExcept (b.records.mapM fun id => do
    let r ← Batch.statement ⟨b.sql, [], b.bindings⟩ (records.at id)
    return .insertRow r id)

end World

end BoundSql
