import BoundSql.Mapping
import BoundSql.Placeholder
import BoundSql.Text.Identifier

/-!
# Inserts of records

Three inserts take their values from records: the insert of one record, the batch insert, whose
one text is executed once per record, and the insert of many records by one statement.  Columns
are mapped to properties of the records.  Without a mapping of the caller's, every declared
column whose name is a property of the first record is mapped to that property; a table without
declared columns takes every property into a column of the same name.

A property becomes the name of a parameter, so it must be an identifier.

## Main definitions

* `RowTarget` : the table and the mappings, common to the three.
* `RowTarget.resolve` : the mappings that take effect.
* `bindRecord` : the parameters read from one record.
* `InsertRow`, `InsertBatch`, `InsertMultiple` : the three inserts, over records of the type
  `ρ`, and their rendering when `ρ` is `Record`.
-/

namespace BoundSql

/-- A column that a record's property is bound for. -/
structure Binding where
  column : Column
  property : String
  whenPresent : Bool

/-- The kind of mapping that the binding comes from. -/
def Binding.kind (b : Binding) : MappingKind :=
  if b.whenPresent then .propertyWhenPresent else .property

/-- The binding of a mapping of the given column, if it reads a property. -/
def Mapping.binding? (column : Column) (m : Mapping) : Option Binding :=
  match m.origin with
  | .property name => some ⟨column, name, false⟩
  | .propertyWhenPresent name => some ⟨column, name, true⟩
  | _ => none

/-- The bindings of mappings whose columns are given in the same order. -/
def bindingsOf (columns : List Column) (mappings : List Mapping) : List Binding :=
  (columns.zip mappings).filterMap fun (column, m) => m.binding? column

/-- The table a record insert goes to and its column mappings. -/
structure RowTarget where
  table? : Option Table := none
  mappings : List Mapping := []

namespace RowTarget

/-- What a column can be mapped to by a call. -/
inductive Source where
  | property (name : String)
  | propertyWhenPresent (name : String)
  | null
  | constant (sql : String)
  | stringConstant (text : String)

/-- The origin of a column's value under such a mapping. -/
def Source.origin : Source → Origin
  | property name => .property name
  | propertyWhenPresent name => .propertyWhenPresent name
  | null => .null
  | constant sql => .constant sql
  | stringConstant text => .stringConstant text

/-- A call on a record insert. -/
inductive Call where
  | into (table : Table)
  | map (column : Expression) (source : Source)

/-- Adds a mapping of any kind. -/
def add (t : RowTarget) (m : Mapping) : RowTarget := { t with mappings := t.mappings ++ [m] }

/-- The effect of a call on an insert of the given kind.  Only the insert of one record can
leave a column out for want of a value. -/
def call (kind : StatementKind) (t : RowTarget) : Call → Except Error RowTarget
  | .into table => .ok { t with table? := some table }
  | .map column source =>
    match source with
    | .propertyWhenPresent _ =>
      if kind = .insert then .ok (t.add ⟨column, source.origin⟩)
      else fail .whenPresentForManyRows kind
    | _ => .ok (t.add ⟨column, source.origin⟩)

/-- The mappings that hold without a mapping of the caller's, for a record with these
properties. -/
def inferred (table : Table) (declared : Declared) (properties : List String) : List Mapping :=
  if declared.isEmpty then
    properties.map fun p => ⟨.column (.plain p table none), .property p⟩
  else
    (declared.filter fun c => properties.contains c.name).map fun c =>
      ⟨.column c, .property c.name⟩

/-- What is wrong with a mapping of a record insert. -/
def problem? (m : Mapping) : Option BuildProblem :=
  match m.value?, m.property? with
  | some _, _ => some .valueInRowInsert
  | none, some p => if Text.isIdentifier p then none else some (.invalidParameterName p)
  | none, none => none

/-- The table and the mappings that take effect, for a record that stands for all. -/
def resolve (kind : StatementKind) (catalog : Catalog) (t : RowTarget) (sample : Record) :
    Except Error (Table × List Mapping) := do
  let some table := t.table? | fail .missingTable kind
  let mappings ← if t.mappings.isEmpty then
      inferred table (catalog.columns table) <$> sample.properties
    else pure t.mappings
  if mappings.isEmpty then fail .noMappedColumns kind
  if let some problem := mappings.findSome? problem? then fail problem kind
  return (table, mappings)

end RowTarget

/-- The value expression of a mapping: a parameter for a property, and otherwise a literal. -/
def rowExpression (parameter : String → String) (m : Mapping) : Except Error Fragment :=
  match m.property? with
  | some p => .ok [.parameter (parameter p)]
  | none => m.literal

/-- The parameters read from one record, each value converted as its column demands.  A
parameter read twice holds what was read last. -/
def bindRecord (kind : StatementKind) (parameter : String → String) (record : Record)
    (bindings : List Binding) : Except Error Parameters := do
  let entries ← bindings.mapM fun b => do
    let v ← record.read b.property kind
    let v ← b.column.convert v
    return (parameter b.property, v)
  return Assoc.putAll [] entries

/-! ### One record -/

/-- The insert of one record. -/
structure InsertRow (ρ : Type) where
  target : RowTarget := {}
  row : ρ

namespace InsertRow

/-- Is the mapping dropped because it counts only when its property is present? -/
def drops (record : Record) (m : Mapping) : Except Error Bool :=
  match m.origin with
  | .propertyWhenPresent name => Value.isNull <$> record.read name .insert
  | _ => .ok false

/-- The text of the insert and its parameters, which are named as the properties are. -/
def render (catalog : Catalog) (i : InsertRow Record) (dialect : Dialect) :
    Except Error Rendered := do
  let (table, mappings) ← i.target.resolve .insert catalog i.row
  let mappings ← mappings.filterM fun m => (!·) <$> drops i.row m
  if mappings.isEmpty then fail .nothingToInsert .insert
  let columns ← mappings.mapM Mapping.named
  let values ← mappings.mapM (rowExpression id)
  let text := insertFragment table.fragment (columns.map (·.name)) [values]
  let parameters ← bindRecord .insert id i.row (bindingsOf columns mappings)
  return ⟨(text.render dialect).sql, parameters⟩

end InsertRow

/-! ### A batch -/

/-- The insert of several records by one text, executed once for each. -/
structure InsertBatch (ρ : Type) where
  target : RowTarget := {}
  records : List ρ

/-- A rendered batch: the text, the records, and the columns bound for each record. -/
structure Batch (ρ : Type) where
  sql : String
  records : List ρ
  bindings : List Binding

namespace InsertBatch

variable {ρ : Type}

/-- What becomes of a batch without records: nothing is to be executed, so no text is needed. -/
def settled? (i : InsertBatch ρ) : Option (Except Error (Batch ρ)) :=
  if i.records.isEmpty then
    some (if i.target.table?.isNone then fail .missingTable .insertBatch else .ok ⟨"", [], []⟩)
  else none

/-- The text of the batch, shared by all its records; the first of them stands for all. -/
def render (catalog : Catalog) (i : InsertBatch Record) (dialect : Dialect) :
    Except Error (Batch Record) :=
  match i.records with
  | [] => i.settled?.getD (.ok ⟨"", [], []⟩)
  | sample :: _ => do
    let (table, mappings) ← i.target.resolve .insertBatch catalog sample
    let columns ← mappings.mapM Mapping.named
    let values ← mappings.mapM (rowExpression id)
    let text := insertFragment table.fragment (columns.map (·.name)) [values]
    return ⟨(text.render dialect).sql, i.records, bindingsOf columns mappings⟩

end InsertBatch

namespace Batch

/-- The statement for one record of a batch. -/
def statement (b : Batch Record) (record : Record) : Except Error Rendered := do
  let parameters ← bindRecord .insertBatch id record b.bindings
  return ⟨b.sql, parameters⟩

/-- The statements of a batch, one for each record in order. -/
def statements (b : Batch Record) : Except Error (List Rendered) := b.records.mapM b.statement

end Batch

/-! ### Many records -/

/-- The insert of several records by one statement. -/
structure InsertMultiple (ρ : Type) where
  target : RowTarget := {}
  records : List ρ

namespace InsertMultiple

variable {ρ : Type}

/-- An insert without records is refused. -/
def settled? (i : InsertMultiple ρ) : Option (Except Error Rendered) :=
  if i.records.isEmpty then some (fail .noRecords .insertMultiple) else none

/-- The value expressions of the record at a position. -/
def rowExpressions (mappings : List Mapping) (index : Nat) : Except Error (List Fragment) :=
  mappings.mapM (rowExpression (rowSlotName index))

/-- The text of the insert and its parameters, which are named by the position of the record
and the property.  The first record stands for all where mappings are to be inferred. -/
def render (catalog : Catalog) (i : InsertMultiple Record) (dialect : Dialect) :
    Except Error Rendered :=
  match i.records with
  | [] => fail .noRecords .insertMultiple
  | sample :: _ => do
    let (table, mappings) ← i.target.resolve .insertMultiple catalog sample
    let rows ← (List.range i.records.length).mapM (rowExpressions mappings)
    let columns ← mappings.mapM Mapping.named
    let text := insertFragment table.fragment (columns.map (·.name)) rows
    let bindings := bindingsOf columns mappings
    let parameters ← i.records.zipIdx.mapM fun (record, index) =>
      bindRecord .insertMultiple (rowSlotName index) record bindings
    return ⟨(text.render dialect).sql, parameters.foldl Assoc.putAll []⟩

end InsertMultiple

end BoundSql
