import BoundSql.Proofs.Binding
import BoundSql.Proofs.Builder

/-!
# Layouts of record inserts

The three inserts of records have one layout: a table, and columns in order, each with the mapping
that takes effect for it.  Every record has one tuple of value expressions, and it has a statement
in which the tuple stands.

What differs between the three is small, and it is all in four functions: which mappings take effect
(`RecordInsert.effective`), how the parameter of a record's property is called
(`RecordInsert.parameter`), in which statement a record stands, and as which of its tuples
(`RecordInsert.statementOf`, `RecordInsert.tupleOf`).  Everything that is said of inserts of records
afterwards is said of `RecordInsert`, and the three kinds are told apart in this module only.

The first record stands for all of them when mappings are derived from the type of the records, and
when it is decided which mappings there are.  So a layout is one for the whole insert, also where
the records are of different types; a record that does not fit into it is an error, and not a
different layout.

## Two steps

First every kind of insert is shown to be rendered by its layout (`InsertRow.render_eq_ok` and its
like).  Then a record is placed: `RecordInsert.Placed` says all that is known of a record in the
statements that are executed, and `RecordInsert.placed_of_statements` that every record has such a
place.  The theorems about single columns take it from there, and do not look at the kinds of
inserts again.

* `Layout`, `Layout.tuple`, `Layout.text` : the layout, the tuple of a record, and the text.
* `RecordInsert` : the inserts of records, with `RecordInsert.layout` and `RecordInsert.parameter`,
  the name of a record's parameter for a property.
* `RecordInsert.placed_of_statements` : where every record stands in the statements that are
  executed, and what is bound for it.
-/

namespace BoundSql

/-! ### Layouts -/

/-- A table and the columns that are filled, each with the mapping that says from where. -/
structure Layout where
  table : Table
  cells : List (Column × Mapping)

namespace Layout

/-- The layout of mappings, all of whose columns are columns.  A mapping can be given an expression
that is none, and then there is no layout and nothing is rendered. -/
def ofMappings (table : Table) (mappings : List Mapping) : Except Error Layout := do
  let columns ← mappings.mapM Mapping.named
  return ⟨table, columns.zip mappings⟩

/-- The names of the columns, in order. -/
def names (l : Layout) : List String := l.cells.map fun cell => cell.1.name

/-- The columns that properties are bound for, in order.  A column that is filled from a constant
has a cell and no binding. -/
def bindings (l : Layout) : List Binding := l.cells.filterMap fun cell => cell.2.binding? cell.1

/-- The value expressions of one record, whose parameters are named in the given way. -/
def tuple (parameter : String → String) (l : Layout) : Except Error (List Fragment) :=
  l.cells.mapM fun cell => rowExpression parameter cell.2

/-- The text of an insert of tuples. -/
def text (dialect : Dialect) (l : Layout) (tuples : List (List Fragment)) : String :=
  ((insertFragment l.table.fragment l.names tuples).render dialect).sql

variable {table : Table} {mappings : List Mapping} {columns : List Column}

/-- The columns of mappings are found one by one. -/
theorem ofMappings_of_named (h : mappings.mapM Mapping.named = .ok columns) :
    ofMappings table mappings = .ok ⟨table, columns.zip mappings⟩ := by
  rw [ofMappings, h]
  rfl

/-- There is one column for each mapping, so that zipping them loses none. -/
theorem length_eq_of_named (h : mappings.mapM Mapping.named = .ok columns) :
    mappings.length = columns.length :=
  (mapM_eq_ok_iff.mp h).length_eq

/-- The column of a cell is the one that its mapping names. -/
theorem named_of_mem_zip (h : mappings.mapM Mapping.named = .ok columns) {column : Column}
    {m : Mapping} (mem : (column, m) ∈ columns.zip mappings) :
    m ∈ mappings ∧ m.named = .ok column := by
  obtain ⟨k, at?⟩ := List.mem_iff_getElem?.mp mem
  obtain ⟨hcolumn, hm⟩ := List.getElem?_zip_eq_some.mp at?
  obtain ⟨column', found, named⟩ := getElem?_of_mapM h hm
  obtain rfl := Option.some.inj (hcolumn.symm.trans found)
  exact ⟨List.mem_of_getElem? hm, named⟩

/-- Every mapping has a cell. -/
theorem exists_mem_zip (h : mappings.mapM Mapping.named = .ok columns) {m : Mapping}
    (mem : m ∈ mappings) : ∃ column, (column, m) ∈ columns.zip mappings := by
  obtain ⟨k, at?⟩ := List.mem_iff_getElem?.mp mem
  obtain ⟨column, found, -⟩ := getElem?_of_mapM h at?
  exact ⟨column, List.mem_of_getElem? (List.getElem?_zip_eq_some.mpr ⟨found, at?⟩)⟩

theorem names_zip (same : mappings.length = columns.length) :
    names ⟨table, columns.zip mappings⟩ = columns.map (·.name) := by
  show (columns.zip mappings).map (Column.name ∘ Prod.fst) = _
  rw [← List.map_map, List.map_fst_zip (Nat.le_of_eq same.symm)]

theorem tuple_zip (same : mappings.length = columns.length) (parameter : String → String) :
    tuple parameter ⟨table, columns.zip mappings⟩ = mappings.mapM (rowExpression parameter) := by
  show (columns.zip mappings).mapM (rowExpression parameter ∘ Prod.snd) = _
  rw [← List.mapM_map, List.map_snd_zip (Nat.le_of_eq same)]

end Layout

/-! ### The inserts of records -/

/-- An insert of records. -/
inductive RecordInsert where
  | row (i : InsertRow Record)
  | batch (i : InsertBatch Record)
  | multiple (i : InsertMultiple Record)

namespace RecordInsert

/-- The builder that the insert is. -/
def builder : RecordInsert → Builder
  | row i => .insertRow i
  | batch i => .insertBatch i
  | multiple i => .insertMultiple i

/-- The records that are inserted. -/
def records : RecordInsert → List Record
  | row i => [i.row]
  | batch i => i.records
  | multiple i => i.records

/-- The table and the mappings that take effect.  The first record stands for all; the insert of
one record drops the mappings that count only when their property is present. -/
def effective (catalog : Catalog) : RecordInsert → Except Error (Table × List Mapping)
  | row i => do
    let (table, mappings) ← i.target.resolve .insert catalog i.row
    let kept ← mappings.filterM fun m => (!·) <$> InsertRow.drops i.row m
    return (table, kept)
  | batch i =>
    match i.records with
    | [] => fail .noRecords .insertBatch
    | sample :: _ => i.target.resolve .insertBatch catalog sample
  | multiple i =>
    match i.records with
    | [] => fail .noRecords .insertMultiple
    | sample :: _ => i.target.resolve .insertMultiple catalog sample

/-- The layout of the insert. -/
def layout (catalog : Catalog) (b : RecordInsert) : Except Error Layout := do
  let (table, mappings) ← b.effective catalog
  Layout.ofMappings table mappings

/-- The name of the parameter for a property of the record at a position. -/
def parameter : RecordInsert → Nat → String → String
  | multiple _, k => rowSlotName k
  | row _, _ | batch _, _ => id

/-- The tuples of every statement. -/
def tuples (l : Layout) : RecordInsert → Except Error (List (List Fragment))
  | multiple i => (List.range i.records.length).mapM fun k : Nat => l.tuple (rowSlotName k)
  | row _ | batch _ => List.singleton <$> l.tuple id

/-- The position of the statement in which the record at a position stands. -/
def statementOf : RecordInsert → Nat → Nat
  | batch _, k => k
  | row _, _ | multiple _, _ => 0

/-- The position, among the tuples of its statement, of the tuple of a record. -/
def tupleOf : RecordInsert → Nat → Nat
  | multiple _, k => k
  | row _, _ | batch _, _ => 0

end RecordInsert

/-! ### What is rendered -/

variable {catalog : Catalog} {dialect : Dialect}

/-- The insert of a record is rendered by its layout. -/
theorem InsertRow.render_eq_ok {i : InsertRow Record} {r : Rendered}
    (h : i.render catalog dialect = .ok r) :
    ∃ l tuple, (RecordInsert.row i).layout catalog = .ok l ∧ l.tuple id = .ok tuple ∧
      r.sql = l.text dialect [tuple] ∧
      bindRecord .insert id i.row l.bindings = .ok r.parameters := by
  obtain ⟨⟨table, mappings⟩, resolved, h⟩ := bind_eq_ok_iff.mp h
  obtain ⟨kept, hkept, h⟩ := bind_eq_ok_iff.mp h
  dsimp only at h
  split at h
  case isTrue => exact absurd h fail_ne_ok
  case isFalse =>
    obtain ⟨columns, named, h⟩ := bind_eq_ok_iff.mp h
    obtain ⟨tuple, written, h⟩ := bind_eq_ok_iff.mp h
    obtain ⟨parameters, bound, h⟩ := bind_eq_ok_iff.mp h
    have same := Layout.length_eq_of_named named
    refine ⟨⟨table, columns.zip kept⟩, tuple, ?_, ?_, ?_, ?_⟩
    · refine bind_eq_ok_iff.mpr ⟨(table, kept), ?_, Layout.ofMappings_of_named named⟩
      exact bind_eq_ok_iff.mpr ⟨_, resolved, bind_eq_ok_iff.mpr ⟨kept, hkept, rfl⟩⟩
    · rw [Layout.tuple_zip same, written]
    · rw [← pure_eq_ok_iff.mp h, Layout.text, Layout.names_zip same]
    · rw [← pure_eq_ok_iff.mp h]
      exact bound

/-- A batch with records is rendered by its layout. -/
theorem InsertBatch.render_eq_ok {i : InsertBatch Record} {b : Batch Record}
    (h : i.render catalog dialect = .ok b) (present : i.records ≠ []) :
    ∃ l tuple, (RecordInsert.batch i).layout catalog = .ok l ∧ l.tuple id = .ok tuple ∧
      b = ⟨l.text dialect [tuple], i.records, l.bindings⟩ := by
  obtain ⟨target, _ | ⟨sample, rest⟩⟩ := i
  · exact absurd rfl present
  · obtain ⟨⟨table, mappings⟩, resolved, h⟩ := bind_eq_ok_iff.mp h
    obtain ⟨columns, named, h⟩ := bind_eq_ok_iff.mp h
    obtain ⟨tuple, written, h⟩ := bind_eq_ok_iff.mp h
    have same := Layout.length_eq_of_named named
    refine ⟨⟨table, columns.zip mappings⟩, tuple, ?_, ?_, ?_⟩
    · exact bind_eq_ok_iff.mpr ⟨_, resolved, Layout.ofMappings_of_named named⟩
    · rw [Layout.tuple_zip same, written]
    · rw [← pure_eq_ok_iff.mp h, Layout.text, Layout.names_zip same]
      rfl

/-- A batch is executed for the records that it was rendered from. -/
theorem InsertBatch.records_of_render {i : InsertBatch Record} {b : Batch Record}
    (h : i.render catalog dialect = .ok b) : b.records = i.records := by
  by_cases present : i.records = []
  · obtain ⟨target, records⟩ := i
    obtain rfl : records = [] := present
    simp only [render, settled?, List.isEmpty_nil, if_true, Option.getD_some] at h
    split at h
    · exact absurd h fail_ne_ok
    · rw [← Except.ok.inj h]
  · obtain ⟨l, tuple, -, -, rfl⟩ := render_eq_ok h present
    rfl

/-- The insert of many records is rendered by its layout. -/
theorem InsertMultiple.render_eq_ok {i : InsertMultiple Record} {r : Rendered}
    (h : i.render catalog dialect = .ok r) :
    ∃ l tuples, (RecordInsert.multiple i).layout catalog = .ok l ∧
      (RecordInsert.multiple i).tuples l = .ok tuples ∧ r.sql = l.text dialect tuples ∧
      i.bindings catalog = .ok l.bindings := by
  obtain ⟨target, _ | ⟨sample, rest⟩⟩ := i
  · exact absurd h fail_ne_ok
  · obtain ⟨⟨table, mappings⟩, resolved, h⟩ := bind_eq_ok_iff.mp h
    obtain ⟨tuples, written, h⟩ := bind_eq_ok_iff.mp h
    obtain ⟨columns, named, h⟩ := bind_eq_ok_iff.mp h
    obtain ⟨rows, -, h⟩ := bind_eq_ok_iff.mp h
    have same := Layout.length_eq_of_named named
    refine ⟨⟨table, columns.zip mappings⟩, tuples, ?_, ?_, ?_, ?_⟩
    · exact bind_eq_ok_iff.mpr ⟨_, resolved, Layout.ofMappings_of_named named⟩
    · simp only [RecordInsert.tuples, Layout.tuple_zip same]
      exact written
    · rw [← pure_eq_ok_iff.mp h, Layout.text, Layout.names_zip same]
    · exact bind_eq_ok_iff.mpr ⟨_, resolved, bind_eq_ok_iff.mpr ⟨columns, named, rfl⟩⟩

/-- The text of a statement or of a batch. -/
def Product.text : Product → String
  | statement r => r.sql
  | batch b => b.sql

namespace RecordInsert

/-- A product of the insert has the text of its layout.  An insert without records has no layout,
which is why there has to be one. -/
theorem exists_layout {b : RecordInsert} {product : Product} (present : b.records ≠ [])
    (h : b.builder.render catalog dialect = .ok product) :
    ∃ l tuples, b.layout catalog = .ok l ∧ b.tuples l = .ok tuples ∧
      product.text = l.text dialect tuples := by
  cases b with
  | row i =>
      obtain ⟨r, hr, rfl⟩ := map_eq_ok_iff.mp h
      obtain ⟨l, tuple, layout, written, text, -⟩ := InsertRow.render_eq_ok hr
      exact ⟨l, [tuple], layout, map_eq_ok_iff.mpr ⟨tuple, written, rfl⟩, text⟩
  | batch i =>
      obtain ⟨batch, hbatch, rfl⟩ := map_eq_ok_iff.mp h
      obtain ⟨l, tuple, layout, written, rfl⟩ := InsertBatch.render_eq_ok hbatch present
      exact ⟨l, [tuple], layout, map_eq_ok_iff.mpr ⟨tuple, written, rfl⟩, rfl⟩
  | multiple i =>
      obtain ⟨r, hr, rfl⟩ := map_eq_ok_iff.mp h
      obtain ⟨l, tuples, layout, written, text, -⟩ := InsertMultiple.render_eq_ok hr
      exact ⟨l, tuples, layout, written, text⟩

end RecordInsert

/-! ### Where records stand -/

namespace RecordInsert

/-- Where a record stands in the statements that are executed, and what is bound for it: its
statement is that of the layout, its tuple is that of its parameters, every column converts the
value of its property, and the last column of a property says what its parameter holds. -/
structure Placed (catalog : Catalog) (dialect : Dialect) (b : RecordInsert)
    (statements : List Rendered) (k : Nat) (record : Record) (l : Layout) (s : Rendered)
    (tuple : List Fragment) : Prop where
  layout_eq : b.layout catalog = .ok l
  statement_eq : statements[b.statementOf k]? = some s
  text_eq : ∃ tuples, b.tuples l = .ok tuples ∧ s.sql = l.text dialect tuples ∧
    tuples[b.tupleOf k]? = some tuple
  tuple_eq : l.tuple (b.parameter k) = .ok tuple
  converts : ∀ binding ∈ l.bindings, ∃ w v, record.get binding.property = .ok w ∧
    binding.column.convert w = .ok v
  bound_eq : ∀ {property : String} {last : Binding} {w v : Value},
    Binding.last? property l.bindings = some last → record.get property = .ok w →
    last.column.convert w = .ok v → Assoc.get? (b.parameter k property) s.parameters = some v

/-- **Every record stands in a statement**, with its own parameters.  The success of the whole is
assumed, and the place is a conclusion: neither the statement nor the tuple is given. -/
theorem placed_of_statements {b : RecordInsert} {statements : List Rendered}
    (h : b.builder.statements catalog dialect = .ok statements) {k : Nat} {record : Record}
    (at? : b.records[k]? = some record) :
    ∃ l s tuple, b.Placed catalog dialect statements k record l s tuple := by
  obtain ⟨product, rendered, h⟩ := bind_eq_ok_iff.mp h
  cases b with
  | row i =>
      obtain ⟨r, hr, rfl⟩ := map_eq_ok_iff.mp rendered
      obtain rfl := Except.ok.inj h
      obtain ⟨l, tuple, layout, written, text, bound⟩ := InsertRow.render_eq_ok hr
      obtain ⟨rfl, rfl⟩ : k = 0 ∧ i.row = record := by
        simpa [records, List.getElem?_singleton] using at?
      refine ⟨l, r, tuple, layout, rfl, ⟨[tuple], ?_, text, rfl⟩, written,
        fun _ mem => converts_of_bindRecord bound mem, fun last read converted => ?_⟩
      · exact map_eq_ok_iff.mpr ⟨tuple, written, rfl⟩
      · exact (get?_bindRecord Function.injective_id bound).mpr
          ⟨_, _, _, rfl, last, read, converted⟩
  | batch i =>
      obtain ⟨batch, hbatch, rfl⟩ := map_eq_ok_iff.mp rendered
      have present : i.records ≠ [] := List.ne_nil_of_mem (List.mem_of_getElem? at?)
      obtain ⟨l, tuple, layout, written, rfl⟩ := InsertBatch.render_eq_ok hbatch present
      obtain ⟨s, hs, made⟩ := getElem?_of_mapM h at?
      obtain ⟨parameters, bound, made⟩ := bind_eq_ok_iff.mp made
      obtain rfl := pure_eq_ok_iff.mp made
      refine ⟨l, _, tuple, layout, hs, ⟨[tuple], ?_, rfl, rfl⟩, written,
        fun _ mem => converts_of_bindRecord bound mem, fun last read converted => ?_⟩
      · exact map_eq_ok_iff.mpr ⟨tuple, written, rfl⟩
      · exact (get?_bindRecord Function.injective_id bound).mpr
          ⟨_, _, _, rfl, last, read, converted⟩
  | multiple i =>
      obtain ⟨r, hr, rfl⟩ := map_eq_ok_iff.mp rendered
      obtain rfl := Except.ok.inj h
      obtain ⟨l, tuples, layout, written, text, bound⟩ := InsertMultiple.render_eq_ok hr
      have at? : i.records[k]? = some record := at?
      have hk : k < i.records.length := (List.getElem?_eq_some_iff.mp at?).1
      obtain ⟨tuple, htuple, own⟩ := getElem?_of_mapM written (List.getElem?_range hk)
      refine ⟨l, r, tuple, layout, rfl, ⟨tuples, written, text, htuple⟩, own,
        fun _ mem => InsertMultiple.converts_of_render hr bound at? mem,
        fun {property last w v} found read converted => ?_⟩
      -- the parameter of a row slot holds the value of the slot
      refine (InsertMultiple.get?_parameters hr bound).mpr ⟨⟨k, property⟩, rfl, ?_⟩
      rw [RowSlot.converted?, found, RowSlot.value_of_getElem? at?, read]
      exact congrArg some converted

end RecordInsert

end BoundSql
