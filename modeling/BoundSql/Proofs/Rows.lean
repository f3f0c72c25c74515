import BoundSql.Proofs.Rows.Renaming

/-!
# The rows of record inserts

Many records can be inserted by a batch, whose one text is executed once for each of them, by one
statement with a tuple for each, and by an insert of its own for each.  With mappings of the
caller's these are the same rows: all three follow one plan, and fail where it fails.

## The plan

What the three inserts have in common is computed once, for no insert in particular
(`RowTarget.plan`): the layout of table and columns, the value expressions of a record under the
names of its properties, and what is read from each record.  The statements are then made of the
plan without failing.  A batch and the inserts of their own execute the text with each row
(`RowPlan.statements`); the one statement has a tuple for each position, in which the parameters are
renamed (`RowPlan.merged`).  The kind of the insert is a parameter of the plan, as errors name it,
and makes no other difference (`RowTarget.plan_ofKind`).

## What is assumed, and why

Without mappings of the caller's the first record decides what is filled, and an insert of another
record alone would be decided by that one.  A mapping that counts only if its property is present
could be dropped for one record and kept for another.  Both are excluded, and so is an insert of no
records, which the batch allows and the one statement does not.

That renamed parameters of different rows do not get in each other's way is shown: a position and a
property are recovered from the name, since no property is empty.

* `RowPlan`, `RowTarget.plan` : the layout, the value expressions of a record, and what is read from
  every record.
* `InsertBatch.expand_eq_plan`, `InsertMultiple.render_eq_plan`, `InsertRow.render_eq_plan` : each
  of the inserts follows the plan.
* `RowTarget.same_rows` : the three inserts give every record the same row.
-/

namespace BoundSql

/-! ### Mappings that hold for every record -/

/-- The mapping gives its column a value in every row: a property of the record, or a literal. -/
def Mapping.isCertain (m : Mapping) : Bool :=
  match m.origin with
  | .property _ | .null | .constant _ | .stringConstant _ => true
  | _ => false

/-- Such a mapping is always written. -/
theorem Mapping.exists_rowExpression {m : Mapping} (certain : m.isCertain = true)
    (parameter : String → String) : ∃ text, rowExpression parameter m = .ok text := by
  obtain ⟨column, origin⟩ := m
  cases origin <;> cases certain <;> exact ⟨_, rfl⟩

/-- Such a mapping is never dropped. -/
theorem InsertRow.drops_of_certain {m : Mapping} (certain : m.isCertain = true)
    (record : Record) : drops record m = .ok false := by
  obtain ⟨column, origin⟩ := m
  cases origin <;> cases certain <;> rfl

/-- The value expressions of such mappings are always written. -/
theorem exists_rowExpressions {mappings : List Mapping}
    (certain : ∀ m ∈ mappings, m.isCertain = true) :
    ∃ tuple, mappings.mapM (rowExpression id) = .ok tuple := by
  induction mappings with
  | nil => exact ⟨_, rfl⟩
  | cons m mappings ih =>
      obtain ⟨first, hfirst⟩ := Mapping.exists_rowExpression (certain m List.mem_cons_self) id
      obtain ⟨rest, hrest⟩ := ih fun m mem => certain m (.tail _ mem)
      refine ⟨first :: rest, ?_⟩
      rw [List.mapM_cons, hfirst, hrest]
      rfl

/-- The tuples of many records are that of a single one under the names of each position. -/
theorem InsertMultiple.mapM_rowExpressions {mappings : List Mapping} {tuple : List Fragment}
    (written : mappings.mapM (rowExpression id) = .ok tuple) (positions : List Nat) :
    positions.mapM (rowExpressions mappings) =
      .ok (positions.map fun k : Nat => tuple.map (Fragment.rename (rowSlotName k))) := by
  induction positions with
  | nil => rfl
  | cons k positions ih =>
      rw [List.mapM_cons, ih, rowExpressions, mapM_rowExpression_rename, written]
      rfl

/-! ### The plan -/

/-- What the inserts of records have in common: the layout, the value expressions of a record,
whose parameters are named as the properties are, and the parameters read from every record. -/
structure RowPlan where
  layout : Layout
  tuple : List Fragment
  rows : List Parameters

namespace RowPlan

/-- A statement for every record, all of one text. -/
def statements (dialect : Dialect) (plan : RowPlan) : List Rendered :=
  plan.rows.map fun row => ⟨plan.layout.text dialect [plan.tuple], row⟩

/-- One statement for all records.  The parameters of a record are named by its position. -/
def merged (dialect : Dialect) (plan : RowPlan) : Rendered where
  sql := plan.layout.text dialect <| (List.range plan.rows.length).map fun k : Nat =>
    plan.tuple.map (Fragment.rename (rowSlotName k))
  parameters :=
    (plan.rows.zipIdx.map fun row => Assoc.rename (rowSlotName row.2) row.1).flatten

end RowPlan

namespace RowTarget

variable {t : RowTarget}

/-- The table and the mappings of the caller's. -/
def given (kind : StatementKind) (t : RowTarget) : Except Error (Table × List Mapping) := do
  let some table := t.table? | fail .missingTable kind
  accept kind table t.mappings

/-- With mappings of the caller's no record counts, and neither does the catalog. -/
theorem resolve_eq_given (mapped : t.mappings ≠ []) (kind : StatementKind) (catalog : Catalog)
    (sample : Record) : t.resolve kind catalog sample = t.given kind := by
  obtain ⟨table?, mappings⟩ := t
  cases table? with
  | none => rfl
  | some table =>
      rw [resolve_some, if_neg (by simpa using mapped)]
      rfl

/-- What is given is taken as it is. -/
theorem mappings_of_given {kind : StatementKind} {table : Table} {mappings : List Mapping}
    (h : t.given kind = .ok (table, mappings)) : mappings = t.mappings := by
  obtain ⟨table?, chosen⟩ := t
  cases table? with
  | none => cases h
  | some table' => exact (Prod.mk.inj (accept_eq_ok h).2.2).2

/-- What is wrong with the table or the mappings is the same for every kind of statement. -/
theorem given_ofKind (kind kind' : StatementKind) (t : RowTarget) :
    t.given kind' = ofKind kind' (t.given kind) := by
  obtain ⟨table?, mappings⟩ := t
  cases table? with
  | none => rfl
  | some table =>
      show accept kind' table mappings = ofKind kind' (accept kind table mappings)
      unfold accept
      cases mappings.isEmpty with
      | true => rfl
      | false =>
          cases mappings.findSome? problem? with
          | none => rfl
          | some problem => rfl

/-- The plan of an insert of records, with mappings of the caller's. -/
def plan (kind : StatementKind) (t : RowTarget) (records : List Record) :
    Except Error RowPlan := do
  let (table, mappings) ← t.given kind
  let layout ← Layout.ofMappings table mappings
  let tuple ← layout.tuple id
  let rows ← records.mapM fun record => bindRecord kind id record layout.bindings
  return ⟨layout, tuple, rows⟩

/-- **There is one plan** for every kind of statement: it succeeds for all kinds or for none, and
the errors differ in the kind only. -/
theorem plan_ofKind (kind kind' : StatementKind) (t : RowTarget) (records : List Record) :
    t.plan kind' records = ofKind kind' (t.plan kind records) := by
  unfold plan Layout.ofMappings Layout.tuple
  simp only [ofKind_bind, ofKind_mapM, ofKind_named, ofKind_rowExpression, ofKind_pure,
    given_ofKind kind kind', bindRecord_ofKind kind kind']

variable {kind : StatementKind} {records : List Record} {plan : RowPlan}

/-- What a plan is made of. -/
theorem plan_eq_ok (h : t.plan kind records = .ok plan) :
    ∃ table columns, t.given kind = .ok (table, t.mappings) ∧
      t.mappings.mapM Mapping.named = .ok columns ∧
      plan.layout = ⟨table, columns.zip t.mappings⟩ ∧
      t.mappings.mapM (rowExpression id) = .ok plan.tuple ∧
      records.mapM (fun record => bindRecord kind id record plan.layout.bindings) =
        .ok plan.rows := by
  obtain ⟨⟨table, mappings⟩, hgiven, h⟩ := bind_eq_ok_iff.mp h
  obtain rfl := mappings_of_given hgiven
  obtain ⟨layout, hlayout, h⟩ := bind_eq_ok_iff.mp h
  obtain ⟨tuple, written, h⟩ := bind_eq_ok_iff.mp h
  obtain ⟨rows, read, h⟩ := bind_eq_ok_iff.mp h
  obtain ⟨columns, named, hlayout⟩ := bind_eq_ok_iff.mp hlayout
  rw [← pure_eq_ok_iff.mp hlayout] at written read h
  rw [Layout.tuple_zip (Layout.length_eq_of_named named)] at written
  rw [← pure_eq_ok_iff.mp h]
  exact ⟨table, columns, hgiven, named, rfl, written, read⟩

/-- What is bound for the caller's mappings has a name, as it must be an identifier. -/
theorem property_ne_empty {t : RowTarget} (mapped : t.mappings ≠ []) {kind : StatementKind}
    {table : Table} (given : t.given kind = .ok (table, t.mappings)) {columns : List Column}
    (named : t.mappings.mapM Mapping.named = .ok columns) {b : Binding}
    (mem : b ∈ bindingsOf columns t.mappings) : b.property ≠ "" := by
  intro empty
  have bindings : t.bindings kind {} default = .ok (bindingsOf columns t.mappings) := by
    rw [RowTarget.bindings, resolve_eq_given mapped, given]
    exact bind_eq_ok_iff.mpr ⟨_, rfl, bind_eq_ok_iff.mpr ⟨columns, named, rfl⟩⟩
  have identifier := isIdentifier_property bindings mem
  rw [empty] at identifier
  exact absurd identifier (by decide)

end RowTarget

/-! ### Different names for different rows -/

/-- The names of a row are not empty, and different. -/
structure IsRow (row : Parameters) : Prop where
  different : (Assoc.keys row).Nodup
  named : ∀ name ∈ Assoc.keys row, name ≠ ""

/-- What is read from a record is a row. -/
theorem isRow_of_bindRecord {kind : StatementKind} {record : Record} {bindings : List Binding}
    (named : ∀ b ∈ bindings, b.property ≠ "") {row : Parameters}
    (h : bindRecord kind id record bindings = .ok row) : IsRow row := by
  constructor
  · obtain ⟨entries, -, rfl⟩ := bindRecord_eq_ok h
    have none : (Assoc.keys ([] : Parameters)).Nodup := List.nodup_nil
    exact Assoc.nodup_keys_putAll none entries
  · intro name key
    obtain ⟨b, hb, rfl⟩ := (mem_keys_bindRecord h).mp key
    exact named b hb

/-- Under the names of their positions rows have no name in common.  Within a row names are
different anyway, and names of two rows differ in their positions. -/
theorem nodup_keys_merged {rows : List Parameters} (each : ∀ row ∈ rows, IsRow row) :
    (Assoc.keys (rows.zipIdx.map fun row =>
      Assoc.rename (rowSlotName row.2) row.1).flatten).Nodup := by
  have shape : Assoc.keys (rows.zipIdx.map fun row =>
      Assoc.rename (rowSlotName row.2) row.1).flatten =
      (rows.zipIdx.map fun row => (Assoc.keys row.1).map (rowSlotName row.2)).flatten := by
    rw [Assoc.keys, List.map_flatten, List.map_map]
    congr 1
    exact List.map_congr_left fun row _ => Assoc.keys_rename _ _
  rw [shape, List.nodup_flatten]
  constructor
  · intro names mem
    obtain ⟨⟨row, k⟩, at?, rfl⟩ := List.mem_map.mp mem
    have mem := List.mem_of_getElem? (List.mem_zipIdx_iff_getElem?.mp at?)
    exact (each row mem).different.map (rowSlotName_injective k)
  · rw [List.pairwise_map, List.pairwise_iff_getElem]
    intro i j hi hj before name first second
    rw [List.getElem_zipIdx] at first second
    obtain ⟨p, hp, rfl⟩ := List.mem_map.mp first
    obtain ⟨q, hq, same⟩ := List.mem_map.mp second
    have named : ∀ {k : Nat} {p : String} (hk : k < rows.length), p ∈ Assoc.keys rows[k] →
        p ≠ "" := fun hk mem => (each _ (List.getElem_mem hk)).named _ mem
    -- a name says which row it is of
    rw [Nat.zero_add, Nat.zero_add] at same
    have slot : (⟨j, q⟩ : RowSlot) = ⟨i, p⟩ :=
      RowSlot.name_injective (named _ hq) (named _ hp) same
    have index : j = i := congrArg RowSlot.index slot
    omega

/-- The entries are those of the rows, under the names of their positions. -/
theorem mem_merged_iff {rows : List Parameters} {name : String} {v : Value} :
    (name, v) ∈ (rows.zipIdx.map fun row => Assoc.rename (rowSlotName row.2) row.1).flatten ↔
      ∃ (k : Nat) (row : Parameters) (p : String), rows[k]? = some row ∧ (p, v) ∈ row ∧
        name = rowSlotName k p := by
  rw [List.mem_flatten]
  constructor
  · rintro ⟨entries, mem, entry⟩
    obtain ⟨⟨row, k⟩, at?, rfl⟩ := List.mem_map.mp mem
    obtain ⟨⟨p, w⟩, hp, same⟩ := List.mem_map.mp entry
    obtain ⟨rfl, rfl⟩ := Prod.mk.inj same
    exact ⟨k, row, p, List.mem_zipIdx_iff_getElem?.mp at?, hp, rfl⟩
  · rintro ⟨k, row, p, at?, hp, rfl⟩
    exact ⟨_, List.mem_map.mpr ⟨(row, k), List.mem_zipIdx_iff_getElem?.mpr at?, rfl⟩,
      List.mem_map.mpr ⟨(p, v), hp, rfl⟩⟩

/-! ### Three ways to follow the plan -/

/-- A result is handed on. -/
theorem ok_bind {ε α β : Type} (a : α) (f : α → Except ε β) : (Except.ok a >>= f) = f a := rfl

/-- A list is worked off in order, each result changed by its position. -/
theorem mapM_zipIdx_eq {ε α β γ : Type} {g : α → Except ε β} {h : Nat → β → γ} (xs : List α)
    (first : Nat) :
    (xs.zipIdx first).mapM (fun x => h x.2 <$> g x.1) =
      (fun ys => (ys.zipIdx first).map fun y => h y.2 y.1) <$> xs.mapM g := by
  induction xs generalizing first with
  | nil => rfl
  | cons x xs ih =>
      rw [List.zipIdx_cons, List.mapM_cons, List.mapM_cons, ih]
      simp only [map_eq_pure_bind, bind_assoc, pure_bind, List.zipIdx_cons, List.map_cons]

/-- The text of a layout is that of an insert into its columns. -/
theorem Layout.text_zip {table : Table} {mappings : List Mapping} {columns : List Column}
    (same : mappings.length = columns.length) (dialect : Dialect) (tuples : List (List Fragment)) :
    text dialect ⟨table, columns.zip mappings⟩ tuples =
      ((insertFragment table.fragment (columns.map (·.name)) tuples).render dialect).sql := by
  rw [text, names_zip same]

section

variable {t : RowTarget} {records : List Record}

/-- A batch follows the plan: its statements are those of the plan.  Rendering makes the text, and
expanding reads the records; the plan does both. -/
theorem InsertBatch.expand_eq_plan (catalog : Catalog) (dialect : Dialect)
    (mapped : t.mappings ≠ []) (present : records ≠ []) :
    (render catalog ⟨t, records⟩ dialect >>= Batch.statements) =
      RowPlan.statements dialect <$> t.plan .insertBatch records := by
  obtain ⟨sample, rest, rfl⟩ := List.exists_cons_of_ne_nil present
  unfold render RowTarget.plan Layout.ofMappings
  simp only [RowTarget.resolve_eq_given mapped, map_eq_pure_bind, bind_assoc, pure_bind]
  refine bind_congr fun ⟨table, mappings⟩ => ?_
  cases named : mappings.mapM Mapping.named with
  | error e => rfl
  | ok columns =>
      have same := Layout.length_eq_of_named named
      simp only [ok_bind, Layout.tuple_zip same, RowPlan.statements, Layout.text_zip same]
      refine bind_congr fun tuple => ?_
      show List.mapM (fun record => (Rendered.mk _) <$> bindRecord .insertBatch id record _) _ = _
      rw [mapM_result_eq, map_eq_pure_bind]
      rfl

/-- An insert of many records follows the plan: it is the merged statement.  Its rows are read one
by one and written into one set of parameters, where none of them meets another. -/
theorem InsertMultiple.render_eq_plan (catalog : Catalog) (dialect : Dialect)
    (mapped : t.mappings ≠ [])
    (certain : ∀ m ∈ t.mappings, m.isCertain = true) (present : records ≠ []) :
    render catalog ⟨t, records⟩ dialect =
      RowPlan.merged dialect <$> t.plan .insertMultiple records := by
  obtain ⟨sample, rest, rfl⟩ := List.exists_cons_of_ne_nil present
  obtain ⟨tuple, written⟩ := exists_rowExpressions certain
  unfold render RowTarget.plan Layout.ofMappings
  simp only [RowTarget.resolve_eq_given mapped]
  cases given : t.given .insertMultiple with
  | error e => rfl
  | ok result =>
      obtain ⟨table, mappings⟩ := result
      obtain rfl := RowTarget.mappings_of_given given
      simp only [ok_bind, mapM_rowExpressions written]
      cases named : t.mappings.mapM Mapping.named with
      | error e => rfl
      | ok columns =>
          have same := Layout.length_eq_of_named named
          have shared := mapM_zipIdx_eq (h := fun k : Nat => Assoc.rename (rowSlotName k))
            (g := fun record => bindRecord .insertMultiple id record
              (bindingsOf columns t.mappings)) (sample :: rest) 0
          simp only [ok_bind, pure_bind, Layout.tuple_zip same, written,
            bindRecord_rename (rowSlotName_injective _), shared]
          -- the bindings of the layout are those of the mappings
          have bindings : Layout.bindings ⟨table, columns.zip t.mappings⟩ =
              bindingsOf columns t.mappings := rfl
          rw [bindings]
          cases read : (sample :: rest).mapM fun record =>
              bindRecord .insertMultiple id record (bindingsOf columns t.mappings) with
          | error e => rfl
          | ok rows =>
              have count : rows.length = (sample :: rest).length :=
                (mapM_eq_ok_iff.mp read).length_eq.symm
              have each : ∀ row ∈ rows, IsRow row := by
                intro row mem
                obtain ⟨record, -, bound⟩ := exists_of_mem_mapM read mem
                exact isRow_of_bindRecord
                  (fun b => RowTarget.property_ne_empty mapped given named) bound
              show Except.ok (Rendered.mk _ (List.foldl Assoc.putAll [] _)) = _
              rw [Assoc.foldl_putAll_of_nodup (nodup_keys_merged each), ← count,
                ← Layout.text_zip same]
              rfl

/-- None of the mappings is dropped. -/
theorem InsertRow.filterM_drops {mappings : List Mapping}
    (certain : ∀ m ∈ mappings, m.isCertain = true) (record : Record) :
    mappings.filterM (fun m => (!·) <$> drops record m) = .ok mappings := by
  have all : ∀ before, mappings.filterAuxM (fun m => (!·) <$> drops record m) before =
      .ok (mappings.reverse ++ before) := by
    induction mappings with
    | nil => exact fun before => rfl
    | cons m mappings ih =>
        intro before
        have rest := ih fun m mem => certain m (.tail _ mem)
        rw [List.filterAuxM, drops_of_certain (certain m List.mem_cons_self), List.reverse_cons,
          List.append_assoc]
        exact rest (m :: before)
  rw [List.filterM, all, List.append_nil]
  exact congrArg Except.ok mappings.reverse_reverse

/-- An insert of one record follows the plan for this record alone. -/
theorem InsertRow.render_eq_plan (catalog : Catalog) (dialect : Dialect)
    (mapped : t.mappings ≠ [])
    (certain : ∀ m ∈ t.mappings, m.isCertain = true) (record : Record) :
    List.singleton <$> render catalog ⟨t, record⟩ dialect =
      RowPlan.statements dialect <$> t.plan .insert [record] := by
  unfold render RowTarget.plan Layout.ofMappings
  cases given : t.given .insert with
  | error e =>
      rw [RowTarget.resolve_eq_given mapped, given]
      rfl
  | ok result =>
      obtain ⟨table, mappings⟩ := result
      obtain rfl := RowTarget.mappings_of_given given
      have nonempty : t.mappings.isEmpty = false := by simpa using mapped
      simp only [RowTarget.resolve_eq_given mapped, given, ok_bind, filterM_drops certain, nonempty]
      cases named : t.mappings.mapM Mapping.named with
      | error e => rfl
      | ok columns =>
          have same := Layout.length_eq_of_named named
          obtain ⟨tuple, written⟩ := exists_rowExpressions certain
          have bindings : Layout.bindings ⟨table, columns.zip t.mappings⟩ =
              bindingsOf columns t.mappings := rfl
          simp only [ok_bind, pure_bind, Layout.tuple_zip same, written, bindings,
            List.mapM_cons, List.mapM_nil, map_eq_pure_bind, bind_assoc, Bool.false_eq_true,
            if_false]
          refine bind_congr fun row => ?_
          rw [← Layout.text_zip same]
          rfl

end

/-! ### Main result -/

namespace RowTarget

variable {t : RowTarget} {catalog : Catalog} {dialect : Dialect} {records : List Record}
  {kind : StatementKind} {plan : RowPlan}

/-- The layout of a plan is that of the batch. -/
theorem layout_of_plan (mapped : t.mappings ≠ []) (present : records ≠ [])
    (h : t.plan .insertBatch records = .ok plan) :
    (RecordInsert.batch ⟨t, records⟩).layout catalog = .ok plan.layout ∧
      plan.layout.tuple id = .ok plan.tuple := by
  obtain ⟨sample, rest, rfl⟩ := List.exists_cons_of_ne_nil present
  obtain ⟨table, columns, given, named, layout, written, -⟩ := plan_eq_ok h
  constructor
  · refine bind_eq_ok_iff.mpr ⟨(table, t.mappings), ?_, ?_⟩
    · exact (resolve_eq_given mapped .insertBatch catalog sample).trans given
    · rw [layout]
      exact Layout.ofMappings_of_named named
  · rw [layout, Layout.tuple_zip (Layout.length_eq_of_named named), written]

/-- One record of a plan has the same plan on its own. -/
theorem plan_singleton (h : t.plan kind records = .ok plan) {k : Nat} {record : Record}
    (at? : records[k]? = some record) :
    ∃ row, plan.rows[k]? = some row ∧ t.plan kind [record] = .ok { plan with rows := [row] } := by
  obtain ⟨table, columns, given, named, layout, written, read⟩ := plan_eq_ok h
  obtain ⟨row, hrow, bound⟩ := getElem?_of_mapM read at?
  refine ⟨row, hrow, ?_⟩
  refine bind_eq_ok_iff.mpr ⟨_, given, bind_eq_ok_iff.mpr
    ⟨plan.layout, layout ▸ Layout.ofMappings_of_named named, ?_⟩⟩
  refine bind_eq_ok_iff.mpr ⟨plan.tuple, ?_, bind_eq_ok_iff.mpr ⟨[row], ?_, rfl⟩⟩
  · rw [layout, Layout.tuple_zip (Layout.length_eq_of_named named), written]
  · rw [List.mapM_cons, bound]
    rfl

/-- The rows of a plan have a name for every property that is mapped, and no other. -/
theorem mem_keys_row_iff (h : t.plan kind records = .ok plan) {row : Parameters}
    (mem : row ∈ plan.rows) {name : String} :
    name ∈ Assoc.keys row ↔ ∃ m ∈ t.mappings, m.property? = some name := by
  obtain ⟨table, columns, -, named, layout, -, read⟩ := plan_eq_ok h
  obtain ⟨record, -, bound⟩ := exists_of_mem_mapM read mem
  rw [mem_keys_bindRecord bound, layout]
  constructor
  · rintro ⟨b, hb, rfl⟩
    obtain ⟨⟨column, m⟩, cell, binds⟩ := List.mem_filterMap.mp hb
    exact ⟨m, (List.of_mem_zip cell).2, Mapping.property?_of_binding? binds⟩
  · rintro ⟨m, hm, reads⟩
    obtain ⟨column, cell⟩ := Layout.exists_mem_zip named hm
    obtain ⟨b, binds, -, property⟩ := Mapping.exists_binding reads column
    exact ⟨b, List.mem_filterMap.mpr ⟨_, cell, binds⟩, property.symm⟩

/-- The rows of a plan have different names, none of which is empty. -/
theorem isRow_of_plan (mapped : t.mappings ≠ []) (h : t.plan kind records = .ok plan)
    {row : Parameters} (mem : row ∈ plan.rows) : IsRow row := by
  obtain ⟨table, columns, given, named, layout, -, read⟩ := plan_eq_ok h
  obtain ⟨record, -, bound⟩ := exists_of_mem_mapM read mem
  refine isRow_of_bindRecord (fun b hb => ?_) bound
  rw [layout] at hb
  exact property_ne_empty mapped given named hb

/-- The same rows of records, in a batch, in one statement and in inserts of their own: the texts
have the same layout, in which a record's tuple differs from that of the batch only in the names
of its parameters; every record has the same parameters but for these names, and there are no
others. -/
structure SameRows (catalog : Catalog) (dialect : Dialect) (t : RowTarget)
    (records : List Record) (batch : Batch Record) (statements : List Rendered)
    (merged : Rendered) : Prop where
  text : ∃ l tuple, (RecordInsert.batch ⟨t, records⟩).layout catalog = .ok l ∧
    l.tuple id = .ok tuple ∧ batch.sql = l.text dialect [tuple] ∧
    merged.sql = l.text dialect ((List.range records.length).map fun k : Nat =>
      tuple.map (Fragment.rename (rowSlotName k)))
  length_eq : statements.length = records.length
  parameters : merged.parameters = (statements.zipIdx.map fun s =>
    Assoc.rename (rowSlotName s.2) s.1.parameters).flatten
  names : ∀ name, name ∈ Assoc.keys merged.parameters ↔
    ∃ k < records.length, ∃ m ∈ t.mappings, ∃ p, m.property? = some p ∧ name = rowSlotName k p
  value : ∀ (k : Nat) (s : Rendered), statements[k]? = some s →
    ∀ m ∈ t.mappings, ∀ p, m.property? = some p →
      ∃ v, Assoc.get? p s.parameters = some v ∧
        Assoc.get? (rowSlotName k p) merged.parameters = some v
  single : ∀ (k : Nat) (record : Record) (s : Rendered), records[k]? = some record →
    statements[k]? = some s →
      s.sql = batch.sql ∧ InsertRow.render catalog ⟨t, record⟩ dialect = .ok s

/-- What follows one plan has the same rows.  Each field is read off the plan, the value of a
parameter with the help of the names being different. -/
theorem sameRows_of_plan (mapped : t.mappings ≠ [])
    (certain : ∀ m ∈ t.mappings, m.isCertain = true) (present : records ≠ [])
    (h : t.plan .insertBatch records = .ok plan) {batch : Batch Record}
    (rendered : InsertBatch.render catalog ⟨t, records⟩ dialect = .ok batch) :
    t.SameRows catalog dialect records batch (plan.statements dialect) (plan.merged dialect) := by
  obtain ⟨layout, written⟩ := t.layout_of_plan mapped present h
  obtain ⟨-, -, -, -, -, -, read⟩ := plan_eq_ok h
  have count : plan.rows.length = records.length := (mapM_eq_ok_iff.mp read).length_eq.symm
  have text : batch.sql = plan.layout.text dialect [plan.tuple] := by
    obtain ⟨l, tuple, hl, htuple, rfl⟩ := InsertBatch.render_eq_ok rendered present
    obtain rfl := Except.ok.inj (layout.symm.trans hl)
    obtain rfl := Except.ok.inj (written.symm.trans htuple)
    rfl
  have rows : ∀ {k : Nat} {s : Rendered}, (plan.statements dialect)[k]? = some s →
      ∃ row, plan.rows[k]? = some row ∧
        s = ⟨plan.layout.text dialect [plan.tuple], row⟩ := by
    intro k s at?
    rw [RowPlan.statements, List.getElem?_map, Option.map_eq_some_iff] at at?
    obtain ⟨row, hrow, rfl⟩ := at?
    exact ⟨row, hrow, rfl⟩
  -- the names of the merged parameters differ, so each has the value of the one row it was made for
  have different := nodup_keys_merged fun row mem => isRow_of_plan mapped h mem
  refine ⟨⟨plan.layout, plan.tuple, layout, written, text, ?_⟩, ?_, ?_, ?_, ?_, ?_⟩
  · rw [← count]
    rfl
  · rw [RowPlan.statements, List.length_map, count]
  · rw [RowPlan.merged, RowPlan.statements, List.zipIdx_map, List.map_map]
    rfl
  · intro name
    constructor
    · intro key
      obtain ⟨⟨name, v⟩, mem, rfl⟩ := List.mem_map.mp key
      obtain ⟨k, row, p, at?, hp, rfl⟩ := mem_merged_iff.mp mem
      obtain ⟨m, hm, reads⟩ := (mem_keys_row_iff h (List.mem_of_getElem? at?)).mp
        (List.mem_map.mpr ⟨_, hp, rfl⟩)
      exact ⟨k, count ▸ (List.getElem?_eq_some_iff.mp at?).1, m, hm, p, reads, rfl⟩
    · rintro ⟨k, hk, m, hm, p, reads, rfl⟩
      have at? : plan.rows[k]? = some plan.rows[k] := List.getElem?_eq_getElem (count ▸ hk)
      have key := (mem_keys_row_iff h (List.mem_of_getElem? at?)).mpr ⟨m, hm, reads⟩
      obtain ⟨⟨p, v⟩, hp, rfl⟩ := List.mem_map.mp key
      exact List.mem_map.mpr ⟨_, mem_merged_iff.mpr ⟨k, _, _, at?, hp, rfl⟩, rfl⟩
  · intro k s at? m hm p reads
    obtain ⟨row, hrow, rfl⟩ := rows at?
    have key := (mem_keys_row_iff h (List.mem_of_getElem? hrow)).mpr ⟨m, hm, reads⟩
    obtain ⟨v, found⟩ := Assoc.mem_keys_iff.mp key
    exact ⟨v, found, Assoc.get?_of_mem different
      (mem_merged_iff.mpr ⟨k, row, p, hrow, Assoc.mem_of_get? found, rfl⟩)⟩
  · intro k record s at? hs
    obtain ⟨row, hrow, rfl⟩ := rows hs
    refine ⟨text.symm, ?_⟩
    obtain ⟨row', hrow', single⟩ := plan_singleton h at?
    obtain rfl := Option.some.inj (hrow.symm.trans hrow')
    have follows := InsertRow.render_eq_plan catalog dialect mapped certain record
    rw [plan_ofKind .insertBatch .insert, single] at follows
    obtain ⟨r, hr, same⟩ := map_eq_ok_iff.mp follows
    rw [hr, List.singleton_inj.mp same]

/-- **The same rows.**  With mappings of the caller's that hold for every record, a batch and an
insert of many records by one statement give every record the same row, and so does an insert of
the record alone; or else both fail, and in the same way but for the kind of statement. -/
theorem same_rows (catalog : Catalog) (dialect : Dialect) (t : RowTarget) (records : List Record)
    (mapped : t.mappings ≠ []) (certain : ∀ m ∈ t.mappings, m.isCertain = true)
    (present : records ≠ []) :
    (∃ batch statements merged,
      InsertBatch.render catalog ⟨t, records⟩ dialect = .ok batch ∧
      batch.statements = .ok statements ∧
      InsertMultiple.render catalog ⟨t, records⟩ dialect = .ok merged ∧
      t.SameRows catalog dialect records batch statements merged) ∨
    ∃ e : Error,
      (InsertBatch.render catalog ⟨t, records⟩ dialect >>= Batch.statements) =
        .error (e.withKind .insertBatch) ∧
      InsertMultiple.render catalog ⟨t, records⟩ dialect =
        .error (e.withKind .insertMultiple) := by
  have expanded := InsertBatch.expand_eq_plan catalog dialect mapped present
  have merged := InsertMultiple.render_eq_plan catalog dialect mapped certain present
  rw [plan_ofKind .insertBatch .insertMultiple] at merged
  cases planned : t.plan .insertBatch records with
  | ok plan =>
      rw [planned] at expanded merged
      obtain ⟨batch, hbatch, hstatements⟩ := bind_eq_ok_iff.mp expanded
      exact .inl ⟨batch, _, _, hbatch, hstatements, merged,
        sameRows_of_plan mapped certain present planned hbatch⟩
  | error e =>
      -- an error of the batch names the batch
      have own : Except.error e = ofKind .insertBatch (.error e : Except Error RowPlan) := by
        rw [← planned, ← plan_ofKind]
      rw [planned] at expanded merged
      refine .inr ⟨e, ?_, merged⟩
      rw [expanded, own]
      rfl

/-- Names, and a group that is the same for all. -/
def groupTarget : RowTarget :=
  let users : Table := ⟨0, "users", none⟩
  { table? := some users
    mappings := [⟨.column (.plain "name" users none), .property "name"⟩,
      ⟨.column (.plain "team" users none), .stringConstant "red"⟩] }

/-- Two records with a name. -/
def groupMembers : List Record :=
  [.mapping [(.text "name", .text "Ada")], .mapping [(.text "name", .text "Bob")]]

/-- The rows of two records: the tuples differ in the names of their parameters only. -/
theorem same_rows_sample :
    groupTarget.mappings ≠ [] ∧ (∀ m ∈ groupTarget.mappings, m.isCertain = true) ∧
    groupMembers ≠ [] ∧
    ∃ batch statements merged,
      groupTarget.SameRows {} .generic groupMembers batch statements merged ∧
      batch.sql = "INSERT INTO users (name, team) VALUES (:name, 'red')" ∧
      merged = ⟨"INSERT INTO users (name, team) " ++
        "VALUES (:records_0_name, 'red'), (:records_1_name, 'red')",
        [("records_0_name", .text "Ada"), ("records_1_name", .text "Bob")]⟩ := by
  have mapped : groupTarget.mappings ≠ [] := List.cons_ne_nil _ _
  have certain : ∀ m ∈ groupTarget.mappings, m.isCertain = true := by
    simp [groupTarget, Mapping.isCertain]
  have present : groupMembers ≠ [] := List.cons_ne_nil _ _
  refine ⟨mapped, certain, present, ?_⟩
  rcases same_rows {} .generic groupTarget groupMembers mapped certain present with
    ⟨batch, statements, merged, hbatch, -, hmerged, same⟩ | ⟨e, failed, -⟩
  · refine ⟨batch, statements, merged, same, ?_, ?_⟩
    · rw [← Except.ok.inj hbatch]
      rfl
    · rw [← Except.ok.inj hmerged]
      rfl
  · cases failed

end RowTarget

end BoundSql
