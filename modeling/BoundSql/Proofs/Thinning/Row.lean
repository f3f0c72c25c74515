import BoundSql.Proofs.Binding

/-!
# Thinned inserts of one record

The insert of one record leaves a column out when its mapping counts only for a property that is
present and the record has the property with the value null.  Such a mapping may as well not be
there, provided that another one is: where none of the caller's mappings is left the columns are not
inferred, but the insert is refused.

The proviso is not a matter of proof.  An insert without mappings has its columns inferred from the
record, so leaving out the last mapping would fill all columns instead of none, and the theorem has
a second half that says what happens in this case (`RowTarget.Thins.render_eq_fail`).

A mapping that is left out has to name an identifier.  One that does not is an error whatever the
record holds, and leaving it out would lose the error.

Which mappings are kept depends on the record, and reading it can fail; so what is compared is the
whole computation that filters the mappings.  It is the same one on both sides, up to the question
whether a property is present, which has been answered by then (`InsertRow.finish_plain`).

* `RowTarget.Thins` : the mappings that mappings are thinned to, for one record.
* `RowTarget.Thins.render_eq` : a thinned insert is rendered as before.
* `RowTarget.Thins.render_eq_fail` : an insert of which nothing is left is refused.
-/

namespace BoundSql

/-- The second list is the first without some of the mappings whose property is null in the record,
and with some of those whose property is not null made plain. -/
inductive RowTarget.Thins (record : Record) : List Mapping → List Mapping → Prop
  | nil : Thins record [] []
  | drop {column : Expression} {p : String} {ms ms' : List Mapping} :
      Text.isIdentifier p = true → record.get p = .ok .null → Thins record ms ms' →
      Thins record (⟨column, .propertyWhenPresent p⟩ :: ms) ms'
  | keep {m : Mapping} {ms ms' : List Mapping} : Thins record ms ms' →
      Thins record (m :: ms) (m :: ms')
  | present {column : Expression} {p : String} {v : Value} {ms ms' : List Mapping} :
      record.get p = .ok v → v ≠ .null → Thins record ms ms' →
      Thins record (⟨column, .propertyWhenPresent p⟩ :: ms) (⟨column, .property p⟩ :: ms')

/-- The mapping without the question whether its property is present. -/
def Mapping.plain (m : Mapping) : Mapping :=
  match m.origin with
  | .propertyWhenPresent p => ⟨m.column, .property p⟩
  | _ => m

namespace InsertRow

/-- Is the mapping kept for the record? -/
def keeps (record : Record) (m : Mapping) : Except Error Bool := (!·) <$> drops record m

/-- The insert of a record once it is known which mappings are kept.  It may still be refused, when
none is. -/
def finish (row : Record) (dialect : Dialect) (table : Table) (kept : List Mapping) :
    Except Error Rendered := do
  if kept.isEmpty then fail .nothingToInsert .insert
  let columns ← kept.mapM Mapping.named
  let values ← kept.mapM (rowExpression id)
  let text := insertFragment table.fragment (columns.map (·.name)) [values]
  let parameters ← bindRecord .insert id row (bindingsOf columns kept)
  return ⟨(text.render dialect).sql, parameters⟩

/-- An insert with mappings of the caller's: they are accepted, those that count for the record are
kept, and these are written. -/
theorem render_eq_finish {table : Table} {mappings : List Mapping} (mapped : mappings ≠ [])
    (row : Record) (catalog : Catalog) (dialect : Dialect) :
    render catalog ⟨⟨some table, mappings⟩, row⟩ dialect = (do
      let (table, mappings) ← RowTarget.accept .insert table mappings
      let kept ← mappings.filterM (keeps row)
      finish row dialect table kept) := by
  unfold render
  rw [RowTarget.resolve_some, if_neg (by simpa using mapped), pure_bind]
  rfl

/-- What is bound does not depend on the question whether the property is present. -/
theorem bindRecord_plain (row : Record) (columns : List Column) (mappings : List Mapping) :
    bindRecord .insert id row (bindingsOf columns (mappings.map Mapping.plain)) =
      bindRecord .insert id row (bindingsOf columns mappings) := by
  have each (column : Column) (m : Mapping) :
      (m.plain.binding? column).map (fun b => (b.property, b.column)) =
        (m.binding? column).map fun b => (b.property, b.column) := by
    obtain ⟨e, origin⟩ := m
    cases origin <;> rfl
  have reads : (bindingsOf columns (mappings.map Mapping.plain)).map
      (fun b => (b.property, b.column)) =
        (bindingsOf columns mappings).map fun b => (b.property, b.column) := by
    rw [bindingsOf, bindingsOf, List.map_filterMap, List.map_filterMap, List.zip_map_right,
      List.filterMap_map]
    exact congrArg (List.filterMap · _) (funext fun cell => each cell.1 cell.2)
  -- only the property and the column of a binding are looked at
  have through (bindings : List Binding) : bindRecord .insert id row bindings = (do
      let entries ← (bindings.map fun b => (b.property, b.column)).mapM fun (property, column) => do
        let v ← row.read property .insert
        let v ← column.convert v
        return (property, v)
      return Assoc.putAll [] entries) := by
    rw [List.mapM_map]
    rfl
  rw [through, through, reads]

/-- The question whether a property is present is settled once the mappings are kept. -/
theorem finish_plain (row : Record) (dialect : Dialect) (table : Table) (kept : List Mapping) :
    finish row dialect table (kept.map Mapping.plain) = finish row dialect table kept := by
  have named (m : Mapping) : m.plain.named = m.named := by
    obtain ⟨e, origin⟩ := m
    cases origin <;> rfl
  have expression (m : Mapping) : rowExpression id m.plain = rowExpression id m := by
    obtain ⟨e, origin⟩ := m
    cases origin <;> rfl
  have columns : (kept.map Mapping.plain).mapM Mapping.named = kept.mapM Mapping.named := by
    rw [List.mapM_map]
    exact congrArg (List.mapM · kept) (funext named)
  have values : (kept.map Mapping.plain).mapM (rowExpression id) =
      kept.mapM (rowExpression id) := by
    rw [List.mapM_map]
    exact congrArg (List.mapM · kept) (funext expression)
  simp only [finish, List.isEmpty_map, columns, values, bindRecord_plain]

end InsertRow

/-- A property that the record has with the value null drops its mapping, any other keeps it. -/
theorem InsertRow.keeps_of_get {record : Record} {p : String} {v : Value}
    (found : record.get p = .ok v) (column : Expression) :
    keeps record ⟨column, .propertyWhenPresent p⟩ = .ok !v.isNull := by
  have read : record.read p .insert = .ok v := Record.read_eq_ok_iff.mpr found
  show (!·) <$> Value.isNull <$> record.read p .insert = _
  rw [read]
  rfl

namespace RowTarget.Thins

variable {row : Record} {ms ms' : List Mapping}

/-- The first of a list is kept before the rest. -/
theorem map_filterM_cons {α β : Type} {p : α → Except Error Bool} (f : α → β) (x : α)
    (xs : List α) :
    List.map f <$> (x :: xs).filterM p = (do
      let keeps ← p x
      (fun kept => if keeps then f x :: kept else kept) <$> List.map f <$> xs.filterM p) := by
  rw [filterM_cons, map_bind]
  refine bind_congr fun keeps => ?_
  cases xs.filterM p <;> cases keeps <;> rfl

/-- The mappings that are kept are the same, but for the question that has been answered.  By
induction over the relation, with one step of the search at a time. -/
theorem kept_eq (h : Thins row ms ms') :
    List.map Mapping.plain <$> ms'.filterM (InsertRow.keeps row) =
      List.map Mapping.plain <$> ms.filterM (InsertRow.keeps row) := by
  induction h with
  | nil => rfl
  | @drop column p ms ms' _ absent _ ih =>
      rw [map_filterM_cons, InsertRow.keeps_of_get absent, ih]
      exact (id_map _).symm
  | @keep m ms ms' _ ih => rw [map_filterM_cons, map_filterM_cons, ih]
  | @present column p v ms ms' found present _ ih =>
      have kept : v.isNull = false :=
        Bool.eq_false_iff.mpr fun null => present (Value.isNull_eq_true_iff.mp null)
      rw [map_filterM_cons, map_filterM_cons, ih, InsertRow.keeps_of_get found, kept]
      rfl

/-- What is wrong with the mappings is the same. -/
theorem problem?_eq (h : Thins row ms ms') : ms'.findSome? problem? = ms.findSome? problem? := by
  induction h with
  | nil => rfl
  | @drop column p ms ms' identifier _ _ ih =>
      have sound : problem? ⟨column, .propertyWhenPresent p⟩ = none := if_pos identifier
      rw [ih, List.findSome?_cons, sound]
  | keep _ ih => rw [List.findSome?_cons, List.findSome?_cons, ih]
  | @present column p v ms ms' _ _ _ ih =>
      have same : problem? ⟨column, .property p⟩ = problem? ⟨column, .propertyWhenPresent p⟩ := rfl
      rw [List.findSome?_cons, List.findSome?_cons, ih, same]

/-- Where a mapping is left there was one. -/
theorem ne_nil (h : Thins row ms ms') (left : ms' ≠ []) : ms ≠ [] := by
  rintro rfl
  cases h
  exact left rfl

/-- Thinned mappings are accepted as the mappings are, and refused for the same problem. -/
theorem accept_eq (h : Thins row ms ms') (left : ms' ≠ []) (table : Table) :
    accept .insert table ms' = (fun _ => (table, ms')) <$> accept .insert table ms := by
  have some_left : ms'.isEmpty = false := List.isEmpty_eq_false_iff.mpr left
  have some_given : ms.isEmpty = false := List.isEmpty_eq_false_iff.mpr (h.ne_nil left)
  rw [accept, accept, some_left, some_given, h.problem?_eq]
  cases ms.findSome? problem? <;> rfl

/-- What is accepted is the table and the mappings. -/
theorem accept_bind {α : Type} (table : Table) (mappings : List Mapping)
    (f : Table × List Mapping → Except Error α) :
    accept .insert table mappings >>= f =
      accept .insert table mappings >>= fun _ => f (table, mappings) := by
  cases h : accept .insert table mappings with
  | error e => rfl
  | ok result =>
      rw [(accept_eq_ok h).2.2]
      rfl

/-- **A thinned insert is rendered as before**, if a mapping is left. -/
theorem render_eq (h : Thins row ms ms') (left : ms' ≠ []) (table? : Option Table)
    (catalog : Catalog) (dialect : Dialect) :
    InsertRow.render catalog ⟨⟨table?, ms'⟩, row⟩ dialect =
      InsertRow.render catalog ⟨⟨table?, ms⟩, row⟩ dialect := by
  cases table? with
  | none => rfl
  | some table =>
      rw [InsertRow.render_eq_finish left, InsertRow.render_eq_finish (h.ne_nil left),
        accept_bind table ms, h.accept_eq left, bind_map_left]
      refine bind_congr fun _ => ?_
      have settled (ms : List Mapping) :
          (ms.filterM (InsertRow.keeps row) >>= InsertRow.finish row dialect table) =
            (List.map Mapping.plain <$> ms.filterM (InsertRow.keeps row)) >>=
              InsertRow.finish row dialect table := by
        rw [bind_map_left]
        exact bind_congr fun kept => (InsertRow.finish_plain row dialect table kept).symm
      exact (settled ms').trans ((congrArg (· >>= _) h.kept_eq).trans (settled ms).symm)

/-- **An insert of which nothing is left is refused**, with a build error, and its columns are not
inferred. -/
theorem render_eq_fail (h : Thins row ms []) (given : ms ≠ []) (table? : Option Table)
    (catalog : Catalog) (dialect : Dialect) :
    InsertRow.render catalog ⟨⟨table?, ms⟩, row⟩ dialect =
      fail (if table?.isNone then .missingTable else .nothingToInsert) .insert := by
  cases table? with
  | none => rfl
  | some table =>
      rw [InsertRow.render_eq_finish given]
      have accepted : accept .insert table ms = .ok (table, ms) := by
        rw [accept, List.isEmpty_eq_false_iff.mpr given, ← h.problem?_eq]
        rfl
      have none : List.map Mapping.plain <$> ms.filterM (InsertRow.keeps row) = .ok [] :=
        h.kept_eq.symm
      obtain ⟨kept, hkept, empty⟩ := map_eq_ok_iff.mp none
      obtain rfl := List.map_eq_nil_iff.mp empty
      rw [accepted]
      show (ms.filterM (InsertRow.keeps row) >>= _) = _
      rw [hkept]
      rfl

end RowTarget.Thins

end BoundSql
