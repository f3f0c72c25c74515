import BoundSql.Proofs.Binding
import BoundSql.Proofs.Blank.Numbered

/-!
# Record inserts without their data

Of a record, an insert looks at the properties that are listed, at whether a value is null, and at
nothing else, so that rendering an insert follows rendering the blank one.  Until values are
converted the two go the same way exactly; what is read from the records differs afterwards, and
only in the values (`bindRecord_follows`).

The blank insert is rendered with a catalog without conversions.  Columns that are inferred for the
properties of a record come from the catalog, so that leaving the catalog as it is would let
conversions in again.
-/

namespace BoundSql

/-! ### Steps that are the same -/

/-- Values can be changed before a look-up or after it. -/
theorem Assoc.get?_map {κ ν : Type} [BEq κ] (change : ν → ν) (key : κ) (entries : Assoc κ ν) :
    get? key (entries.map fun entry => (entry.1, change entry.2)) =
      (get? key entries).map change := by
  induction entries with
  | nil => rfl
  | cons entry rest ih =>
      rw [List.map_cons, get?, get?, ih]
      split <;> rfl

namespace Record

/-- The blank record lists the same properties: its keys and what it declares are kept. -/
theorem properties_blank (r : Record) : r.blank.properties = r.properties := by
  cases r with
  | mapping entries =>
      show Except.ok ((entries.map fun entry => (entry.1, entry.2.blank)).map (·.1.name)) = _
      rw [List.map_map]
      rfl
  | object kind declared attributes =>
      have names : Assoc.keys (attributes.map fun entry => (entry.1, entry.2.blank)) =
          Assoc.keys attributes := by
        rw [Assoc.keys, List.map_map]
        rfl
      cases kind with
      | plain => rw [blank, properties, properties, names]
      | dataclass => rfl
      | model => rfl
  | bare v => rfl

/-- A blank record is read as the record is, and gives the value without its data. -/
theorem read_blank (r : Record) (name : String) (kind : StatementKind) :
    r.blank.read name kind = Value.blank <$> r.read name kind := by
  cases r with
  | mapping entries =>
      simp only [read, get, blank, Assoc.get?_map]
      cases Assoc.get? (Key.text name) entries <;> rfl
  | object objectKind declared attributes =>
      simp only [read, get, blank, Assoc.get?_map]
      cases Assoc.get? name attributes with
      | none => cases objectKind <;> rfl
      | some v => cases objectKind <;> rfl
  | bare v => rfl

end Record

/-- The columns that are declared for a table, without their conversions. -/
theorem Catalog.columns_unconverted (catalog : Catalog) (table : Table) :
    catalog.unconverted.columns table = (catalog.columns table).map Column.unconverted := by
  rw [columns, columns, unconverted, List.find?_map]
  show (match (catalog.entries.find? fun entry => entry.1.id == table.id).map
      fun entry => (entry.1, entry.2.map Column.unconverted) with
    | some entry => entry.2
    | none => []) = _
  cases catalog.entries.find? fun entry => entry.1.id == table.id with
  | none => rfl
  | some entry => rfl

namespace RowTarget

theorem inferred_unconverted (table : Table) (declared : Declared) (properties : List String) :
    inferred table (declared.map Column.unconverted) properties =
      (inferred table declared properties).map Mapping.blank := by
  unfold inferred
  rw [List.isEmpty_map]
  split
  · rw [List.map_map]
    rfl
  · rw [List.filter_map, List.map_map, List.map_map]
    rfl

/-- A mapping has the fault that it has whatever its value is. -/
theorem problem?_blank (m : Mapping) : problem? m.blank = problem? m := by
  obtain ⟨column, origin⟩ := m
  cases origin <;> rfl

theorem accept_blank (kind : StatementKind) (table : Table) (mappings : List Mapping) :
    accept kind table (mappings.map Mapping.blank) =
      (fun r => (r.1, r.2.map Mapping.blank)) <$> accept kind table mappings := by
  have problems :
      (mappings.map Mapping.blank).findSome? problem? = mappings.findSome? problem? := by
    rw [List.findSome?_map]
    exact congrArg (List.findSome? · mappings) (funext problem?_blank)
  unfold accept
  rw [List.isEmpty_map, problems]
  cases mappings.isEmpty with
  | true => rfl
  | false => cases mappings.findSome? problem? <;> rfl

/-- The same mappings take effect. -/
theorem resolve_blank (kind : StatementKind) (catalog : Catalog) (t : RowTarget)
    (sample : Record) :
    t.blank.resolve kind catalog.unconverted sample.blank =
      (fun r => (r.1, r.2.map Mapping.blank)) <$> t.resolve kind catalog sample := by
  obtain ⟨table?, mappings⟩ := t
  cases table? with
  | none => rfl
  | some table =>
      rw [blank, resolve_some, resolve_some, List.isEmpty_map, sample.properties_blank,
        catalog.columns_unconverted]
      cases mappings.isEmpty with
      | true =>
          simp only [if_true, map_eq_pure_bind, bind_assoc, pure_bind, inferred_unconverted,
            accept_blank]
      | false =>
          simp only [Bool.false_eq_true, if_false, pure_bind, accept_blank]

end RowTarget

/-! ### Reading records -/

theorem rowExpression_blank (parameter : String → String) (m : Mapping) :
    rowExpression parameter m.blank = rowExpression parameter m := by
  obtain ⟨column, origin⟩ := m
  cases origin <;> rfl

/-- The mapped columns are the same but for their conversions. -/
theorem mapM_named_blank (mappings : List Mapping) :
    (mappings.map Mapping.blank).mapM Mapping.named =
      List.map Column.unconverted <$> mappings.mapM Mapping.named :=
  mapM_map_eq (fun m => m.column.asColumn_unconverted "name") mappings

/-- The binding without its conversion. -/
def Binding.blank (b : Binding) : Binding := { b with column := b.column.unconverted }

theorem bindingsOf_blank (columns : List Column) (mappings : List Mapping) :
    bindingsOf (columns.map Column.unconverted) (mappings.map Mapping.blank) =
      (bindingsOf columns mappings).map Binding.blank := by
  unfold bindingsOf
  rw [List.zip_map, List.filterMap_map, List.map_filterMap]
  refine congrArg (List.filterMap · _) (funext fun pair => ?_)
  obtain ⟨c, column, origin⟩ := pair
  cases origin <;> rfl

/-- The parameters read from a record have the names of those read from the blank one.  A record
that cannot be read fails with the name of a property, and the blank record fails with the same. -/
theorem bindRecord_follows (kind : StatementKind) (parameter : String → String)
    (record : Record) (bindings : List Binding) :
    Follows (fun p q => Assoc.keys p = Assoc.keys q)
      (bindRecord kind parameter record bindings)
      (bindRecord kind parameter record.blank (bindings.map Binding.blank)) := by
  unfold bindRecord
  refine Follows.bind (R := List.Forall₂ fun e e' => e.1 = e'.1) ?_ fun entries blank h => ?_
  · refine Follows.mapM fun b _ => ?_
    refine Follows.bind (R := fun _ _ => True) ?_ fun v w _ => ?_
    · show Follows _ (record.read b.property kind) (record.blank.read b.property kind)
      rw [record.read_blank]
      cases record.read b.property kind with
      | error e => exact .error e
      | ok v => exact .ok trivial
    · exact ((Expression.column b.column).convert_follows v w).bind fun v w _ => .ok rfl
  · refine .ok (Assoc.keys_putAll ?_ rfl)
    induction h with
    | nil => rfl
    | cons first _ ih =>
        rw [Assoc.keys, Assoc.keys, List.map_cons, List.map_cons, first]
        exact congrArg (_ :: ·) ih

end BoundSql
