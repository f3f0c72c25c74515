import BoundSql.Insert.Row
import BoundSql.Proofs.Placeholder.Slot

/-!
# What record inserts bind

The mappings of a record insert that read properties are its bindings.  A property may be bound for
several columns, and they share one parameter, so it is the last binding of a property whose
converter decides.  For an insert of many records this determines every parameter:

* `InsertMultiple.get?_parameters` : the parameter of a row slot holds the value of the slot,
  converted by the last binding of its property, and there are no other parameters.

Two things can go wrong when a record is read: a property is not there, and a conversion raises.
Every binding is read and converted, also one that is overwritten by a later binding of its
property; so where the parameters are given, all bindings are known to have converted
(`converts_of_bindRecord`), and not only those whose results are seen.

That parameters are named by property is said with an arbitrary function from properties to names,
which has to be injective.  For a single record it is the identity, and for a record of many it adds
the position (`rowSlotName_injective`).
-/

namespace BoundSql

/-! ### The mappings that take effect -/

namespace Mapping

/-- The property of a binding is the one that its mapping reads. -/
theorem property?_of_binding? {m : Mapping} {column : Column} {b : Binding}
    (binds : m.binding? column = some b) : m.property? = some b.property := by
  obtain ⟨e, origin⟩ := m
  cases origin <;> cases binds <;> rfl

/-- A mapping that reads a property makes a binding of every column. -/
theorem exists_binding {m : Mapping} {property : String} (reads : m.property? = some property)
    (column : Column) :
    ∃ b, m.binding? column = some b ∧ b.column = column ∧ b.property = property := by
  obtain ⟨e, origin⟩ := m
  cases origin <;> cases reads <;> exact ⟨_, rfl, rfl, rfl⟩

/-- A mapping that reads a property has no value of its own. -/
theorem value?_of_property? {m : Mapping} {property : String}
    (reads : m.property? = some property) : m.value? = none := by
  obtain ⟨e, origin⟩ := m
  cases origin <;> cases reads <;> rfl

end Mapping

namespace RowTarget

variable {kind : StatementKind} {catalog : Catalog} {t : RowTarget} {sample : Record}

/-- The mappings, if nothing is wrong with them. -/
def accept (kind : StatementKind) (table : Table) (mappings : List Mapping) :
    Except Error (Table × List Mapping) := do
  if mappings.isEmpty then fail .noMappedColumns kind
  if let some problem := mappings.findSome? problem? then fail problem kind
  return (table, mappings)

/-- The mappings of the caller's are accepted, or else those that are inferred. -/
theorem resolve_some (kind : StatementKind) (catalog : Catalog) (table : Table)
    (mappings : List Mapping) (sample : Record) :
    resolve kind catalog ⟨some table, mappings⟩ sample =
      (if mappings.isEmpty then inferred table (catalog.columns table) <$> sample.properties
        else pure mappings) >>= accept kind table := by
  unfold resolve
  cases mappings.isEmpty <;> rfl

/-- What is accepted is neither empty nor faulty. -/
theorem accept_eq_ok {table : Table} {mappings : List Mapping} {result : Table × List Mapping}
    (h : accept kind table mappings = .ok result) :
    mappings ≠ [] ∧ (∀ m ∈ mappings, problem? m = none) ∧ result = (table, mappings) := by
  unfold accept at h
  cases mappings with
  | nil => cases h
  | cons m rest =>
      cases problems : (m :: rest).findSome? problem? with
      | some problem =>
          rw [problems] at h
          cases h
      | none =>
          rw [problems] at h
          exact ⟨List.cons_ne_nil _ _, List.findSome?_eq_none_iff.mp problems,
            (pure_eq_ok_iff.mp h).symm⟩

/-- The mappings that take effect have no fault. -/
theorem problem?_of_resolve {result : Table × List Mapping}
    (h : t.resolve kind catalog sample = .ok result) {m : Mapping} (mem : m ∈ result.2) :
    problem? m = none := by
  obtain ⟨table?, mappings⟩ := t
  cases table? with
  | none => cases h
  | some table =>
      rw [resolve_some] at h
      obtain ⟨chosen, -, h⟩ := bind_eq_ok_iff.mp h
      obtain ⟨-, sound, rfl⟩ := accept_eq_ok h
      exact sound m mem

/-- The property of a mapping without a fault is an identifier. -/
theorem isIdentifier_of_sound {m : Mapping} (sound : problem? m = none) {p : String}
    (reads : m.property? = some p) : Text.isIdentifier p = true := by
  rw [problem?, Mapping.value?_of_property? reads, reads] at sound
  by_contra other
  rw [Bool.not_eq_true] at other
  simp [other] at sound

/-- The bindings of the mappings that take effect. -/
def bindings (kind : StatementKind) (catalog : Catalog) (t : RowTarget) (sample : Record) :
    Except Error (List Binding) := do
  let (_, mappings) ← t.resolve kind catalog sample
  let columns ← mappings.mapM Mapping.named
  return bindingsOf columns mappings

/-- What is bound is an identifier. -/
theorem isIdentifier_property {bindings : List Binding}
    (h : t.bindings kind catalog sample = .ok bindings) {b : Binding} (mem : b ∈ bindings) :
    Text.isIdentifier b.property = true := by
  obtain ⟨⟨table, mappings⟩, resolved, h⟩ := bind_eq_ok_iff.mp h
  obtain ⟨columns, -, h⟩ := bind_eq_ok_iff.mp h
  rw [← pure_eq_ok_iff.mp h] at mem
  obtain ⟨⟨column, m⟩, paired, binds⟩ := List.mem_filterMap.mp mem
  have sound := problem?_of_resolve resolved (List.of_mem_zip paired).2
  exact isIdentifier_of_sound sound (Mapping.property?_of_binding? binds)

end RowTarget

/-! ### One record -/

/-- Reading a property for a statement succeeds just when getting it does; the kind of the statement
is for the error. -/
theorem Record.read_eq_ok_iff {record : Record} {name : String} {kind : StatementKind}
    {v : Value} : record.read name kind = .ok v ↔ record.get name = .ok v := by
  rw [read]
  cases record.get name <;> simp

/-- What its converter raises is all that goes wrong with a conversion. -/
theorem Column.raised_of_convert {c : Column} {v : Value} {e : Error}
    (refused : c.convert v = .error e) : ∃ r, e = .raised r := by
  unfold convert at refused
  split at refused
  case isTrue => cases refused
  case isFalse =>
    split at refused
    case h_1 => cases refused
    case h_2 f _ =>
      cases raised : f v with
      | ok w =>
          rw [raised] at refused
          cases refused
      | error r =>
          rw [raised] at refused
          exact ⟨r, (Except.error.inj refused).symm⟩

/-- The last binding of a property. -/
def Binding.last? (property : String) (bindings : List Binding) : Option Binding :=
  bindings.reverse.find? fun b => b.property == property

theorem Binding.mem_of_last? {property : String} {bindings : List Binding} {b : Binding}
    (last : Binding.last? property bindings = some b) : b ∈ bindings ∧ b.property = property :=
  ⟨List.mem_reverse.mp (List.mem_of_find?_eq_some last), by simpa using List.find?_some last⟩

/-- The entry that a binding makes of a record: the parameter of its property, with the value of the
record as the column converts it. -/
def Binding.Makes (record : Record) (parameter : String → String) (b : Binding)
    (entry : String × Value) : Prop :=
  entry.1 = parameter b.property ∧
    ∃ w, record.get b.property = .ok w ∧ b.column.convert w = .ok entry.2

/-- A record is read one binding after the other, and what is written last counts. -/
theorem bindRecord_eq_ok {kind : StatementKind} {parameter : String → String} {record : Record}
    {bindings : List Binding} {parameters : Parameters}
    (h : bindRecord kind parameter record bindings = .ok parameters) :
    ∃ entries, List.Forall₂ (Binding.Makes record parameter) bindings entries ∧
      parameters = Assoc.putAll [] entries := by
  obtain ⟨entries, made, all⟩ := bind_eq_ok_iff.mp h
  refine ⟨entries, (mapM_eq_ok_iff.mp made).imp fun b entry made => ?_,
    (pure_eq_ok_iff.mp all).symm⟩
  obtain ⟨w, read, made⟩ := bind_eq_ok_iff.mp made
  obtain ⟨v, converted, made⟩ := bind_eq_ok_iff.mp made
  rw [← pure_eq_ok_iff.mp made]
  exact ⟨rfl, w, Record.read_eq_ok_iff.mp read, converted⟩

/-- The first of the entries under a name is made by the first binding of its property. -/
theorem get?_of_makes {parameter : String → String} (injective : Function.Injective parameter)
    {record : Record} {bindings : List Binding} {entries : Parameters}
    (made : List.Forall₂ (Binding.Makes record parameter) bindings entries) {name : String}
    {v : Value} :
    Assoc.get? name entries = some v ↔ ∃ property b w, name = parameter property ∧
      bindings.find? (fun b => b.property == property) = some b ∧
      record.get property = .ok w ∧ b.column.convert w = .ok v := by
  -- entries and bindings are searched side by side
  induction made with
  | nil => simp [Assoc.get?]
  | @cons b entry bindings entries first made ih =>
      obtain ⟨named, w, read, converted⟩ := first
      rw [Assoc.get?]
      by_cases same : name = parameter b.property
      · rw [named, same, beq_self_eq_true, if_pos rfl]
        constructor
        · intro found
          rw [Option.some.inj found] at converted
          exact ⟨b.property, b, w, rfl, by simp, read, converted⟩
        · rintro ⟨property, b', w', same, found, read', converted'⟩
          obtain rfl := injective same
          rw [List.find?_cons, beq_self_eq_true] at found
          rw [← Option.some.inj found] at converted'
          obtain rfl := Except.ok.inj (read.symm.trans read')
          rw [Except.ok.inj (converted.symm.trans converted')]
      · rw [named, if_neg (by simpa using Ne.symm same), ih]
        refine exists_congr fun property => ?_
        -- the first binding is of another property, so the search goes on behind it
        have other : name = parameter property → (b.property == property) = false := by
          rintro rfl
          exact beq_eq_false_iff_ne.mpr fun eq => same (congrArg parameter eq.symm)
        constructor
        · rintro ⟨b', w', same, found, rest⟩
          exact ⟨b', w', same, by rw [List.find?_cons, other same, found], rest⟩
        · rintro ⟨b', w', same, found, rest⟩
          rw [List.find?_cons, other same] at found
          exact ⟨b', w', same, found, rest⟩

/-- **The parameter of a property holds its value in the record, converted by the last binding of
the property**, and there are no other parameters. -/
theorem get?_bindRecord {kind : StatementKind} {parameter : String → String}
    (injective : Function.Injective parameter) {record : Record} {bindings : List Binding}
    {parameters : Parameters} (h : bindRecord kind parameter record bindings = .ok parameters)
    {name : String} {v : Value} :
    Assoc.get? name parameters = some v ↔ ∃ property b w, name = parameter property ∧
      Binding.last? property bindings = some b ∧
      record.get property = .ok w ∧ b.column.convert w = .ok v := by
  obtain ⟨entries, made, rfl⟩ := bindRecord_eq_ok h
  rw [Assoc.get?_putAll, Assoc.get?, Option.or_none]
  exact get?_of_makes injective (List.forall₂_reverse_iff.mpr made)

/-- There is an entry for every binding, under the name for its property. -/
theorem keys_of_makes {parameter : String → String} {record : Record} {bindings : List Binding}
    {entries : Parameters} (made : List.Forall₂ (Binding.Makes record parameter) bindings entries) :
    Assoc.keys entries = bindings.map fun b => parameter b.property := by
  induction made with
  | nil => rfl
  | cons first _ ih => rw [Assoc.keys, List.map_cons, List.map_cons, first.1, ← ih]; rfl

/-- There is a parameter for every property that is bound, and no other. -/
theorem mem_keys_bindRecord {kind : StatementKind} {parameter : String → String}
    {record : Record} {bindings : List Binding} {parameters : Parameters}
    (h : bindRecord kind parameter record bindings = .ok parameters) {name : String} :
    name ∈ Assoc.keys parameters ↔ ∃ b ∈ bindings, name = parameter b.property := by
  obtain ⟨entries, made, rfl⟩ := bindRecord_eq_ok h
  rw [Assoc.mem_keys_putAll, keys_of_makes made, List.mem_map]
  simp [Assoc.keys, eq_comm]

/-- Every binding of a record that is read has a value, and its column converts it. -/
theorem converts_of_bindRecord {kind : StatementKind} {parameter : String → String}
    {record : Record} {bindings : List Binding} {parameters : Parameters}
    (h : bindRecord kind parameter record bindings = .ok parameters) {b : Binding}
    (mem : b ∈ bindings) :
    ∃ w v, record.get b.property = .ok w ∧ b.column.convert w = .ok v := by
  obtain ⟨entries, made, -⟩ := bind_eq_ok_iff.mp h
  obtain ⟨entry, -, made⟩ := exists_result_of_mem made mem
  obtain ⟨w, read, made⟩ := bind_eq_ok_iff.mp made
  obtain ⟨v, converted, -⟩ := bind_eq_ok_iff.mp made
  exact ⟨w, v, Record.read_eq_ok_iff.mp read, converted⟩

/-! ### Many records -/

/-- The value of a row slot as it is bound: converted by the last binding of the property.  A
property without a binding has no slot. -/
def RowSlot.converted? (slot : RowSlot) (records : List Record) (bindings : List Binding) :
    Option (Except Error Value) :=
  (Binding.last? slot.property bindings).map fun b => slot.value records >>= b.column.convert

/-- The value of a slot is the property of the record at its position. -/
theorem RowSlot.value_of_getElem? {k : Nat} {property : String} {records : List Record}
    {record : Record} (at? : records[k]? = some record) :
    RowSlot.value ⟨k, property⟩ records = record.get property := by
  rw [value, at?]

theorem RowSlot.exists_of_value {slot : RowSlot} {records : List Record} {v : Value}
    (h : slot.value records = .ok v) :
    ∃ record, records[slot.index]? = some record ∧ record.get slot.property = .ok v := by
  rw [value] at h
  cases at? : records[slot.index]? with
  | none => rw [at?] at h; cases h
  | some record => exact ⟨record, rfl, by rwa [at?] at h⟩

/-- At one position, different properties have different slots. -/
theorem rowSlotName_injective (k : Nat) : Function.Injective (rowSlotName k) :=
  fun _ _ same => String.append_right_inj _ |>.mp same

namespace InsertMultiple

variable {catalog : Catalog} {dialect : Dialect} {i : InsertMultiple Record} {r : Rendered}
  {bound : List Binding}

/-- The bindings of an insert; the first record stands for all. -/
def bindings (catalog : Catalog) (i : InsertMultiple Record) : Except Error (List Binding) :=
  match i.records with
  | [] => fail .noRecords .insertMultiple
  | sample :: _ => i.target.bindings .insertMultiple catalog sample

/-- A rendered insert has bindings. -/
theorem exists_bindings (h : i.render catalog dialect = .ok r) :
    ∃ bound, i.bindings catalog = .ok bound := by
  obtain ⟨target, _ | ⟨sample, rest⟩⟩ := i
  · exact absurd h fail_ne_ok
  · obtain ⟨⟨table, mappings⟩, resolved, h⟩ := bind_eq_ok_iff.mp h
    obtain ⟨texts, -, h⟩ := bind_eq_ok_iff.mp h
    obtain ⟨columns, named, -⟩ := bind_eq_ok_iff.mp h
    exact ⟨_, bind_eq_ok_iff.mpr ⟨_, resolved, bind_eq_ok_iff.mpr ⟨_, named, rfl⟩⟩⟩

/-- What is bound is an identifier. -/
theorem isIdentifier_property (hb : i.bindings catalog = .ok bound) {b : Binding}
    (mem : b ∈ bound) : Text.isIdentifier b.property = true := by
  obtain ⟨target, _ | ⟨sample, rest⟩⟩ := i
  · exact absurd hb fail_ne_ok
  · exact RowTarget.isIdentifier_property hb mem

/-- What is bound has a name. -/
theorem ne_empty_of_mem (hb : i.bindings catalog = .ok bound) {b : Binding} (mem : b ∈ bound) :
    b.property ≠ "" := by
  intro empty
  have identifier := isIdentifier_property hb mem
  rw [empty] at identifier
  exact absurd identifier (by decide)

/-- A slot with a binding has a name. -/
theorem property_ne_empty (hb : i.bindings catalog = .ok bound) {property : String} {b : Binding}
    (last : Binding.last? property bound = some b) : property ≠ "" := by
  obtain ⟨mem, rfl⟩ := Binding.mem_of_last? last
  exact ne_empty_of_mem hb mem

/-- Every record of a rendered insert has been read with its bindings. -/
theorem rows_of_render (h : i.render catalog dialect = .ok r)
    (hb : i.bindings catalog = .ok bound) :
    ∃ rows, r.parameters = rows.foldl Assoc.putAll [] ∧
      i.records.zipIdx.mapM (fun row =>
        bindRecord .insertMultiple (rowSlotName row.2) row.1 bound) = .ok rows := by
  obtain ⟨target, _ | ⟨sample, rest⟩⟩ := i
  · exact absurd h fail_ne_ok
  · obtain ⟨⟨table, mappings⟩, resolved, h⟩ := bind_eq_ok_iff.mp h
    obtain ⟨texts, -, h⟩ := bind_eq_ok_iff.mp h
    obtain ⟨columns, named, h⟩ := bind_eq_ok_iff.mp h
    obtain ⟨rows, read, h⟩ := bind_eq_ok_iff.mp h
    have same : bindingsOf columns mappings = bound := by
      obtain ⟨result, resolved', hb⟩ := bind_eq_ok_iff.mp hb
      obtain rfl := Except.ok.inj (resolved.symm.trans resolved')
      obtain ⟨columns', named', hb⟩ := bind_eq_ok_iff.mp hb
      rw [Except.ok.inj (named.symm.trans named')]
      exact pure_eq_ok_iff.mp hb
    rw [← pure_eq_ok_iff.mp h, ← same]
    exact ⟨rows, rfl, read⟩

/-- A record is numbered with its position. -/
theorem mem_zipIdx {k : Nat} {record : Record} (at? : i.records[k]? = some record) :
    (record, k) ∈ i.records.zipIdx := List.mem_zipIdx_iff_getElem?.mpr at?

/-- The parameters of one record are those of its slots. -/
theorem get?_row {k : Nat} {record : Record} (at? : i.records[k]? = some record)
    {parameters : Parameters}
    (h : bindRecord .insertMultiple (rowSlotName k) record bound = .ok parameters)
    {name : String} {v : Value} :
    Assoc.get? name parameters = some v ↔ ∃ property, name = RowSlot.name ⟨k, property⟩ ∧
      RowSlot.converted? ⟨k, property⟩ i.records bound = some (.ok v) := by
  rw [get?_bindRecord (rowSlotName_injective k) h]
  refine exists_congr fun property => ?_
  constructor
  · rintro ⟨b, w, rfl, last, read, converted⟩
    refine ⟨rfl, ?_⟩
    rw [RowSlot.converted?, last, RowSlot.value_of_getElem? at?, read]
    exact congrArg some converted
  · rintro ⟨rfl, h⟩
    obtain ⟨b, last, h⟩ := Option.map_eq_some_iff.mp h
    rw [RowSlot.value_of_getElem? at?] at h
    obtain ⟨w, read, converted⟩ := bind_eq_ok_iff.mp h
    exact ⟨b, w, rfl, last, read, converted⟩

/-- **The parameters of a rendered insert are those of its row slots**, each with the converted
value of the slot. -/
theorem get?_parameters (h : i.render catalog dialect = .ok r)
    (hb : i.bindings catalog = .ok bound) {name : String} {v : Value} :
    Assoc.get? name r.parameters = some v ↔
      ∃ slot : RowSlot, name = slot.name ∧ slot.converted? i.records bound = some (.ok v) := by
  obtain ⟨rows, all, read⟩ := rows_of_render h hb
  have different : ∀ row ∈ rows, (Assoc.keys row).Nodup := by
    intro row mem
    obtain ⟨_, -, made⟩ := exists_of_mem_mapM read mem
    obtain ⟨entries, -, rfl⟩ := bindRecord_eq_ok made
    have none : (Assoc.keys ([] : Parameters)).Nodup := List.nodup_nil
    exact Assoc.nodup_keys_putAll none entries
  rw [all, Assoc.get?_foldl_putAll name different, Assoc.get?, Option.or_none]
  -- what is found under the name was read from some record
  have found : ∀ {v}, rows.reverse.findSome? (Assoc.get? name) = some v →
      ∃ slot : RowSlot, name = slot.name ∧ slot.converted? i.records bound = some (.ok v) := by
    intro v found
    obtain ⟨row, mem, found⟩ := List.exists_of_findSome?_eq_some found
    obtain ⟨⟨record, k⟩, at?, made⟩ := exists_of_mem_mapM read (List.mem_reverse.mp mem)
    obtain ⟨property, named, converted⟩ :=
      (get?_row (List.mem_zipIdx_iff_getElem?.mp at?) made).mp found
    exact ⟨⟨k, property⟩, named, converted⟩
  refine ⟨found, ?_⟩
  rintro ⟨slot, named, converted⟩
  obtain ⟨b, last, h⟩ := Option.map_eq_some_iff.mp converted
  obtain ⟨w, value, -⟩ := bind_eq_ok_iff.mp h
  obtain ⟨record, at?, -⟩ := RowSlot.exists_of_value value
  obtain ⟨row, mem, made⟩ := exists_result_of_mem read (mem_zipIdx at?)
  have here : Assoc.get? name row = some v :=
    (get?_row at? made).mpr ⟨slot.property, named, converted⟩
  -- another record can hold a value under the name only if it is the same slot
  obtain ⟨v', first⟩ : ∃ v', rows.reverse.findSome? (Assoc.get? name) = some v' :=
    Option.isSome_iff_exists.mp <| List.findSome?_isSome_iff.mpr
      ⟨row, List.mem_reverse.mpr mem, by rw [here]; rfl⟩
  obtain ⟨slot', named', converted'⟩ := found first
  obtain ⟨b', last', -⟩ := Option.map_eq_some_iff.mp converted'
  obtain rfl := RowSlot.name_injective (property_ne_empty hb last) (property_ne_empty hb last')
    (named.symm.trans named')
  rw [converted, Option.some.injEq, Except.ok.injEq] at converted'
  rw [first, converted']

/-- There is a parameter for every record and every property that is bound, and no other. -/
theorem mem_keys_iff (h : i.render catalog dialect = .ok r)
    (hb : i.bindings catalog = .ok bound) {name : String} :
    name ∈ Assoc.keys r.parameters ↔
      ∃ k < i.records.length, ∃ b ∈ bound, name = rowSlotName k b.property := by
  obtain ⟨rows, all, read⟩ := rows_of_render h hb
  rw [all, Assoc.mem_keys_foldl_putAll]
  constructor
  · rintro (none | ⟨row, mem, key⟩)
    · cases none
    · obtain ⟨⟨record, k⟩, at?, made⟩ := exists_of_mem_mapM read mem
      obtain ⟨hk, -⟩ := List.getElem?_eq_some_iff.mp (List.mem_zipIdx_iff_getElem?.mp at?)
      exact ⟨k, hk, (mem_keys_bindRecord made).mp key⟩
  · rintro ⟨k, hk, found⟩
    obtain ⟨row, mem, made⟩ := exists_result_of_mem read (mem_zipIdx (List.getElem?_eq_getElem hk))
    exact .inr ⟨row, mem, (mem_keys_bindRecord made).mpr found⟩

/-- Every binding of a rendered insert has a value in every record, and its column converts it. -/
theorem converts_of_render (h : i.render catalog dialect = .ok r)
    (hb : i.bindings catalog = .ok bound) {k : Nat} {record : Record}
    (at? : i.records[k]? = some record) {b : Binding} (mem : b ∈ bound) :
    ∃ w v, record.get b.property = .ok w ∧ b.column.convert w = .ok v := by
  obtain ⟨rows, -, read⟩ := rows_of_render h hb
  obtain ⟨row, -, made⟩ := exists_result_of_mem read (mem_zipIdx at?)
  exact converts_of_bindRecord made mem

/-- The value of every slot with a binding has been converted. -/
theorem exists_converted (h : i.render catalog dialect = .ok r)
    (hb : i.bindings catalog = .ok bound) {slot : RowSlot} {b : Binding} {w : Value}
    (last : Binding.last? slot.property bound = some b) (value : slot.value i.records = .ok w) :
    ∃ v, b.column.convert w = .ok v := by
  obtain ⟨record, at?, holds⟩ := RowSlot.exists_of_value value
  obtain ⟨mem, property⟩ := Binding.mem_of_last? last
  obtain ⟨w', v, read, converted⟩ := converts_of_render h hb at? mem
  rw [property] at read
  rw [Except.ok.inj (holds.symm.trans read)]
  exact ⟨v, converted⟩

end InsertMultiple

end BoundSql
