import BoundSql.Proofs.Agreement.Record

/-!
# Row slots found again

An insert of many records names a parameter for every row slot, and the text that it makes is later
scanned for these names.  The scan ends a name at the first character that is no word character,
while a property may be any identifier, so the slots are found again exactly if every property that
is bound is a run of word characters.

## The two directions

If the names can be read, the scan finds the slots in the order in which they stand in the text, row
by row, and what is read for them has the names of the parameters in the same order
(`InsertMultiple.bindRowSlots_of_render`).  Here the order matters: a dictionary of parameters
remembers the order of the first writes, and the slots of one property that is bound twice come
twice in the text.

If some name cannot be read, the parameters are not rebuilt, whatever the scan may find instead.
The reason is that all that is bound stands in the text as it is read
(`mem_of_mem_keys_bindRowSlots`), and what is read is made of word characters.

That no two slots share a name is stated beside the equivalence.  Otherwise parameters of the same
names could still hold the values of other slots.

* `InsertMultiple.slots` : the slots of an insert, row by row.
* `InsertMultiple.rowReferences_of_render` : what is found in the text of an insert.
* `InsertMultiple.rebuilds_iff` : when the parameters of an insert are rebuilt from its text.
-/

namespace BoundSql

/-! ### Parameters in a text -/

/-- The name of a parameter that is settled. -/
def Piece.settled? : Piece → Option String
  | .parameter n => some n
  | _ => none

namespace Fragment

/-- The settled parameters of a fragment, from left to right. -/
def settled (f : Fragment) : List String := f.filterMap Piece.settled?

@[simp] theorem settled_append (f g : Fragment) : settled (f ++ g) = settled f ++ settled g :=
  List.filterMap_append

@[simp] theorem settled_sql (s : String) (f : Fragment) : settled (.sql s :: f) = settled f := rfl

@[simp] theorem settled_joined (separator : String) :
    ∀ fs : List Fragment, settled (joined separator fs) = fs.flatMap settled
  | [] => rfl
  | [f] => by simp [joined]
  | f :: g :: rest => by
      rw [joined, settled_append, settled_sql, settled_joined separator (g :: rest)]
      simp

@[simp] theorem settled_parenthesized (f : Fragment) : settled f.parenthesized = settled f := by
  rw [parenthesized, List.cons_append, settled_sql, settled_append]
  exact List.append_nil _

/-- Without slots there are no settled parameters. -/
theorem SlotFree.settled_eq {f : Fragment} (free : f.SlotFree) : f.settled = [] := by
  refine List.filterMap_eq_nil_iff.mpr fun p mem => ?_
  cases p with
  | parameter name => cases free _ mem
  | _ => rfl

/-- The slots of a text whose names are settled have these names. -/
theorem MadeOf.names_eq_settled {constants : List String} {f : Fragment}
    (made : f.MadeOf constants true) (namer : Namer) : f.names namer = f.settled := by
  obtain ⟨-, pieces⟩ := made
  induction f with
  | nil => rfl
  | cons p f ih =>
      have rest := ih fun q mem => pieces q (.tail _ mem)
      have admitted := pieces p List.mem_cons_self
      cases p with
      | value v => cases admitted
      | parameter name => exact congrArg (name :: ·) rest
      | sql s => exact rest
      | name s => exact rest
      | literal s => exact rest

/-- A text whose string constants have no colon has none at all. -/
theorem MadeOf.lacks {constants : List String} {settled : Bool} {f : Fragment}
    (made : f.MadeOf constants settled) (plain : Plain ':' constants) : f.Lacks ':' := by
  intro p mem
  have admitted := made.pieces p mem
  cases p with
  | literal s => exact admitted.elim (plain s) id
  | sql s => exact admitted
  | name s => exact admitted
  | _ => trivial

end Fragment

/-! ### Parameters of a layout -/

/-- The value expression of a mapping has a parameter for the property that is read. -/
theorem rowExpression_settled {parameter : String → String} {m : Mapping} {f : Fragment}
    (h : rowExpression parameter m = .ok f) : f.settled = (m.property?.map parameter).toList := by
  unfold rowExpression at h
  split at h
  case h_1 property reads =>
    rw [← Except.ok.inj h, reads]
    rfl
  case h_2 none =>
    rw [none]
    unfold Mapping.literal at h
    split at h
    case h_4 => cases h
    all_goals
      rw [← Except.ok.inj h]
      rfl

/-- A mapping has a binding just when it reads a property, and for that property. -/
theorem Mapping.binding?_property (column : Column) (m : Mapping) :
    (m.binding? column).map (·.property) = m.property? := by
  obtain ⟨e, origin⟩ := m
  cases origin <;> rfl

namespace Layout

variable {l : Layout} {parameter : String → String}

/-- The parameters of a tuple are those of the bindings, in order. -/
theorem settled_tuple {tuple : List Fragment} (h : l.tuple parameter = .ok tuple) :
    tuple.flatMap Fragment.settled = l.bindings.map fun b => parameter b.property := by
  obtain ⟨table, cells⟩ := l
  have written : List.Forall₂ (fun cell f => rowExpression parameter cell.2 = .ok f) cells tuple :=
    mapM_eq_ok_iff.mp h
  clear h
  induction written with
  | nil => rfl
  | @cons cell f cells tuple first _ ih =>
      have own := rowExpression_settled first
      rw [← Mapping.binding?_property cell.1] at own
      rw [bindings] at ih
      rw [List.flatMap_cons, own, ih, bindings, List.filterMap_cons]
      cases cell.2.binding? cell.1 <;> rfl

end Layout

/-- The parameters of an insert of rows are those of its rows. -/
theorem settled_insertFragment {t : Table} {columns : List String} (rows : List (List Fragment)) :
    (insertFragment t.fragment columns rows).settled =
      rows.flatMap fun row => row.flatMap Fragment.settled := by
  rw [insertFragment, Fragment.settled_append, Fragment.settled_sql, Fragment.settled_joined,
    (slotFree_insertHead t columns).settled_eq, List.nil_append, List.flatMap_map]
  simp only [Fragment.settled_parenthesized, Fragment.settled_joined]

/-! ### Names of row slots -/

namespace RowSlot

/-- The name of a slot is made of word characters exactly if the property is. -/
theorem isParameterName_name_iff (slot : RowSlot) :
    IsParameterName slot.name ↔ ∀ c ∈ slot.property.toList, Text.isWordChar c = true := by
  have text : slot.name.toList =
      rowStem.toList ++ ((toString slot.index).toList ++ '_' :: slot.property.toList) := by
    show (rowStem ++ toString slot.index ++ "_" ++ slot.property).toList = _
    simp
  have stem : ∀ c ∈ rowStem.toList, Text.isWordChar c = true :=
    List.all_eq_true.mp (by decide)
  have underscore : Text.isWordChar '_' = true := by decide
  have digits : ∀ c ∈ (toString slot.index).toList, Text.isWordChar c = true :=
    fun _ mem => Namer.isWordChar_of_mem_toString mem
  have named : slot.name ≠ "" := by
    intro empty
    rw [empty] at text
    simp at text
  rw [IsParameterName, text]
  simp only [List.forall_mem_append, List.forall_mem_cons]
  exact ⟨fun h => h.2.2.2.2, fun word => ⟨named, stem, digits, underscore, word⟩⟩

end RowSlot

/-! ### Slots in a text -/

/-- The slots that a text refers to, each under the name it has there, in a list of records of the
given length. -/
def foundSlots (sql : String) (length : Nat) : Except Error (List (String × RowSlot)) :=
  (rowReferences sql).mapM fun found => (found.1, ·) <$> found.2.slot length

/-- To bind the slots in a text is to find them and then to read their values. -/
theorem bindRowSlots_of_found {sql : String} {records : List Record}
    {found : List (String × RowSlot)} {entries : Parameters}
    (finds : foundSlots sql records.length = .ok found)
    (reads : found.mapM (fun slot => (slot.1, ·) <$> slot.2.value records) = .ok entries) :
    bindRowSlots sql records = .ok (Assoc.putAll [] entries) := by
  refine bind_eq_ok_iff.mpr ⟨entries, ?_, rfl⟩
  rw [← mapM_bind_of_ok finds reads]
  simp only [map_eq_pure_bind, bind_assoc, pure_bind]

/-- What is bound stands in the text. -/
theorem mem_of_mem_keys_bindRowSlots {sql : String} {records : List Record}
    {parameters : Parameters} (h : bindRowSlots sql records = .ok parameters) {name : String}
    (mem : name ∈ Assoc.keys parameters) : name ∈ placeholderNames sql := by
  obtain ⟨entries, read, all⟩ := bind_eq_ok_iff.mp h
  rw [← pure_eq_ok_iff.mp all, Assoc.mem_keys_putAll] at mem
  obtain none | mem := mem
  · cases none
  · obtain ⟨entry, hentry, rfl⟩ := List.mem_map.mp mem
    obtain ⟨⟨name, reference⟩, refers, made⟩ := exists_of_mem_mapM read hentry
    obtain ⟨slot, -, made⟩ := bind_eq_ok_iff.mp made
    obtain ⟨v, -, made⟩ := bind_eq_ok_iff.mp made
    obtain ⟨other, stands, refers⟩ := List.mem_filterMap.mp refers
    obtain ⟨own, -, pair⟩ := Option.map_eq_some_iff.mp refers
    rw [← pure_eq_ok_iff.mp made, ← (Prod.mk.inj pair).1]
    exact stands

/-! ### Slots of an insert -/

namespace InsertMultiple

variable {catalog : Catalog} {dialect : Dialect} {i : InsertMultiple Record} {r : Rendered}
  {bound : List Binding}

/-- The texts that an insert takes over. -/
def texts (i : InsertMultiple Record) : List String :=
  (RecordInsert.multiple i).verbatim ++ (RecordInsert.multiple i).stringConstants

/-- The row slots of an insert: row by row, the properties that are bound. -/
def slots (i : InsertMultiple Record) (bound : List Binding) : List RowSlot :=
  (List.range i.records.length).flatMap fun k => bound.map fun b => ⟨k, b.property⟩

/-- There is a slot for every record and every property that is bound, and no other. -/
theorem mem_slots {slot : RowSlot} :
    slot ∈ i.slots bound ↔
      slot.index < i.records.length ∧ ∃ b ∈ bound, b.property = slot.property := by
  obtain ⟨k, property⟩ := slot
  simp [slots]

/-- The names of the slots, row by row. -/
theorem map_name_slots : (i.slots bound).map RowSlot.name =
    (List.range i.records.length).flatMap fun k : Nat =>
      bound.map fun b => rowSlotName k b.property := by
  simp only [slots, List.map_flatMap, List.map_map]
  rfl

/-- Rows that are read have entries for their slots, one row after the other. -/
theorem exists_entries {numbered : List (Record × Nat)} {rows : List Parameters}
    (read : numbered.mapM (fun row =>
      bindRecord .insertMultiple (rowSlotName row.2) row.1 bound) = .ok rows) :
    ∃ made : List Parameters,
      List.Forall₂ (fun row entries => row = Assoc.putAll [] entries) rows made ∧
      Assoc.keys made.flatten = numbered.flatMap fun row =>
        bound.map fun b => rowSlotName row.2 b.property := by
  have each := mapM_eq_ok_iff.mp read
  clear read
  induction each with
  | nil => exact ⟨[], .nil, rfl⟩
  | cons first _ ih =>
      obtain ⟨entries, own, put⟩ := bindRecord_eq_ok first
      obtain ⟨made, rest, keys⟩ := ih
      refine ⟨entries :: made, .cons put rest, ?_⟩
      rw [List.flatten_cons, List.flatMap_cons, ← keys, ← keys_of_makes own]
      exact List.map_append

/-- The parameters of an insert are named after its slots, in order of first use. -/
theorem keys_of_render (h : i.render catalog dialect = .ok r)
    (hb : i.bindings catalog = .ok bound) {entries : Parameters}
    (named : Assoc.keys entries = (i.slots bound).map RowSlot.name) :
    Assoc.keys r.parameters = Assoc.keys (Assoc.putAll [] entries) := by
  obtain ⟨rows, all, read⟩ := rows_of_render h hb
  obtain ⟨made, runs, keys⟩ := exists_entries read
  have numbers : List.range i.records.length = i.records.zipIdx.map Prod.snd := by
    rw [List.zipIdx_map_snd, List.range_eq_range']
  rw [all, Assoc.keys_foldl_putAll runs rfl]
  refine Assoc.keys_putAll ?_ rfl
  rw [keys, named, map_name_slots, numbers, List.flatMap_map]

/-- The parameters in the rows of an insert are its slots, in order. -/
theorem settled_tuples {l : Layout} {tuples : List (List Fragment)}
    (written : (RecordInsert.multiple i).tuples l = .ok tuples) :
    tuples.flatMap (fun tuple => tuple.flatMap Fragment.settled) =
      (i.slots l.bindings).map RowSlot.name := by
  have each := mapM_eq_ok_iff.mp written
  clear written
  rw [map_name_slots]
  generalize List.range i.records.length = numbers at each
  induction each with
  | nil => rfl
  | cons first _ ih => rw [List.flatMap_cons, List.flatMap_cons, Layout.settled_tuple first, ih]

/-- **The placeholders in the text of an insert are its slots**, if nothing else in it looks like a
placeholder and the names of the slots can be read. -/
theorem placeholderNames_of_render
    (plain : Plain ':' i.texts) (h : i.render catalog dialect = .ok r)
    (hb : i.bindings catalog = .ok bound)
    (words : ∀ slot ∈ i.slots bound, IsParameterName slot.name) :
    placeholderNames r.sql = (i.slots bound).map RowSlot.name := by
  obtain ⟨verbatim, constants⟩ := plain_append.mp plain
  obtain ⟨l, tuples, layout, written, text, hb'⟩ := render_eq_ok h
  obtain rfl := Except.ok.inj (hb.symm.trans hb')
  have made := RecordInsert.madeOf_insertFragment verbatim layout written
  have names (namer : Namer) : (insertFragment l.table.fragment l.names tuples).names namer =
      (i.slots l.bindings).map RowSlot.name := by
    rw [made.names_eq_settled, settled_insertFragment, settled_tuples written]
  have start : ({ dialect } : Context).bindings.namer = {} := rfl
  rw [text, Layout.text, Fragment.render, ← names {}, ← start]
  refine Fragment.placeholderNames_write made.spaced (made.lacks constants) fun name mem => ?_
  rw [names] at mem
  obtain ⟨slot, hslot, rfl⟩ := List.mem_map.mp mem
  exact words slot hslot

/-- **The scan recovers the slots**, row by row, as they were written. -/
theorem rowReferences_of_render
    (plain : Plain ':' i.texts) (h : i.render catalog dialect = .ok r)
    (hb : i.bindings catalog = .ok bound)
    (words : ∀ b ∈ bound, IsParameterName b.property) :
    rowReferences r.sql = (i.slots bound).map fun slot =>
      (slot.name, ⟨(toString slot.index).toList, slot.property⟩) := by
  have own {slot : RowSlot} (mem : slot ∈ i.slots bound) : IsParameterName slot.property := by
    obtain ⟨-, b, hb, same⟩ := mem_slots.mp mem
    exact same ▸ words b hb
  rw [rowReferences, placeholderNames_of_render plain h hb fun slot mem =>
    slot.isParameterName_name_iff.mpr (own mem).2, List.filterMap_map, ← List.filterMap_eq_map']
  refine List.filterMap_congr fun slot mem => ?_
  rw [Function.comp_apply, RowSlot.ofName?_name (own mem).1]
  rfl

/-- An insert that renders has records. -/
theorem records_pos (h : i.render catalog dialect = .ok r) : 0 < i.records.length := by
  obtain ⟨target, _ | ⟨sample, rest⟩⟩ := i
  · exact absurd h fail_ne_ok
  · exact Nat.succ_pos _

/-- Every slot of an insert that renders has a value. -/
theorem exists_value (h : i.render catalog dialect = .ok r) (hb : i.bindings catalog = .ok bound)
    {slot : RowSlot} (mem : slot ∈ i.slots bound) : ∃ v, slot.value i.records = .ok v := by
  obtain ⟨hk, b, hbound, same⟩ := mem_slots.mp mem
  have at? := List.getElem?_eq_getElem hk
  obtain ⟨v, -, read, -⟩ := converts_of_render h hb at? hbound
  exact ⟨v, by rw [RowSlot.value_of_getElem? at?, ← same, read]⟩

/-- The slots that are found in the text are those of the insert, row by row. -/
theorem found_of_render
    (plain : Plain ':' i.texts) (h : i.render catalog dialect = .ok r)
    (hb : i.bindings catalog = .ok bound)
    (words : ∀ b ∈ bound, IsParameterName b.property) :
    foundSlots r.sql i.records.length =
      .ok ((i.slots bound).map fun slot => (slot.name, slot)) := by
  rw [foundSlots, rowReferences_of_render plain h hb words, List.mapM_map, mapM_eq_ok_iff,
    List.forall₂_map_right_iff, List.forall₂_same]
  intro slot mem
  have inside := (mem_slots.mp mem).1.le
  exact map_eq_ok_iff.mpr ⟨slot, RowReference.slot_toString inside slot.property, rfl⟩

/-- If the names of the slots can be read, the parameters are rebuilt from the text. -/
theorem bindRowSlots_of_render
    (plain : Plain ':' i.texts) (h : i.render catalog dialect = .ok r)
    (hb : i.bindings catalog = .ok bound)
    (words : ∀ b ∈ bound, IsParameterName b.property) :
    ∃ rebuilt, bindRowSlots r.sql i.records = .ok rebuilt ∧
      Assoc.keys rebuilt = Assoc.keys r.parameters := by
  have found := found_of_render plain h hb words
  cases read : ((i.slots bound).map fun slot => (slot.name, slot)).mapM fun entry =>
      (entry.1, ·) <$> entry.2.value i.records with
  | error e =>
      obtain ⟨entry, hentry, fails⟩ := exists_of_mapM_eq_error read
      obtain ⟨slot, mem, rfl⟩ := List.mem_map.mp hentry
      obtain ⟨v, value⟩ := exists_value h hb mem
      rw [value] at fails
      cases fails
  | ok entries =>
      refine ⟨_, bindRowSlots_of_found found read, (keys_of_render h hb ?_).symm⟩
      have names := map_eq_map_of_mapM (g := Prod.fst) (k := Prod.fst) read fun entry _ made h => by
        obtain ⟨v, -, rfl⟩ := map_eq_ok_iff.mp h
        rfl
      rw [Assoc.keys, names, List.map_map]
      rfl

/-- **When the parameters are rebuilt.**  Let an insert of many records have no colon in its texts.
No two of its slots share a name.  The parameters that are rebuilt from its text have the names of
the parameters of the statement, in the same order, exactly if every property that is bound is a
run of word characters; and then the slots that are found are its own, row by row. -/
theorem rebuilds_iff (plain : Plain ':' i.texts) (h : i.render catalog dialect = .ok r) :
    ∃ bound, i.bindings catalog = .ok bound ∧
      (∀ slot ∈ i.slots bound, ∀ other ∈ i.slots bound, slot.name = other.name → slot = other) ∧
      ((∃ rebuilt, bindRowSlots r.sql i.records = .ok rebuilt ∧
          Assoc.keys rebuilt = Assoc.keys r.parameters) ↔
        ∀ b ∈ bound, IsParameterName b.property) ∧
      ((∀ b ∈ bound, IsParameterName b.property) →
        foundSlots r.sql i.records.length =
          .ok ((i.slots bound).map fun slot => (slot.name, slot))) := by
  obtain ⟨bound, hb⟩ := exists_bindings h
  have named {b : Binding} (mem : b ∈ bound) : b.property ≠ "" := ne_empty_of_mem hb mem
  refine ⟨bound, hb, fun slot mem other mem' same => ?_, ⟨?_, ?_⟩, found_of_render plain h hb⟩
  · obtain ⟨-, b, hbound, property⟩ := mem_slots.mp mem
    obtain ⟨-, b', hbound', property'⟩ := mem_slots.mp mem'
    exact RowSlot.name_injective (property ▸ named hbound) (property' ▸ named hbound') same
  · rintro ⟨rebuilt, read, same⟩ b mem
    -- the parameter for the first record is rebuilt, so its name has been found in the text
    have first : 0 < i.records.length := records_pos h
    have key : rowSlotName 0 b.property ∈ Assoc.keys rebuilt := by
      rw [same]
      exact (mem_keys_iff h hb).mpr ⟨0, first, b, mem, rfl⟩
    have read := isParameterName_of_mem_placeholderNames (mem_of_mem_keys_bindRowSlots read key)
    exact ⟨named mem, (RowSlot.isParameterName_name_iff ⟨0, b.property⟩).mp read⟩
  · exact bindRowSlots_of_render plain h hb

/-- An insert of a property whose name is an identifier, but no run of word characters. -/
def tied : InsertMultiple Record :=
  let notes : Table := ⟨0, "notes", none⟩
  ⟨⟨some notes, [⟨.column (.plain "text" notes none), .property "a\u00b7b"⟩]⟩,
    [.mapping [(.text "a\u00b7b", .int 1)]]⟩

/-- Its parameters are not rebuilt from its text. -/
theorem rebuilds_iff_sample :
    let sql := "INSERT INTO notes (text) VALUES (:records_0_a\u00b7b)"
    let parameters : Parameters := [("records_0_a\u00b7b", .int 1)]
    tied.render {} .generic = .ok ⟨sql, parameters⟩ ∧
      ¬ ∃ rebuilt, bindRowSlots sql tied.records = .ok rebuilt ∧
        Assoc.keys rebuilt = Assoc.keys parameters := by
  intro sql parameters
  have rendered : tied.render {} .generic = .ok ⟨sql, parameters⟩ := rfl
  have plain : Plain ':' tied.texts := by decide
  obtain ⟨bound, hb, -, rebuilds, -⟩ := rebuilds_iff plain rendered
  refine ⟨rendered, fun rebuilt => ?_⟩
  obtain rfl := Except.ok.inj hb
  have word := rebuilds.mp rebuilt _ List.mem_cons_self
  exact absurd (word.2 '\u00b7' (by decide)) (by decide +kernel)

end InsertMultiple

end BoundSql
