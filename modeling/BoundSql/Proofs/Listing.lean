import BoundSql.Proofs.Record
import BoundSql.Proofs.Registry
import BoundSql.Proofs.Thinning.Row

/-!
# What records list and what can be read of them

A record lists its properties by name, and an insert without mappings reads what the record lists.
Whether it can is another question: a mapping lists all of its keys, each under its name, but a name
is looked up among the text keys only, and what an object declares it need not have.

## What is shown

First, for a record by itself: all that is listed is read exactly if the record has namesakes
(`Record.HasNamesakes`), which is a condition on its keys, or on what it declares, and not on
reading.  Second, for inserts without mappings.  A table may declare columns, and then only those
are filled which the record lists; so a property that is listed and cannot be read need not matter.
The right statement is about all tables at once: there is one for which the insert finds the
property missing, namely the table of this one column.  A name that is no identifier is refused
before it is read, and is therefore left out.

Third, what becomes of an insert in a given table (`InsertRow.Course`).  This takes the columns of
the table to have different names.  Otherwise two columns would be bound under one name, and the
values of one of them would be lost; mappings of the caller's have the same problem, which is
treated elsewhere.

* `Record.Readable`, `Record.HasNamesakes` : the names that are read, and the records of which all
  that is listed is read.
* `InsertRow.render_unmapped` : an insert without mappings, step by step.
* `InsertRow.Course` : what becomes of such an insert.
* `Record.listed_readable_iff` : what is listed is read of these records exactly, and what an insert
  makes of the others.
-/

namespace BoundSql

/-! ### Names that are read -/

namespace Record

/-- The record has a property of the name. -/
def Readable (record : Record) (name : String) : Prop := ∃ v, record.get name = .ok v

/-- A key that is no text has a namesake that is one, and what an object declares it has. -/
def HasNamesakes : Record → Prop
  | mapping entries => ∀ key ∈ Assoc.keys entries, Key.text key.name ∈ Assoc.keys entries
  | object .plain _ _ => True
  | object _ declared attributes => ∀ name ∈ declared, name ∈ Assoc.keys attributes
  | bare _ => True

variable {record : Record} {name : String} {names : List String} {kind : StatementKind}

/-- Keys that are no texts are passed over. -/
theorem isSome_get?_text {entries : Assoc Key Value} :
    (Assoc.get? (Key.text name) entries).isSome = true ↔ Key.text name ∈ Assoc.keys entries := by
  induction entries with
  | nil => simp [Assoc.get?, Assoc.keys]
  | cons entry rest ih =>
      have keys : Assoc.keys (entry :: rest) = entry.1 :: Assoc.keys rest := rfl
      rw [Assoc.get?, keys, List.mem_cons]
      by_cases here : entry.1 == Key.text name
      · simp [Key.eq_of_beq_text here]
      · have other : Key.text name ≠ entry.1 := fun same => here (same ▸ BEq.rfl)
        simp [here, other, ih]

/-- A mapping is read by its text keys. -/
theorem readable_mapping_iff {entries : Assoc Key Value} :
    (mapping entries).Readable name ↔ Key.text name ∈ Assoc.keys entries := by
  rw [Readable, ← isSome_get?_text]
  cases found : Assoc.get? (Key.text name) entries <;> simp [get, found]

/-- An object is read by the attributes that it has, whatever it declares. -/
theorem readable_object_iff {kind : ObjectKind} {declared : List String}
    {attributes : Assoc String Value} :
    (object kind declared attributes).Readable name ↔ name ∈ Assoc.keys attributes := by
  rw [Readable, Assoc.mem_keys_iff]
  cases found : Assoc.get? name attributes <;> cases kind <;> simp [get, found]

/-- **What is listed of a record is read of it** exactly if the record has namesakes.  There is one
case for each kind of record; a record that lists nothing it could be read by is refused, and does
not occur here. -/
theorem readable_iff_hasNamesakes (listed : record.properties = .ok names) :
    (∀ name ∈ names, record.Readable name) ↔ record.HasNamesakes := by
  cases record with
  | mapping entries =>
      obtain rfl := Except.ok.inj listed
      simp only [readable_mapping_iff, HasNamesakes, Assoc.keys, List.forall_mem_map]
  | object kind declared attributes =>
      simp only [readable_object_iff]
      cases kind with
      | plain =>
          obtain rfl := Except.ok.inj listed
          exact iff_of_true (fun name mem => List.mem_of_mem_filter mem) trivial
      | dataclass | model =>
          obtain rfl := Except.ok.inj listed
          exact Iff.rfl
  | bare v => cases listed

/-- A property that is not read is said to be missing, in the words for this kind of record. -/
theorem read_of_not_readable (missing : ¬ record.Readable name) :
    record.read name kind = fail (.missingProperty name record.absence) kind := by
  rw [read]
  cases found : record.get name with
  | ok v => exact absurd ⟨v, found⟩ missing
  | error e => rfl

end Record

/-! ### Inserts without mappings -/

/-- The columns that an insert without mappings fills, for a record that lists these properties. -/
def RowTarget.filled (table : Table) (declared : Declared) (properties : List String) :
    List Column :=
  if declared.isEmpty then properties.map fun p => .plain p table none
  else declared.among properties

theorem RowTarget.inferred_eq (table : Table) (declared : Declared) (properties : List String) :
    inferred table declared properties =
      Layout.ownProperties (filled table declared properties) := by
  unfold inferred filled
  split
  · rw [Layout.ownProperties, List.map_map]
    rfl
  · rfl

/-- What is filled is listed. -/
theorem RowTarget.name_mem_of_mem_filled {table : Table} {declared : Declared}
    {properties : List String} {c : Column} (mem : c ∈ filled table declared properties) :
    c.name ∈ properties := by
  unfold filled at mem
  split at mem
  · obtain ⟨p, listed, rfl⟩ := List.mem_map.mp mem
    exact listed
  · simpa using (List.mem_filter.mp mem).2

/-- Of columns with different names one of each name is filled.  Without declared columns the names
are the properties themselves. -/
theorem RowTarget.filled_injOn {table : Table} {declared : Declared} {properties : List String}
    (different : (declared.map (·.name)).Nodup) {c c' : Column}
    (mem : c ∈ filled table declared properties) (mem' : c' ∈ filled table declared properties)
    (same : c.name = c'.name) : c = c' := by
  unfold filled at mem mem'
  split at mem
  next undeclared =>
    rw [if_pos undeclared] at mem'
    obtain ⟨p, -, rfl⟩ := List.mem_map.mp mem
    obtain ⟨p', -, rfl⟩ := List.mem_map.mp mem'
    exact congrArg (Column.plain · table none) same
  next others =>
    rw [if_neg others] at mem'
    exact List.inj_on_of_nodup_map different (List.mem_of_mem_filter mem)
      (List.mem_of_mem_filter mem') same

/-- A catalog in which a table has one column. -/
def Catalog.ofColumn (table : Table) (name : String) : Catalog :=
  ⟨[(table, [.plain name table none])]⟩

namespace InsertRow

variable {catalog : Catalog} {dialect : Dialect} {table : Table} {record : Record}
  {names : List String} {columns : List Column} {e : Error}

/-- The columns, each bound to the property of its name. -/
def ownBindings (columns : List Column) : List Binding := columns.map fun c => ⟨c, c.name, false⟩

theorem bindingsOf_ownProperties (columns : List Column) :
    bindingsOf columns (Layout.ownProperties columns) = ownBindings columns := by
  unfold bindingsOf Layout.ownProperties ownBindings
  induction columns with
  | nil => rfl
  | cons c columns ih => exact congrArg (⟨c, c.name, false⟩ :: ·) ih

/-- The text of an insert into columns from the properties of their names. -/
def unmappedText (dialect : Dialect) (table : Table) (columns : List Column) : String :=
  ((insertFragment table.fragment (columns.map (·.name))
    [columns.map fun c => [.parameter c.name]]).render dialect).sql

/-- Behind the mappings an insert without mappings has its text at once, and can fail only where the
record is bound. -/
theorem finish_ownProperties (present : columns ≠ []) :
    finish record dialect table (Layout.ownProperties columns) =
      (⟨unmappedText dialect table columns, ·⟩) <$>
        bindRecord .insert id record (ownBindings columns) := by
  have some_left : (Layout.ownProperties columns).isEmpty = false := by
    simpa [Layout.ownProperties] using present
  have written : (Layout.ownProperties columns).mapM (rowExpression id) =
      .ok (columns.map fun c => [.parameter c.name]) := by
    rw [Layout.ownProperties, List.mapM_map]
    exact List.mapM_pure
  rw [finish, some_left, Layout.named_ownProperties, written, ← bindingsOf_ownProperties]
  show (bindRecord .insert id record _ >>= _) = _
  rw [map_eq_pure_bind]
  rfl

/-- **An insert without mappings, step by step**: the columns that are filled are accepted, and then
bound. -/
theorem render_unmapped (listed : record.properties = .ok names)
    (filled : RowTarget.filled table (catalog.columns table) names = columns) :
    render catalog ⟨⟨some table, []⟩, record⟩ dialect =
      RowTarget.accept .insert table (Layout.ownProperties columns) >>= fun _ =>
        (⟨unmappedText dialect table columns, ·⟩) <$>
          bindRecord .insert id record (ownBindings columns) := by
  have resolved : RowTarget.resolve .insert catalog ⟨some table, []⟩ record =
      RowTarget.accept .insert table (Layout.ownProperties columns) := by
    rw [RowTarget.resolve_some, listed, ← filled, ← RowTarget.inferred_eq]
    rfl
  rw [render, resolved]
  cases accepted : RowTarget.accept .insert table (Layout.ownProperties columns) with
  | error e => rfl
  | ok result =>
      obtain ⟨present, -, rfl⟩ := RowTarget.accept_eq_ok accepted
      -- what is inferred reads properties without a question, so nothing is dropped
      have stays : ∀ m ∈ Layout.ownProperties columns, keeps record m = .ok true := by
        intro m mem
        obtain ⟨c, -, rfl⟩ := List.mem_map.mp mem
        rfl
      show ((Layout.ownProperties columns).filterM (keeps record) >>=
        finish record dialect table) = _
      rw [filterM_of_forall stays]
      exact finish_ownProperties (by rintro rfl; exact present rfl)

/-- What is wrong with the columns that are to be filled: there are none, or the name of one cannot
be that of a parameter. -/
theorem accept_eq_error {kind : StatementKind}
    (refused : RowTarget.accept kind table (Layout.ownProperties columns) = .error e) :
    columns = [] ∧ e = .build ⟨.noMappedColumns, kind⟩ ∨
      ∃ c ∈ columns, Text.isIdentifier c.name = false ∧
        e = .build ⟨.invalidParameterName c.name, kind⟩ := by
  unfold RowTarget.accept at refused
  cases columns with
  | nil => exact .inl ⟨rfl, (Except.error.inj refused).symm⟩
  | cons first rest =>
      cases problems : (Layout.ownProperties (first :: rest)).findSome? RowTarget.problem? with
      | none =>
          rw [problems] at refused
          cases refused
      | some problem =>
          rw [problems] at refused
          obtain ⟨m, mem, found⟩ := List.exists_of_findSome?_eq_some problems
          obtain ⟨c, filled, rfl⟩ := List.mem_map.mp mem
          refine .inr ⟨c, filled, ?_⟩
          have asked : RowTarget.problem? ⟨.column c, .property c.name⟩ =
              if Text.isIdentifier c.name then none else some (.invalidParameterName c.name) := rfl
          rw [asked] at found
          split at found
          · cases found
          next other =>
            cases found
            exact ⟨Bool.eq_false_iff.mpr other, (Except.error.inj refused).symm⟩

/-- What is wrong with the properties that are to be bound: one is not read, or the conversion of
its value raises an error. -/
theorem bindRecord_eq_error {kind : StatementKind} {parameter : String → String}
    {bindings : List Binding} (refused : bindRecord kind parameter record bindings = .error e) :
    ∃ b ∈ bindings,
      (¬ record.Readable b.property ∧
        e = .build ⟨.missingProperty b.property record.absence, kind⟩) ∨
      ∃ v r, record.get b.property = .ok v ∧ b.column.convert v = .error (.raised r) ∧
        e = .raised r := by
  rcases bind_eq_error_iff.mp refused with refused | ⟨entries, -, none⟩
  · obtain ⟨b, mem, refused⟩ := exists_of_mapM_eq_error refused
    refine ⟨b, mem, ?_⟩
    rcases bind_eq_error_iff.mp refused with unread | ⟨v, read, refused⟩
    · have missing : ¬ record.Readable b.property := by
        rintro ⟨v, found⟩
        rw [Record.read_eq_ok_iff.mpr found] at unread
        cases unread
      rw [Record.read_of_not_readable missing] at unread
      exact .inl ⟨missing, (Except.error.inj unread).symm⟩
    · rcases bind_eq_error_iff.mp refused with unconverted | ⟨w, -, none⟩
      · obtain ⟨r, rfl⟩ := Column.raised_of_convert unconverted
        exact .inr ⟨v, r, Record.read_eq_ok_iff.mp read, unconverted, rfl⟩
      · cases none
  · cases none

/-- Columns that are bound receive their own values, if each is the only one of its name. -/
theorem receives_of_bindRecord {parameters : Parameters}
    (single : ∀ c ∈ columns, ∀ c' ∈ columns, c.name = c'.name → c = c')
    (bound : bindRecord .insert id record (ownBindings columns) = .ok parameters) :
    (∀ c ∈ columns, c.Receives c.name record c.name parameters) ∧
      ∀ name ∈ Assoc.keys parameters, ∃ c ∈ columns, c.name = name := by
  constructor
  · intro c mem
    have own : ⟨c, c.name, false⟩ ∈ ownBindings columns := List.mem_map_of_mem mem
    obtain ⟨w, v, read, converted⟩ := converts_of_bindRecord bound own
    -- the last binding of the name is that of the column
    obtain ⟨last, found⟩ := Binding.exists_last? own
    obtain ⟨own', same⟩ := Binding.mem_of_last? found
    obtain ⟨c', mem', rfl⟩ := List.mem_map.mp own'
    obtain rfl := single c' mem' c mem same
    exact ⟨w, v, read, converted,
      (get?_bindRecord Function.injective_id bound).mpr ⟨_, _, w, rfl, found, read, converted⟩⟩
  · intro name mem
    obtain ⟨b, own, same⟩ := (mem_keys_bindRecord bound).mp mem
    obtain ⟨c, mem, rfl⟩ := List.mem_map.mp own
    exact ⟨c, mem, same.symm⟩

/-- What becomes of an insert that fills columns from the properties of their names. -/
inductive Course (dialect : Dialect) (table : Table) (record : Record) (columns : List Column) :
    Except Error Rendered → Prop
  /-- No column is filled. -/
  | nothing : columns = [] → Course dialect table record columns (fail .noMappedColumns .insert)
  /-- The name of a column is no identifier. -/
  | unnamed {c : Column} : c ∈ columns → Text.isIdentifier c.name = false →
      Course dialect table record columns (fail (.invalidParameterName c.name) .insert)
  /-- A column is filled from a property that is listed but not read. -/
  | unread {c : Column} : c ∈ columns → Text.isIdentifier c.name = true →
      ¬ record.Readable c.name →
      Course dialect table record columns
        (fail (.missingProperty c.name record.absence) .insert)
  /-- The conversion of a column raises an error. -/
  | raised {c : Column} {v : Value} {r : Raised} : c ∈ columns → record.get c.name = .ok v →
      c.convert v = .error (.raised r) →
      Course dialect table record columns (.error (.raised r))
  /-- Every column receives its own value, and nothing else is bound. -/
  | rendered {parameters : Parameters} :
      (∀ c ∈ columns, c.Receives c.name record c.name parameters) →
      (∀ name ∈ Assoc.keys parameters, ∃ c ∈ columns, c.name = name) →
      Course dialect table record columns
        (.ok ⟨unmappedText dialect table columns, parameters⟩)

/-- **What becomes of an insert without mappings**, in a catalog whose columns have different names.
The steps of the insert are gone through one by one, and each can end it in one way. -/
theorem course (listed : record.properties = .ok names)
    (different : ((catalog.columns table).map (·.name)).Nodup) :
    Course dialect table record (RowTarget.filled table (catalog.columns table) names)
      (render catalog ⟨⟨some table, []⟩, record⟩ dialect) := by
  generalize filled : RowTarget.filled table (catalog.columns table) names = columns
  rw [render_unmapped listed filled]
  cases accepted : RowTarget.accept .insert table (Layout.ownProperties columns) with
  | error e =>
      rcases accept_eq_error accepted with ⟨none, rfl⟩ | ⟨c, mem, other, rfl⟩
      · exact .nothing none
      · exact .unnamed mem other
  | ok result =>
      obtain ⟨-, sound, rfl⟩ := RowTarget.accept_eq_ok accepted
      have identifier : ∀ c ∈ columns, Text.isIdentifier c.name = true := fun c mem =>
        RowTarget.isIdentifier_of_sound (sound _ (List.mem_map_of_mem mem)) rfl
      show Course dialect table record columns (_ <$> _)
      cases bound : bindRecord .insert id record (ownBindings columns) with
      | error e =>
          obtain ⟨b, mem, refused⟩ := bindRecord_eq_error bound
          obtain ⟨c, filled, rfl⟩ := List.mem_map.mp mem
          rcases refused with ⟨missing, rfl⟩ | ⟨v, r, read, unconverted, rfl⟩
          · exact .unread filled (identifier c filled) missing
          · exact .raised filled read unconverted
      | ok parameters =>
          -- the columns differ in their names, so no parameter is set by two of them
          obtain ⟨receives, alone⟩ := receives_of_bindRecord
            (fun c mem c' mem' => RowTarget.filled_injOn different (filled ▸ mem) (filled ▸ mem'))
            bound
          exact .rendered receives alone

/-- A record that an insert without mappings says to lack a property lists the property, and it is
an identifier. -/
theorem not_readable_of_render (listed : record.properties = .ok names) {name : String}
    {absence : Absence} {kind : StatementKind}
    (refused : render catalog ⟨⟨some table, []⟩, record⟩ dialect =
      fail (.missingProperty name absence) kind) :
    name ∈ names ∧ Text.isIdentifier name = true ∧ ¬ record.Readable name := by
  rw [render_unmapped listed rfl] at refused
  rcases bind_eq_error_iff.mp refused with refused | ⟨result, accepted, refused⟩
  · rcases accept_eq_error refused with ⟨-, ⟨⟩⟩ | ⟨c, -, -, ⟨⟩⟩
  · obtain ⟨-, sound, -⟩ := RowTarget.accept_eq_ok accepted
    obtain ⟨b, mem, refused⟩ := bindRecord_eq_error (map_eq_error_iff.mp refused)
    obtain ⟨c, filled, rfl⟩ := List.mem_map.mp mem
    rcases refused with ⟨missing, ⟨⟩⟩ | ⟨v, r, -, -, ⟨⟩⟩
    exact ⟨RowTarget.name_mem_of_mem_filled filled,
      RowTarget.isIdentifier_of_sound (sound _ (List.mem_map_of_mem filled)) rfl, missing⟩

/-- A record lacks a property that it lists, in a table of this column alone.  So a listed property
that is not read can always be noticed. -/
theorem render_of_not_readable (listed : record.properties = .ok names) {name : String}
    (mem : name ∈ names) (identifier : Text.isIdentifier name = true)
    (missing : ¬ record.Readable name) (table : Table) (dialect : Dialect) :
    render (.ofColumn table name) ⟨⟨some table, []⟩, record⟩ dialect =
      fail (.missingProperty name record.absence) .insert := by
  have columns : (Catalog.ofColumn table name).columns table = [.plain name table none] :=
    Catalog.columns_of_find? (by simp [Catalog.ofColumn])
  have filled : RowTarget.filled table ((Catalog.ofColumn table name).columns table) names =
      [.plain name table none] := by
    simp [columns, RowTarget.filled, Declared.among, mem]
  have different : (((Catalog.ofColumn table name).columns table).map (·.name)).Nodup := by
    simp [columns]
  have course : Course dialect table record _
      (render (.ofColumn table name) ⟨⟨some table, []⟩, record⟩ dialect) := course listed different
  rw [filled] at course
  generalize render _ _ _ = result at course ⊢
  -- the one column is filled and cannot be read, which leaves a single course
  cases course with
  | nothing none => cases none
  | unnamed mem other =>
      obtain rfl := List.mem_singleton.mp mem
      exact absurd (other.symm.trans identifier) Bool.false_ne_true
  | unread mem =>
      obtain rfl := List.mem_singleton.mp mem
      rfl
  | raised mem read =>
      obtain rfl := List.mem_singleton.mp mem
      exact absurd ⟨_, read⟩ missing
  | rendered receives =>
      obtain ⟨w, -, read, -⟩ := receives _ (List.mem_singleton.mpr rfl)
      exact absurd ⟨w, read⟩ missing

end InsertRow

/-- **What a record lists and what is read of it.**  All that is listed is read exactly if the
record has namesakes.  An insert of the record without mappings never finds a property missing,
whatever the columns of the table, exactly if all that is listed and an identifier is read.  In
every table whose columns have different names the insert renders with the record's own values, or
it is refused: for want of a column, for a name that is no identifier, for a property that is listed
and not read, or for what a conversion raises. -/
theorem Record.listed_readable_iff {record : Record} {names : List String}
    (listed : record.properties = .ok names) :
    ((∀ name ∈ names, record.Readable name) ↔ record.HasNamesakes) ∧
    (∀ table : Table,
      (∀ catalog dialect name absence kind,
        InsertRow.render catalog ⟨⟨some table, []⟩, record⟩ dialect ≠
          fail (.missingProperty name absence) kind) ↔
      ∀ name ∈ names, Text.isIdentifier name = true → record.Readable name) ∧
    ∀ (catalog : Catalog) (table : Table) (dialect : Dialect),
      ((catalog.columns table).map (·.name)).Nodup →
      InsertRow.Course dialect table record
        (RowTarget.filled table (catalog.columns table) names)
        (InsertRow.render catalog ⟨⟨some table, []⟩, record⟩ dialect) := by
  refine ⟨readable_iff_hasNamesakes listed, fun table => ⟨?_, ?_⟩, ?_⟩
  · intro never name mem identifier
    by_contra missing
    exact never _ .generic _ _ _
      (InsertRow.render_of_not_readable listed mem identifier missing table .generic)
  · intro readable catalog dialect name absence kind refused
    obtain ⟨mem, identifier, missing⟩ := InsertRow.not_readable_of_render listed refused
    exact missing (readable name mem identifier)
  · exact fun catalog table dialect different => InsertRow.course listed different

/-- A record with a value under no text. -/
def Record.keyedByNull : Record := .mapping [(.null, .int 1)]

/-- The key is listed under its name and is not found under it, so the record is not inserted. -/
theorem Record.listed_readable_iff_sample :
    keyedByNull.properties = .ok ["None"] ∧ ¬ (∀ name ∈ ["None"], keyedByNull.Readable name) ∧
    InsertRow.render {} ⟨⟨some ⟨0, "flags", none⟩, []⟩, keyedByNull⟩ .generic =
      fail (.missingProperty "None" .key) .insert := by
  have listed : keyedByNull.properties = .ok ["None"] := rfl
  refine ⟨listed, fun all => ?_, rfl⟩
  have namesake := (listed_readable_iff listed).1.mp all .null (List.mem_singleton.mpr rfl)
  cases List.mem_singleton.mp namesake

end BoundSql
