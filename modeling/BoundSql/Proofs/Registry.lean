import BoundSql.Proofs.Agreement.Record
import BoundSql.Proofs.Columns

/-!
# The registry of columns

A column may be declared again and again.  The first declaration of a name settles its place, and
the last converter that is given for it is the one that counts.  The registry matters most where an
insert of records has no mapping of its own: there the declared columns say what is filled.

## Columns from a history

What a table has declared is said by the history of declarations, without the code that keeps the
columns: every name once, in order of first declaration, with the last converter that was given
(`Catalog.registered`).  A declaration without a converter leaves the one that was given before.
That the catalog agrees is an invariant of all catalogs that come about (`Catalog.Sound`), shown for
the creation of a table and for a declaration.  Tables are found by their identity, so it belongs to
the invariant that tables are numbered by their places.

## Inserts without mappings

An insert fills the declared columns that are properties of its first record, in the order of the
registry and not in that of the record.  Since names are registered once, each parameter belongs to
one column, and what is bound is what the registered converter makes of the property
(`RecordInsert.Fills`).  This is stated for the three inserts of records alike.  It presupposes that
the insert renders; a property whose name is no identifier, or that a later record lacks, makes it
fail.

* `Catalog.Reached` : the catalogs that come about, each with the declarations made so far.
* `Catalog.registered` : the columns that the declarations amount to.
* `Catalog.Reached.sound` : those are the columns of every table.
* `RecordInsert.Fills` : what an insert does that fills columns from the properties of their names.
* `Catalog.registry` : the columns of a table, what a declaration returns, and what an insert
  without mappings makes of them.
-/

namespace BoundSql

@[simp]
theorem Column.plain_name (name : String) (table : Table) (converter? : Option Converter) :
    (Column.plain name table converter?).name = name := rfl

namespace Catalog

/-! ### Declarations -/

/-- A declaration of a column on a table, with or without a converter. -/
structure Declaration where
  table : Table
  name : String
  converter? : Option Converter

variable {table : Table} {name : String} {converter? : Option Converter}
  {history : List Declaration} {catalog : Catalog}

/-- The names that are declared on a table, in order and as often as they are declared. -/
def declaredNames (table : Table) (history : List Declaration) : List String :=
  (history.filter fun d => d.table = table).map (·.name)

/-- The last converter that is given for a name of a table. -/
def lastConverter? (table : Table) (name : String) (history : List Declaration) :
    Option Converter :=
  (history.filterMap fun d =>
    if d.table = table ∧ d.name = name then d.converter? else none).getLast?

/-- The columns that the declarations on a table amount to: every declared name once, in order of
first declaration, with the last converter that is given for it. -/
def registered (table : Table) (history : List Declaration) : Declared :=
  (declaredNames table history).eraseDups.map fun name =>
    .plain name table (lastConverter? table name history)

/-- One more declaration adds a name, if it is one on the table. -/
theorem declaredNames_concat (history : List Declaration) (d : Declaration) :
    declaredNames table (history ++ [d]) =
      declaredNames table history ++ if d.table = table then [d.name] else [] := by
  unfold declaredNames
  rw [List.filter_append, List.map_append, List.filter_singleton]
  by_cases own : d.table = table <;> simp [own]

/-- One more declaration of a name gives its converter, if it has one. -/
theorem lastConverter?_concat (history : List Declaration) (d : Declaration) :
    lastConverter? table name (history ++ [d]) =
      if d.table = table ∧ d.name = name then d.converter?.or (lastConverter? table name history)
      else lastConverter? table name history := by
  unfold lastConverter?
  rw [List.filterMap_append, List.getLast?_append]
  split
  case isTrue own => cases given : d.converter? <;> simp [own, given]
  case isFalse other => simp [other]

/-- A name that is not declared has no converter. -/
theorem lastConverter?_of_notMem (absent : name ∉ declaredNames table history) :
    lastConverter? table name history = none := by
  unfold lastConverter?
  rw [List.getLast?_eq_none_iff, List.filterMap_eq_nil_iff]
  intro d mem
  refine if_neg fun own => absent (List.mem_map.mpr ⟨d, ?_, own.2⟩)
  exact List.mem_filter.mpr ⟨mem, decide_eq_true own.1⟩

/-- A name is added behind the others, unless it is one of them. -/
theorem eraseDups_concat (names : List String) (name : String) :
    (names ++ [name]).eraseDups =
      if name ∈ names.eraseDups then names.eraseDups else names.eraseDups ++ [name] := by
  rw [List.eraseDups_append]
  by_cases known : name ∈ names <;> simp [known, List.removeAll, List.eraseDups_cons]

/-- Every name is kept once. -/
theorem nodup_eraseDups (names : List String) : names.eraseDups.Nodup := by
  induction names using List.reverseRecOn with
  | nil => exact List.nodup_nil
  | append_singleton names name ih =>
      rw [eraseDups_concat]
      split
      case isTrue => exact ih
      case isFalse absent => exact List.concat_eq_append ▸ ih.concat absent

/-- The registered names are the declared ones, each once. -/
theorem registered_names (table : Table) (history : List Declaration) :
    (registered table history).map (·.name) = (declaredNames table history).eraseDups := by
  unfold registered
  rw [List.map_map]
  exact List.map_id _

/-- A declared name is registered, with its last converter. -/
theorem find?_registered (declared : name ∈ declaredNames table history) :
    (registered table history).find? (fun c => c.name == name) =
      some (.plain name table (lastConverter? table name history)) := by
  unfold registered
  have through : (fun c : Column => c.name == name) ∘
      (fun n => .plain n table (lastConverter? table n history)) = (· == name) := rfl
  have known : ((declaredNames table history).eraseDups.find? (· == name)).isSome :=
    List.find?_isSome.mpr ⟨name, List.mem_eraseDups.mpr declared, beq_self_eq_true name⟩
  obtain ⟨n, found⟩ := Option.isSome_iff_exists.mp known
  obtain rfl : n = name := by simpa using List.find?_some found
  rw [List.find?_map, through, found, Option.map_some]

/-- A declaration changes the first column, if it has the name, or else those behind it. -/
theorem declare_cons (c : Column) (rest : Declared) :
    Declared.declare table name converter? (c :: rest) =
      if c.name = name then
        let c := { c with converter? := converter?.or c.converter? }
        (c, c :: rest)
      else
        let (found, rest) := Declared.declare table name converter? rest
        (found, c :: rest) := by
  cases converter? <;> rfl

/-- A declaration on a table whose columns have different names.  A name that is there keeps its
place and perhaps gets another converter; one that is not is put at the end. -/
theorem declare_map (table : Table) (name : String) (converter? : Option Converter)
    (converters : String → Option Converter) {names : List String} (different : names.Nodup)
    (absent : name ∉ names → converters name = none) :
    Declared.declare table name converter? (names.map fun n => .plain n table (converters n)) =
      (.plain name table (converter?.or (converters name)),
        (if name ∈ names then names else names ++ [name]).map fun n =>
          .plain n table (if name = n then converter?.or (converters n) else converters n)) := by
  induction names with
  | nil => simp [Declared.declare, absent]
  | cons first rest ih =>
      obtain ⟨apart, different⟩ := List.nodup_cons.mp different
      rw [List.map_cons, declare_cons, Column.plain_name]
      by_cases here : first = name
      · subst here
        -- the other columns have other names
        have others : (rest.map fun n => Column.plain n table
            (if first = n then converter?.or (converters n) else converters n)) =
              rest.map fun n => Column.plain n table (converters n) := by
          refine List.map_congr_left fun n mem => ?_
          rw [if_neg]
          rintro rfl
          exact apart mem
        rw [if_pos rfl, if_pos List.mem_cons_self, List.map_cons, others]
        simp [Column.plain]
      · have later : name ∉ rest → converters name = none := fun notMem =>
          absent fun mem => (List.mem_cons.mp mem).elim (fun same => here same.symm) notMem
        rw [if_neg here, ih different later]
        by_cases known : name ∈ rest <;> simp [known, Ne.symm here]

/-- **One declaration** takes the registered columns to those of the longer history, and returns the
column that is then registered under the name.  The column that is returned has the converter of an
earlier declaration, if this one gives none. -/
theorem declare_registered (table : Table) (name : String) (converter? : Option Converter)
    (history : List Declaration) :
    (registered table history).declare table name converter? =
      (.plain name table (lastConverter? table name (history ++ [⟨table, name, converter?⟩])),
        registered table (history ++ [⟨table, name, converter?⟩])) := by
  have declared := declare_map table name converter? (lastConverter? table · history)
    (nodup_eraseDups (declaredNames table history))
    fun absent => lastConverter?_of_notMem (mt List.mem_eraseDups.mpr absent)
  have known : ∀ n, lastConverter? table n (history ++ [⟨table, name, converter?⟩]) =
      if name = n then converter?.or (lastConverter? table n history)
      else lastConverter? table n history := by
    intro n
    rw [lastConverter?_concat]
    simp
  simp only [registered, declared, known, if_true, declaredNames_concat, eraseDups_concat]

/-- A declaration on another table leaves the registered columns as they are. -/
theorem registered_of_ne {d : Declaration} (other : d.table ≠ table) :
    registered table (history ++ [d]) = registered table history := by
  simp [registered, declaredNames_concat, lastConverter?_concat, other]

/-! ### Catalogs -/

/-- The tables of a catalog. -/
def tables (catalog : Catalog) : List Table := catalog.entries.map Prod.fst

/-- The catalogs that come about from an empty one, as tables are created and columns are declared
on them, with the declarations made so far. -/
inductive Reached : List Declaration → Catalog → Prop
  | start : Reached [] {}
  | create {history : List Declaration} {catalog catalog' : Catalog} {name : String}
      {schema? : Option String} {table : Table} : Reached history catalog →
      catalog.create name schema? = .ok (table, catalog') → Reached history catalog'
  | declare {history : List Declaration} {catalog : Catalog} (d : Declaration) :
      Reached history catalog → d.table ∈ catalog.tables →
      Reached (history ++ [d]) (catalog.declare d.table d.name d.converter?).2

/-- What is known of a catalog: tables are numbered by their places, columns are declared on them
only, and the columns of each are those that its declarations amount to. -/
structure Sound (history : List Declaration) (catalog : Catalog) : Prop where
  numbered : ∀ {k : Nat} {table : Table}, catalog.tables[k]? = some table → table.id = k
  known : ∀ d ∈ history, d.table ∈ catalog.tables
  columns_eq : ∀ table ∈ catalog.tables, catalog.columns table = registered table history

/-- An entry of the catalog belongs to the table in the same place. -/
theorem getElem?_tables {k : Nat} {entry : Table × Declared}
    (at? : catalog.entries[k]? = some entry) : catalog.tables[k]? = some entry.1 := by
  rw [tables, List.getElem?_map, at?, Option.map_some]

/-- The entry of a table is found under its identity. -/
theorem Sound.find?_entry (sound : Sound history catalog) (created : table ∈ catalog.tables) :
    ∃ columns, (catalog.entries.find? fun entry => entry.1.id == table.id) =
      some (table, columns) := by
  obtain ⟨⟨own, columns⟩, mem, rfl⟩ := List.mem_map.mp created
  obtain ⟨entry, found⟩ := Option.isSome_iff_exists.mp <| List.find?_isSome.mpr
    (show ∃ entry ∈ catalog.entries, (entry.1.id == own.id) = true from
      ⟨_, mem, beq_self_eq_true _⟩)
  -- two entries of one identity stand at one place
  obtain ⟨j, at_j⟩ := List.mem_iff_getElem?.mp mem
  obtain ⟨k, at_k⟩ := List.mem_iff_getElem?.mp (List.mem_of_find?_eq_some found)
  have same : entry.1.id = own.id := by simpa using List.find?_some found
  obtain rfl : j = k := by
    rw [← sound.numbered (getElem?_tables at_j), ← sound.numbered (getElem?_tables at_k), same]
  obtain rfl := Option.some.inj (at_j.symm.trans at_k)
  exact ⟨columns, found⟩

/-- A table is the only one of its identity. -/
theorem Sound.eq_of_id (sound : Sound history catalog) {other : Table}
    (created : table ∈ catalog.tables) (created' : other ∈ catalog.tables)
    (same : other.id = table.id) : other = table := by
  obtain ⟨columns, found⟩ := sound.find?_entry created
  obtain ⟨columns', found'⟩ := sound.find?_entry created'
  rw [same, found] at found'
  exact (congrArg Prod.fst (Option.some.inj found')).symm

/-- The columns of a table are those of its entry. -/
theorem columns_of_find? {columns : Declared}
    (found : (catalog.entries.find? fun entry => entry.1.id == table.id) = some (table, columns)) :
    catalog.columns table = columns := by
  rw [Catalog.columns, found]

/-- A declaration is kept by the table that it is made on, and the other tables keep what they
have. -/
theorem Sound.columns_declare (sound : Sound history catalog) {other : Table}
    (created : table ∈ catalog.tables) (created' : other ∈ catalog.tables) (name : String)
    (converter? : Option Converter) :
    (catalog.declare table name converter?).2.columns other =
      if other = table then ((catalog.columns table).declare table name converter?).2
      else catalog.columns other := by
  obtain ⟨columns, found⟩ := sound.find?_entry created'
  rw [columns_of_find? found]
  refine columns_of_find? ?_
  -- entries are changed in place, so they are found as before
  show ((catalog.entries.map _).find? _) = _
  rw [List.find?_map]
  have through : ∀ declared : Declared,
      (fun entry : Table × Declared => entry.1.id == other.id) ∘ (fun entry =>
        if entry.1.id == table.id then (entry.1, declared) else entry) =
      fun entry => entry.1.id == other.id := by
    intro declared
    funext entry
    rw [Function.comp_apply]
    split <;> rfl
  rw [through, found, Option.map_some]
  by_cases own : other = table
  · rw [if_pos own, own, beq_self_eq_true, if_pos rfl]
  · rw [if_neg own, if_neg]
    exact fun same => own (sound.eq_of_id created created' (beq_iff_eq.mp same))

/-- A declaration adds no table. -/
theorem tables_declare (catalog : Catalog) (table : Table) (name : String)
    (converter? : Option Converter) :
    (catalog.declare table name converter?).2.tables = catalog.tables := by
  show (catalog.entries.map _).map Prod.fst = catalog.entries.map Prod.fst
  rw [List.map_map]
  refine List.map_congr_left fun entry _ => ?_
  rw [Function.comp_apply]
  split <;> rfl

/-- What is declared on other tables only amounts to nothing. -/
theorem registered_of_notMem (absent : ∀ d ∈ history, d.table ≠ table) :
    registered table history = [] := by
  have none : history.filter (fun d => d.table = table) = [] :=
    List.filter_eq_nil_iff.mpr fun d mem => by simpa using absent d mem
  rw [registered, declaredNames, none]
  rfl

/-- The columns of a table stay as they are when another one is added. -/
theorem Sound.columns_concat (sound : Sound history catalog) (mem : table ∈ catalog.tables)
    (entry : Table × List Column) :
    columns ⟨catalog.entries ++ [entry]⟩ table = catalog.columns table := by
  obtain ⟨columns, found⟩ := sound.find?_entry mem
  rw [columns_of_find? found]
  refine columns_of_find? ?_
  rw [List.find?_append, found, Option.some_or]

/-- A table that is added has the columns that it is added with. -/
theorem columns_concat_self {fresh : Table} {own : List Column}
    (apart : ∀ table ∈ catalog.tables, table.id ≠ fresh.id) :
    columns ⟨catalog.entries ++ [(fresh, own)]⟩ fresh = own := by
  refine columns_of_find? ?_
  rw [List.find?_append, List.find?_eq_none.mpr, Option.none_or, List.find?_singleton,
    beq_self_eq_true, if_pos rfl]
  intro entry mem same
  exact apart entry.1 (List.mem_map_of_mem mem) (beq_iff_eq.mp same)

/-- A new table has no columns, and those of the others stay as they are.  Its number is that of its
place, so it is the only one of its identity. -/
theorem Sound.create {name : String} {schema? : Option String} {catalog' : Catalog}
    (sound : Sound history catalog) (h : catalog.create name schema? = .ok (table, catalog')) :
    Sound history catalog' := by
  unfold Catalog.create at h
  split at h
  case isTrue => cases h
  case isFalse =>
    obtain ⟨rfl, rfl⟩ := Prod.mk.inj (Except.ok.inj h)
    generalize fresh_eq : Table.mk catalog.entries.length name schema? = fresh
    have place : fresh.id = catalog.tables.length := by
      rw [← fresh_eq, tables, List.length_map]
    -- the number of a table is its place, so a new one is unlike all before it and nothing was
    -- registered for it
    have apart : ∀ table ∈ catalog.tables, table.id ≠ fresh.id := by
      intro table mem
      obtain ⟨k, at?⟩ := List.mem_iff_getElem?.mp mem
      rw [sound.numbered at?, place]
      exact Nat.ne_of_lt (List.getElem?_eq_some_iff.mp at?).1
    have tables_eq : tables ⟨catalog.entries ++ [(fresh, [])]⟩ = catalog.tables ++ [fresh] :=
      List.map_append
    constructor
    case numbered =>
      intro k table at?
      rw [tables_eq, List.getElem?_append] at at?
      split at at?
      case isTrue => exact sound.numbered at?
      case isFalse behind =>
        obtain ⟨last, rfl⟩ := List.getElem?_eq_some_iff.mp at?
        rw [List.length_singleton] at last
        rw [List.getElem_singleton, place]
        omega
    case known =>
      intro d mem
      rw [tables_eq]
      exact List.mem_append_left _ (sound.known d mem)
    case columns_eq =>
      intro table mem
      rw [tables_eq] at mem
      rcases List.mem_append.mp mem with old | new
      · rw [← sound.columns_eq table old]
        exact sound.columns_concat old _
      · obtain rfl := List.mem_singleton.mp new
        have unused : registered table history = [] :=
          registered_of_notMem fun d mem same => apart d.table (sound.known d mem) (by rw [same])
        rw [unused]
        exact columns_concat_self apart

/-- A declaration takes the columns of its table to those of the longer history. -/
theorem Sound.declare (sound : Sound history catalog) (d : Declaration)
    (created : d.table ∈ catalog.tables) :
    Sound (history ++ [d]) (catalog.declare d.table d.name d.converter?).2 := by
  have tables_eq := tables_declare catalog d.table d.name d.converter?
  constructor
  case numbered =>
    rw [tables_eq]
    exact sound.numbered
  case known =>
    intro d' mem
    rw [tables_eq]
    rcases List.mem_append.mp mem with earlier | last
    · exact sound.known d' earlier
    · rwa [List.mem_singleton.mp last]
  case columns_eq =>
    intro table mem
    rw [tables_eq] at mem
    rw [sound.columns_declare created mem]
    split
    case isTrue own => rw [own, sound.columns_eq _ created, declare_registered]
    case isFalse other => rw [sound.columns_eq _ mem, registered_of_ne (Ne.symm other)]

/-- **The columns of every table are those that its declarations amount to**, in every catalog that
comes about.  The induction is over how it has come about. -/
theorem Reached.sound (reached : Reached history catalog) : Sound history catalog := by
  induction reached with
  | start => exact ⟨fun at? => by simp [tables] at at?, by simp, by simp [tables]⟩
  | create _ created ih => exact ih.create created
  | declare d _ created ih => exact ih.declare d created

end Catalog

/-! ### Inserts without mappings -/

namespace Layout

variable {table : Table} {columns : List Column}

/-- The mappings that fill columns from the properties of their names. -/
def ownProperties (columns : List Column) : List Mapping :=
  columns.map fun c => ⟨.column c, .property c.name⟩

/-- The layout of those mappings. -/
def ofProperties (table : Table) (columns : List Column) : Layout :=
  ⟨table, columns.zip (ownProperties columns)⟩

/-- The columns that are filled are named by their mappings. -/
theorem named_ownProperties (columns : List Column) :
    (ownProperties columns).mapM Mapping.named = .ok columns := by
  unfold ownProperties
  rw [List.mapM_map]
  exact mapM_eq_ok_iff.mpr (List.forall₂_same.mpr fun _ _ => rfl)

/-- The layout has the names of the columns. -/
theorem names_ofProperties : names (ofProperties table columns) = columns.map (·.name) :=
  names_zip (length_eq_of_named (named_ownProperties columns))

theorem ofMappings_ownProperties :
    ofMappings table (ownProperties columns) = .ok (ofProperties table columns) :=
  ofMappings_of_named (named_ownProperties columns)

/-- The cell of a column reads the property of its name. -/
theorem getElem?_ofProperties {j : Nat} {c : Column} (at? : columns[j]? = some c) :
    (ofProperties table columns).cells[j]? = some (c, ⟨.column c, .property c.name⟩) := by
  refine List.getElem?_zip_eq_some.mpr ⟨at?, ?_⟩
  rw [ownProperties, List.getElem?_map, at?, Option.map_some]

theorem properties_ofProperties :
    (ofProperties table columns).bindings.map (·.property) = columns.map (·.name) := by
  unfold ofProperties ownProperties
  induction columns with
  | nil => rfl
  | cons c rest ih => exact congrArg (c.name :: ·) ih

end Layout

/-- Without mappings of the caller's, the mappings that take effect are inferred from the properties
that the record lists. -/
theorem RowTarget.resolve_unmapped {kind : StatementKind} {catalog : Catalog} {table : Table}
    {sample : Record} {result : Table × List Mapping}
    (h : resolve kind catalog ⟨some table, []⟩ sample = .ok result) :
    ∃ properties, sample.properties = .ok properties ∧
      result = (table, inferred table (catalog.columns table) properties) := by
  rw [resolve_some] at h
  obtain ⟨chosen, choice, h⟩ := bind_eq_ok_iff.mp h
  obtain ⟨properties, listed, rfl⟩ := map_eq_ok_iff.mp choice
  exact ⟨properties, listed, (accept_eq_ok h).2.2⟩

/-- The declared columns whose names are properties. -/
def Declared.among (properties : List String) (declared : Declared) : Declared :=
  declared.filter fun c => properties.contains c.name

namespace RecordInsert

variable {catalog : Catalog} {dialect : Dialect} {b : RecordInsert} {table : Table}
  {sample : Record} {rest : List Record}

/-- Without mappings those take effect that are inferred from the first record, in all three
inserts.  The insert of one record drops none of them, since they do not ask for a property to be
present. -/
theorem effective_unmapped (into : b.target = ⟨some table, []⟩) (first : b.records = sample :: rest)
    {result : Table × List Mapping} (effective : b.effective catalog = .ok result) :
    ∃ properties, sample.properties = .ok properties ∧
      result = (table, RowTarget.inferred table (catalog.columns table) properties) := by
  cases b with
  | row i =>
      obtain ⟨target, row⟩ := i
      obtain rfl : target = ⟨some table, []⟩ := into
      obtain ⟨rfl, -⟩ := List.cons.inj first
      obtain ⟨resolved, hresolved, effective⟩ := bind_eq_ok_iff.mp effective
      obtain ⟨properties, listed, rfl⟩ := RowTarget.resolve_unmapped hresolved
      -- what is inferred reads properties without a question, so nothing is dropped
      have stays : ∀ m ∈ RowTarget.inferred table (catalog.columns table) properties,
          ((!·) <$> InsertRow.drops row m) = .ok true := by
        intro m mem
        obtain ⟨c, rfl⟩ := RowTarget.exists_of_mem_inferred mem
        rfl
      obtain ⟨kept, hkept, same⟩ := bind_eq_ok_iff.mp effective
      obtain rfl := Except.ok.inj ((filterM_of_forall stays).symm.trans hkept)
      exact ⟨properties, listed, (pure_eq_ok_iff.mp same).symm⟩
  | batch i =>
      obtain ⟨target, records⟩ := i
      obtain rfl : target = ⟨some table, []⟩ := into
      obtain rfl : records = sample :: rest := first
      exact RowTarget.resolve_unmapped effective
  | multiple i =>
      obtain ⟨target, records⟩ := i
      obtain rfl : target = ⟨some table, []⟩ := into
      obtain rfl : records = sample :: rest := first
      exact RowTarget.resolve_unmapped effective

/-- Without mappings the declared columns are filled that are properties of the first record. -/
theorem layout_unmapped (into : b.target = ⟨some table, []⟩) (declared : catalog.columns table ≠ [])
    (first : b.records = sample :: rest) {l : Layout} (h : b.layout catalog = .ok l) :
    ∃ properties, sample.properties = .ok properties ∧
      l = .ofProperties table ((catalog.columns table).among properties) := by
  obtain ⟨result, effective, h⟩ := bind_eq_ok_iff.mp h
  obtain ⟨properties, listed, rfl⟩ := effective_unmapped into first effective
  refine ⟨properties, listed, ?_⟩
  rw [RowTarget.inferred, if_neg (by simpa using declared)] at h
  exact Except.ok.inj (h.symm.trans Layout.ofMappings_ownProperties)

/-- What it means that an insert fills columns from the properties of their names: its text lists
them, and whatever is executed has, for every record and column, a parameter in the place of the
column that holds what the column makes of the property. -/
structure Fills (dialect : Dialect) (b : RecordInsert) (product : Product) (table : Table)
    (columns : List Column) (tuples : List (List Fragment)) : Prop where
  tuples_eq : b.tuples (.ofProperties table columns) = .ok tuples
  text_eq : product.text = ((insertFragment table.fragment (columns.map (·.name)) tuples).render
    dialect).sql
  binds : ∀ {statements : List Rendered}, product.statements = .ok statements →
    ∀ {k : Nat} {record : Record}, b.records[k]? = some record →
    ∃ s tuple, statements[b.statementOf k]? = some s ∧ s.sql = product.text ∧
      tuples[b.tupleOf k]? = some tuple ∧
      ∀ {j : Nat} {column : Column}, columns[j]? = some column →
        tuple[j]? = some [.parameter (b.parameter k column.name)] ∧
        column.Receives column.name record (b.parameter k column.name) s.parameters

/-- **An insert without mappings fills the declared columns that are properties of the first
record**, each through its own converter.  That the columns have different names is needed, because
they share their parameters by name. -/
theorem fills_of_unmapped (different : ((catalog.columns table).map (·.name)).Nodup)
    (into : b.target = ⟨some table, []⟩) (declared : catalog.columns table ≠ [])
    (first : b.records = sample :: rest) {product : Product}
    (h : b.builder.render catalog dialect = .ok product) :
    ∃ properties tuples, sample.properties = .ok properties ∧
      b.Fills dialect product table ((catalog.columns table).among properties) tuples := by
  obtain ⟨l, tuples, layout, written, text⟩ := exists_layout (by simp [first]) h
  obtain ⟨properties, listed, rfl⟩ := layout_unmapped into declared first layout
  refine ⟨properties, tuples, listed, written, ?_, ?_⟩
  · rw [text, Layout.text, Layout.names_ofProperties]
    rfl
  · intro statements made k record at?
    obtain ⟨l, s, tuple, placed⟩ :=
      placed_of_statements (bind_eq_ok_iff.mpr ⟨product, h, made⟩) at?
    obtain rfl := Except.ok.inj (layout.symm.trans placed.layout_eq)
    obtain ⟨tuples', written', same_text, standing⟩ := placed.text_eq
    obtain rfl := Except.ok.inj (written.symm.trans written')
    refine ⟨s, tuple, placed.statement_eq, same_text.trans text.symm, standing, ?_⟩
    intro j column listed_at
    have cell : (Layout.ofProperties table _).cells[j]? = _ :=
      Layout.getElem?_ofProperties listed_at
    refine ⟨Layout.getElem?_tuple placed.tuple_eq cell rfl,
      placed.receives_of_nodup ?_ cell rfl⟩
    rw [Layout.properties_ofProperties]
    exact different.sublist (List.filter_sublist.map _)

end RecordInsert

/-! ### The registry -/

namespace Catalog

variable {history : List Declaration} {catalog : Catalog} {table : Table}

/-- **The registry of columns.**  In every catalog that comes about, a table has every declared name
once, in order of first declaration and with the last converter given for it, and every further
declaration returns the column that is then registered under its name.  An insert without mappings
into a table with columns lists, when it renders, the declared names that are properties of the
first record, in this order, and binds every value through the registered converter. -/
theorem registry (reached : Reached history catalog) (created : table ∈ catalog.tables) :
    catalog.columns table = registered table history ∧
    ((catalog.columns table).map (·.name)).Nodup ∧
    (∀ name converter?,
      ((catalog.declare table name converter?).2.columns table).find? (fun c => c.name == name) =
        some (catalog.declare table name converter?).1) ∧
    ∀ (b : RecordInsert) (dialect : Dialect) (product : Product) (sample : Record)
      (rest : List Record), b.target = ⟨some table, []⟩ → catalog.columns table ≠ [] →
      b.records = sample :: rest → b.builder.render catalog dialect = .ok product →
      ∃ properties tuples, sample.properties = .ok properties ∧
        b.Fills dialect product table ((registered table history).among properties) tuples := by
  have sound := reached.sound
  have columns := sound.columns_eq table created
  have different : ((catalog.columns table).map (·.name)).Nodup := by
    rw [columns, registered_names]
    exact nodup_eraseDups _
  refine ⟨columns, different, fun name converter? => ?_, ?_⟩
  · rw [sound.columns_declare created created, if_pos rfl, Catalog.declare, columns,
      declare_registered]
    refine find?_registered ?_
    rw [declaredNames_concat, if_pos rfl]
    exact List.mem_append_right _ List.mem_cons_self
  · rw [← columns]
    exact fun b dialect product sample rest into declared first h =>
      RecordInsert.fills_of_unmapped different into declared first h

/-- A table for staff. -/
def staff : Table := ⟨0, "staff", none⟩

/-- Says of a value only whether there is one. -/
def shown : Converter := fun v => .ok (.text (if v.isNull then "none" else "some"))

/-- A history in which a name is declared again, with a converter. -/
def redeclared : List Declaration :=
  [⟨staff, "id", none⟩, ⟨staff, "name", none⟩, ⟨staff, "age", none⟩, ⟨staff, "id", some shown⟩]

/-- The catalog after the history. -/
def redeclaredCatalog : Catalog :=
  ⟨[(staff, [.plain "id" staff (some shown), .plain "name" staff none, .plain "age" staff none])]⟩

/-- An insert of a record that lists its properties in another order, and not all. -/
def unmapped : RecordInsert :=
  .row ⟨⟨some staff, []⟩, .mapping [(.text "name", .text "ann"), (.text "id", .int 7)]⟩

/-- The name that is declared twice keeps its place, and its last converter is used. -/
theorem registry_sample :
    Reached redeclared redeclaredCatalog ∧ staff ∈ redeclaredCatalog.tables ∧
    redeclaredCatalog.columns staff = registered staff redeclared ∧
    unmapped.builder.render redeclaredCatalog .generic = .ok (.statement
      ⟨"INSERT INTO staff (id, name) VALUES (:id, :name)",
        [("id", .text "some"), ("name", .text "ann")]⟩) ∧
    ∃ tuples, unmapped.Fills .generic (.statement
      ⟨"INSERT INTO staff (id, name) VALUES (:id, :name)",
        [("id", .text "some"), ("name", .text "ann")]⟩) staff
      ((registered staff redeclared).among ["name", "id"]) tuples := by
  have started : Reached [] ⟨[(staff, [])]⟩ :=
    Reached.start.create (show Catalog.create {} "staff" none = .ok (staff, _) from rfl)
  have created : staff ∈ redeclaredCatalog.tables := List.mem_cons_self
  have reached : Reached redeclared redeclaredCatalog :=
    (((started.declare ⟨staff, "id", none⟩ List.mem_cons_self).declare
      ⟨staff, "name", none⟩ List.mem_cons_self).declare
      ⟨staff, "age", none⟩ List.mem_cons_self).declare
      ⟨staff, "id", some shown⟩ List.mem_cons_self
  have rendered : unmapped.builder.render redeclaredCatalog .generic = .ok (.statement
      ⟨"INSERT INTO staff (id, name) VALUES (:id, :name)",
        [("id", .text "some"), ("name", .text "ann")]⟩) := rfl
  obtain ⟨columns, -, -, fills⟩ := registry reached created
  obtain ⟨properties, tuples, listed, filled⟩ := fills unmapped .generic _ _ _ rfl
    (by simp [redeclaredCatalog, Catalog.columns]) rfl rendered
  obtain rfl := Except.ok.inj listed
  exact ⟨reached, created, columns, rendered, tuples, filled⟩

end Catalog

end BoundSql
