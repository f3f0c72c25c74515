import BoundSql.Proofs.Agreement.Numbered
import BoundSql.Proofs.Layout

/-!
# Inserts of records with free string constants

The inserts of records name their parameters by property, and the columns that they fill may be
inferred from a record.  Their texts are those of a layout, so it is enough to look at its cells.

A cell has a name and a value expression.  Where the mapping is the caller's, both are texts of the
builder.  Where it is inferred, the name is that of a property of the first record, which is not
among the texts; but properties that are bound have to be identifiers, and no identifier has a mark
(`Text.notMem_of_isIdentifier`).  `Mapping.Suits` is what is needed in either case, and says nothing
about where the mapping comes from.

* `RecordInsert.stringConstants`, `RecordInsert.verbatim` : the string constants of an insert, and
  the other texts that it takes over.
* `RecordInsert.exists_spells` : every statement of an insert is written of a text in which the
  string constants are free.
-/

namespace BoundSql

/-- An identifier has no mark.  It may have characters that are none of a word, which is another
matter. -/
theorem Text.notMem_of_isIdentifier {c : Char} (mark : isMark c = true) {s : String}
    (h : isIdentifier s = true) : c ∉ s.toList := by
  simp only [isMark, Bool.or_eq_true, beq_iff_eq] at mark
  unfold isIdentifier at h
  cases letters : s.toList with
  | nil => simp
  | cons first rest =>
      rw [letters, isIdentifierList, Bool.and_eq_true, List.all_eq_true] at h
      rintro (_ | ⟨_, mem⟩)
      · rcases mark with (rfl | rfl) | rfl <;> exact absurd h.1 (by decide)
      · have continues := h.2 c mem
        rcases mark with (rfl | rfl) | rfl <;> exact absurd continues (by decide)

/-! ### The mappings that take effect -/

namespace RowTarget

variable {kind : StatementKind} {catalog : Catalog} {t : RowTarget} {sample : Record}
  {table : Table} {mappings : List Mapping}

/-- The mappings that take effect are those of the caller's, or none are and they are inferred. -/
theorem resolve_eq_ok (h : t.resolve kind catalog sample = .ok (table, mappings)) :
    t.table? = some table ∧
      (t.mappings ≠ [] ∧ mappings = t.mappings ∨ t.mappings = [] ∧
        ∃ properties, mappings = inferred table (catalog.columns table) properties) := by
  obtain ⟨table?, given⟩ := t
  cases table? with
  | none => cases h
  | some own =>
      rw [resolve_some] at h
      obtain ⟨chosen, choice, h⟩ := bind_eq_ok_iff.mp h
      obtain ⟨-, -, same⟩ := accept_eq_ok h
      obtain ⟨rfl, rfl⟩ := Prod.mk.inj same
      refine ⟨rfl, ?_⟩
      cases given with
      | nil =>
          obtain ⟨properties, -, rfl⟩ := map_eq_ok_iff.mp choice
          exact .inr ⟨rfl, properties, rfl⟩
      | cons m rest => exact .inl ⟨List.cons_ne_nil _ _, (pure_eq_ok_iff.mp choice).symm⟩

/-- What is inferred is a column for the property of its name. -/
theorem exists_of_mem_inferred {declared : Declared} {properties : List String} {m : Mapping}
    (mem : m ∈ inferred table declared properties) :
    ∃ column, m = ⟨.column column, .property column.name⟩ := by
  unfold inferred at mem
  split at mem
  · obtain ⟨p, -, rfl⟩ := List.mem_map.mp mem
    exact ⟨.plain p table none, rfl⟩
  · obtain ⟨column, -, rfl⟩ := List.mem_map.mp mem
    exact ⟨column, rfl⟩

end RowTarget

/-! ### Cells -/

variable {constants : List String} {column : Column} {m : Mapping}

/-- The cell takes over no text with a colon, unless it is one of the string constants. -/
structure Mapping.Suits (constants : List String) (column : Column) (m : Mapping) : Prop where
  name : ':' ∉ column.name.toList
  constant : ∀ {sql}, m.origin = .constant sql → ':' ∉ sql.toList
  stringConstant : ∀ {text}, m.stringConstant? = some text → text ∈ constants

/-- A mapping of the caller's suits if its texts do. -/
theorem Mapping.suits_of_plain (plain : Plain ':' m.verbatim) (named : m.named = .ok column)
    (given : ∀ text, m.stringConstant? = some text → text ∈ constants) :
    m.Suits constants column where
  name := colon_notMem_named plain named
  constant := by
    intro sql origin
    refine plain sql ?_
    simp [verbatim, stringConstant?, texts, origin]
  stringConstant := given _

/-- A mapping that is inferred suits, as properties are identifiers. -/
theorem Mapping.suits_of_inferred {own : Column} (inferred : m = ⟨.column own, .property own.name⟩)
    (sound : RowTarget.problem? m = none) (named : m.named = .ok column) :
    m.Suits constants column := by
  subst inferred
  obtain rfl := Except.ok.inj named
  constructor
  case name =>
    exact Text.notMem_of_isIdentifier (by decide) (RowTarget.isIdentifier_of_sound sound rfl)
  case constant => rintro sql ⟨⟩
  case stringConstant => rintro text ⟨⟩

/-- The value expression of a cell that suits. -/
theorem Mapping.Suits.madeOf_rowExpression (suits : m.Suits constants column)
    {parameter : String → String} {f : Fragment} (h : rowExpression parameter m = .ok f) :
    f.MadeOf constants true ∧
      (∀ text, m.stringConstant? = some text → Piece.literal text ∈ f) ∧
      ∀ name, Piece.parameter name ∈ f ↔
        ∃ property, m.property? = some property ∧ name = parameter property := by
  unfold rowExpression at h
  split at h
  case h_1 p reads =>
    obtain rfl := Except.ok.inj h
    refine ⟨.singleton rfl, fun text constant => ?_, fun name => by simp [reads]⟩
    rw [property?_of_stringConstant? constant] at reads
    cases reads
  case h_2 none =>
    unfold Mapping.literal at h
    split at h
    case h_1 origin =>
      obtain rfl := Except.ok.inj h
      refine ⟨.singleton (.ofMarkFree (by decide)), fun text constant => ?_,
        fun name => by simp [none]⟩
      simp [stringConstant?, origin] at constant
    case h_2 text origin =>
      obtain rfl := Except.ok.inj h
      have own : m.stringConstant? = some text := by rw [stringConstant?, origin]
      refine ⟨.singleton (.inl (suits.stringConstant own)), fun text' constant => ?_,
        fun name => by simp [none]⟩
      rw [Option.some.inj (constant.symm.trans own)]
      exact List.mem_cons_self
    case h_3 sql origin =>
      obtain rfl := Except.ok.inj h
      refine ⟨.singleton (suits.constant origin), fun text constant => ?_,
        fun name => by simp [none]⟩
      simp [stringConstant?, origin] at constant
    case h_4 => cases h

namespace Layout

variable {l : Layout} {parameter : String → String} {tuple : List Fragment}

/-- The parameters of a tuple are those of the bindings. -/
theorem mem_parameters_iff (suits : ∀ cell ∈ l.cells, cell.2.Suits constants cell.1)
    (h : l.tuple parameter = .ok tuple) {name : String} :
    (∃ f ∈ tuple, Piece.parameter name ∈ f) ↔ ∃ b ∈ l.bindings, name = parameter b.property := by
  constructor
  · rintro ⟨f, hf, stands⟩
    obtain ⟨cell, hcell, written⟩ := exists_of_mem_mapM h hf
    obtain ⟨property, reads, named⟩ :=
      (((suits cell hcell).madeOf_rowExpression written).2.2 name).mp stands
    obtain ⟨b, binds, -, same⟩ := Mapping.exists_binding reads cell.1
    exact ⟨b, List.mem_filterMap.mpr ⟨cell, hcell, binds⟩, by rw [named, same]⟩
  · rintro ⟨b, hb, named⟩
    obtain ⟨cell, hcell, binds⟩ := List.mem_filterMap.mp hb
    obtain ⟨f, hf, written⟩ := exists_result_of_mem h hcell
    exact ⟨f, hf, (((suits cell hcell).madeOf_rowExpression written).2.2 name).mpr
      ⟨b.property, Mapping.property?_of_binding? binds, named⟩⟩

end Layout

/-! ### Inserts -/

namespace RecordInsert

variable {catalog : Catalog} {dialect : Dialect} {b : RecordInsert} {statements : List Rendered}
  {s : Rendered} {l : Layout}

/-- The table and the mappings of the insert, as they are given: before it is decided which mappings
take effect. -/
def target : RecordInsert → RowTarget
  | row i => i.target
  | batch i => i.target
  | multiple i => i.target

/-- The string constants of the insert. -/
def stringConstants (b : RecordInsert) : List String :=
  b.target.mappings.filterMap Mapping.stringConstant?

/-- The texts of the insert, string constants apart. -/
def verbatim (b : RecordInsert) : List String :=
  b.target.table?.toList.flatMap Table.texts ++ b.target.mappings.flatMap Mapping.verbatim

/-- What reads no property is not dropped. -/
theorem drops_of_property?_eq_none {record : Record} (none : m.property? = none) :
    InsertRow.drops record m = .ok false := by
  unfold InsertRow.drops
  split
  case h_1 property origin =>
    rw [Mapping.property?, origin] at none
    cases none
  case h_2 => rfl

/-- The mappings that take effect are resolved, and none is dropped unless it reads a property. -/
theorem effective_eq_ok {table : Table} {mappings : List Mapping}
    (h : b.effective catalog = .ok (table, mappings)) :
    ∃ kind sample resolved, b.target.resolve kind catalog sample = .ok (table, resolved) ∧
      (∀ m ∈ mappings, m ∈ resolved) ∧
      ∀ m ∈ resolved, m.property? = none → m ∈ mappings := by
  cases b with
  | row i =>
      obtain ⟨⟨own, resolved⟩, hresolved, h⟩ := bind_eq_ok_iff.mp h
      obtain ⟨kept, hkept, h⟩ := bind_eq_ok_iff.mp h
      obtain ⟨rfl, rfl⟩ := Prod.mk.inj (pure_eq_ok_iff.mp h)
      refine ⟨_, _, resolved, hresolved, fun m mem => ((mem_filterM_iff hkept).mp mem).1,
        fun m mem none => (mem_filterM_iff hkept).mpr ⟨mem, ?_⟩⟩
      rw [drops_of_property?_eq_none none]
      rfl
  | batch i =>
      obtain ⟨target, _ | ⟨sample, rest⟩⟩ := i
      · exact absurd h fail_ne_ok
      · exact ⟨_, _, mappings, h, fun _ mem => mem, fun _ mem _ => mem⟩
  | multiple i =>
      obtain ⟨target, _ | ⟨sample, rest⟩⟩ := i
      · exact absurd h fail_ne_ok
      · exact ⟨_, _, mappings, h, fun _ mem => mem, fun _ mem _ => mem⟩

/-- The layout takes over no text with a colon but string constants, and it has all of them. -/
theorem layout_suits (plain : Plain ':' b.verbatim) (h : b.layout catalog = .ok l) :
    Plain ':' l.table.texts ∧
      (∀ cell ∈ l.cells, cell.2.Suits b.stringConstants cell.1) ∧
      ∀ text ∈ b.stringConstants, ∃ cell ∈ l.cells, cell.2.stringConstant? = some text := by
  obtain ⟨⟨table, mappings⟩, effective, h⟩ := bind_eq_ok_iff.mp h
  obtain ⟨columns, named, h⟩ := bind_eq_ok_iff.mp h
  rw [← pure_eq_ok_iff.mp h]
  obtain ⟨kind, sample, resolved, hresolved, chosen, kept⟩ := effective_eq_ok effective
  obtain ⟨table_eq, choice⟩ := RowTarget.resolve_eq_ok hresolved
  obtain ⟨table_plain, mappings_plain⟩ := plain_append.mp plain
  -- The mappings are the caller's own or those inferred from the declaration; only the former can
  -- have a string constant, and the latter are suited since they have no problem.
  refine ⟨?_, ?_, ?_⟩
  · rw [table_eq] at table_plain
    simpa using table_plain
  · rintro ⟨column, m⟩ mem
    obtain ⟨hm, named⟩ := Layout.named_of_mem_zip named mem
    have hm := chosen m hm
    rcases choice with ⟨-, rfl⟩ | ⟨-, properties, rfl⟩
    · exact Mapping.suits_of_plain (plain_flatMap.mp mappings_plain m hm) named
        fun text constant => List.mem_filterMap.mpr ⟨m, hm, constant⟩
    · obtain ⟨own, inferred⟩ := RowTarget.exists_of_mem_inferred hm
      exact Mapping.suits_of_inferred inferred (RowTarget.problem?_of_resolve hresolved hm) named
  · intro text constant
    obtain ⟨m, hm, constant⟩ := List.mem_filterMap.mp constant
    rcases choice with ⟨-, rfl⟩ | ⟨none, -⟩
    · obtain ⟨column, cell⟩ :=
        Layout.exists_mem_zip named (kept m hm (Mapping.property?_of_stringConstant? constant))
      exact ⟨_, cell, constant⟩
    · rw [none] at hm
      cases hm

/-- A tuple that belongs to the statements of an insert is that of some record. -/
theorem exists_of_mem_tuples {tuples : List (List Fragment)} (h : b.tuples l = .ok tuples)
    {tuple : List Fragment} (mem : tuple ∈ tuples) :
    ∃ parameter, l.tuple parameter = .ok tuple := by
  cases b with
  | row i =>
      obtain ⟨own, written, rfl⟩ := map_eq_ok_iff.mp h
      exact ⟨id, by rw [written, List.mem_singleton.mp mem]⟩
  | batch i =>
      obtain ⟨own, written, rfl⟩ := map_eq_ok_iff.mp h
      exact ⟨id, by rw [written, List.mem_singleton.mp mem]⟩
  | multiple i =>
      obtain ⟨k, -, written⟩ := exists_of_mem_mapM h mem
      exact ⟨_, written⟩

/-- What is known of a statement: it has the text of the layout with at least one tuple, and its
parameters are named as those of the tuples. -/
structure Renders (catalog : Catalog) (dialect : Dialect) (b : RecordInsert) (s : Rendered)
    (l : Layout) (tuples : List (List Fragment)) : Prop where
  layout_eq : b.layout catalog = .ok l
  tuples_eq : b.tuples l = .ok tuples
  text_eq : s.sql = l.text dialect tuples
  ne_nil : tuples ≠ []
  mem_keys_iff : (∀ cell ∈ l.cells, cell.2.Suits b.stringConstants cell.1) → ∀ name,
    name ∈ Assoc.keys s.parameters ↔ ∃ tuple ∈ tuples, ∃ f ∈ tuple, Piece.parameter name ∈ f

/-- A record that has a statement to itself has the parameters of its tuple there. -/
theorem mem_keys_iff_of_tuple {kind : StatementKind} {record : Record} {parameters : Parameters}
    {tuple : List Fragment} (bound : bindRecord kind id record l.bindings = .ok parameters)
    (written : l.tuple id = .ok tuple) {constants : List String}
    (suits : ∀ cell ∈ l.cells, cell.2.Suits constants cell.1) (name : String) :
    name ∈ Assoc.keys parameters ↔ ∃ t ∈ [tuple], ∃ f ∈ t, Piece.parameter name ∈ f := by
  rw [mem_keys_bindRecord bound, ← Layout.mem_parameters_iff suits written]
  simp

/-- Every statement that is executed is that of the layout, whichever kind the insert is of. -/
theorem exists_renders (h : b.builder.statements catalog dialect = .ok statements)
    (mem : s ∈ statements) : ∃ l tuples, b.Renders catalog dialect s l tuples := by
  obtain ⟨product, rendered, h⟩ := bind_eq_ok_iff.mp h
  cases b with
  | row i =>
      obtain ⟨r, hr, rfl⟩ := map_eq_ok_iff.mp rendered
      obtain rfl := Except.ok.inj h
      obtain rfl := List.mem_singleton.mp mem
      obtain ⟨l, tuple, layout, written, text, bound⟩ := InsertRow.render_eq_ok hr
      exact ⟨l, [tuple], layout, map_eq_ok_iff.mpr ⟨tuple, written, rfl⟩, text,
        List.cons_ne_nil _ _, fun suits => mem_keys_iff_of_tuple bound written suits⟩
  | batch i =>
      obtain ⟨batch, hbatch, rfl⟩ := map_eq_ok_iff.mp rendered
      obtain ⟨record, hrecord, made⟩ := exists_of_mem_mapM h mem
      rw [InsertBatch.records_of_render hbatch] at hrecord
      obtain ⟨l, tuple, layout, written, rfl⟩ :=
        InsertBatch.render_eq_ok hbatch (List.ne_nil_of_mem hrecord)
      obtain ⟨parameters, bound, made⟩ := bind_eq_ok_iff.mp made
      rw [← pure_eq_ok_iff.mp made]
      exact ⟨l, [tuple], layout, map_eq_ok_iff.mpr ⟨tuple, written, rfl⟩, rfl,
        List.cons_ne_nil _ _, fun suits => mem_keys_iff_of_tuple bound written suits⟩
  | multiple i =>
      obtain ⟨r, hr, rfl⟩ := map_eq_ok_iff.mp rendered
      obtain rfl := Except.ok.inj h
      obtain rfl := List.mem_singleton.mp mem
      obtain ⟨l, tuples, layout, written, text, bound⟩ := InsertMultiple.render_eq_ok hr
      have first : 0 < i.records.length := by
        obtain ⟨target, _ | ⟨sample, rest⟩⟩ := i
        · exact absurd hr fail_ne_ok
        · exact Nat.succ_pos _
      -- A record writes its tuple with the slot names of its own row, so a name of the statement
      -- leads to the row it was made for and from there to the tuple.
      obtain ⟨tuple, htuple, -⟩ := exists_result_of_mem written (List.mem_range.mpr first)
      refine ⟨l, tuples, layout, written, text, List.ne_nil_of_mem htuple, fun suits name => ?_⟩
      rw [InsertMultiple.mem_keys_iff hr bound]
      constructor
      · rintro ⟨k, hk, found⟩
        obtain ⟨tuple, htuple, own⟩ := exists_result_of_mem written (List.mem_range.mpr hk)
        exact ⟨tuple, htuple, (Layout.mem_parameters_iff suits own).mpr found⟩
      · rintro ⟨tuple, htuple, stands⟩
        obtain ⟨k, hk, own⟩ := exists_of_mem_mapM written htuple
        exact ⟨k, List.mem_range.mp hk, (Layout.mem_parameters_iff suits own).mp stands⟩

/-- The text of a layout is made of parts in which nothing but the string constants has a colon. -/
theorem madeOf_insertFragment {tuples : List (List Fragment)} (plain : Plain ':' b.verbatim)
    (layout : b.layout catalog = .ok l) (written : b.tuples l = .ok tuples) :
    (insertFragment l.table.fragment l.names tuples).MadeOf b.stringConstants true := by
  obtain ⟨table, suits, -⟩ := layout_suits plain layout
  refine .insertFragment table (fun name mem => ?_) fun tuple htuple f hf => ?_
  · obtain ⟨cell, hcell, rfl⟩ := List.mem_map.mp mem
    exact (suits cell hcell).name
  · obtain ⟨parameter, written⟩ := exists_of_mem_tuples written htuple
    obtain ⟨cell, hcell, hf⟩ := exists_of_mem_mapM written hf
    exact ((suits cell hcell).madeOf_rowExpression hf).1

/-- **Every statement of an insert of records is written of a text in which its string constants
are free.** -/
theorem exists_spells (plain : Plain ':' b.verbatim)
    (h : b.builder.statements catalog dialect = .ok statements) (mem : s ∈ statements) :
    ∃ f, s.Spells b.stringConstants true dialect f := by
  obtain ⟨l, tuples, renders⟩ := exists_renders h mem
  obtain ⟨-, suits, constants⟩ := layout_suits plain renders.layout_eq
  have text := madeOf_insertFragment plain renders.layout_eq renders.tuples_eq
  refine ⟨_, renders.text_eq, text, fun constant given => ?_, fun name => ?_⟩
  · obtain ⟨cell, hcell, own⟩ := constants constant given
    obtain ⟨tuple, htuple⟩ := List.exists_mem_of_ne_nil _ renders.ne_nil
    obtain ⟨parameter, written⟩ := exists_of_mem_tuples renders.tuples_eq htuple
    obtain ⟨f, hf, written⟩ := exists_result_of_mem written hcell
    exact mem_insertFragment htuple hf
      (((suits cell hcell).madeOf_rowExpression written).2.1 constant own)
  · rw [renders.mem_keys_iff suits, text.mem_names_iff]
    constructor
    · rintro ⟨tuple, htuple, f, hf, stands⟩
      exact mem_insertFragment htuple hf stands
    · exact exists_of_mem_insertFragment rfl

end RecordInsert

end BoundSql
