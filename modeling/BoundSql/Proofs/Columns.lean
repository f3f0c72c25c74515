import BoundSql.Proofs.Layout

/-!
# What columns receive

In an insert of records the parameters are named by property and every column converts in its own
way, so columns that are filled from one property share a parameter, and the last of them converts.

The intended reading of a converter is that it applies to every value that is bound for its column.
Whether it does is a question about two columns with one parameter, and it is answered exactly here.
A column receives its own value if and only if the last column of the property makes the same of the
record's value (`RecordInsert.own_value_iff`).  So sharing does no harm where the columns convert
alike, or where the values at hand are converted alike by chance; and where no property fills two
columns there is nothing to share (`RecordInsert.Placed.receives_of_nodup`).

The equivalence is the reason for `RecordInsert.Placed` in its present form.  It has to say what a
parameter holds for every property, with the last binding of that property as the one that decides,
and it has to say that the other bindings were converted as well: a converter that fails makes the
insert fail, even if its result would have been overwritten.

* `Column.Receives` : the parameter of a column holds the column's own value.
* `RecordInsert.own_value_iff` : which columns receive their own value.
* `RecordInsert.Placed.receives_of_nodup` : all of them, if no property fills two columns.
-/

namespace BoundSql

/-- The column receives its own value: the parameter holds what the column makes of the record's
property.  The value and its conversion are said to exist, so this is not vacuously true where the
property cannot be read. -/
def Column.Receives (column : Column) (property : String) (record : Record) (parameter : String)
    (parameters : Parameters) : Prop :=
  ∃ w own, record.get property = .ok w ∧ column.convert w = .ok own ∧
    Assoc.get? parameter parameters = some own

namespace Binding

variable {bindings : List Binding} {b : Binding}

/-- A property with a binding has a last one. -/
theorem exists_last? (mem : b ∈ bindings) :
    ∃ last, last? b.property bindings = some last := by
  refine Option.isSome_iff_exists.mp (List.find?_isSome.mpr ?_)
  exact ⟨b, List.mem_reverse.mpr mem, beq_self_eq_true _⟩

/-- Among bindings of different properties each is the last of its own. -/
theorem last?_of_nodup (different : (bindings.map (·.property)).Nodup) (mem : b ∈ bindings) :
    last? b.property bindings = some b := by
  obtain ⟨last, found⟩ := exists_last? mem
  obtain ⟨hlast, same⟩ := mem_of_last? found
  rw [found, List.inj_on_of_nodup_map different hlast mem same]

end Binding

namespace Layout

variable {l : Layout} {j : Nat} {column : Column} {m : Mapping} {property : String}

/-- A cell that reads a property is written as the parameter of the property. -/
theorem getElem?_tuple {parameter : String → String} {tuple : List Fragment}
    (h : l.tuple parameter = .ok tuple) (cell : l.cells[j]? = some (column, m))
    (reads : m.property? = some property) : tuple[j]? = some [.parameter (parameter property)] := by
  obtain ⟨expression, standing, written⟩ := getElem?_of_mapM h cell
  rw [rowExpression, reads] at written
  rw [standing, Except.ok.inj written]

/-- A cell that reads a property makes a binding. -/
theorem exists_mem_bindings (cell : l.cells[j]? = some (column, m))
    (reads : m.property? = some property) :
    ∃ b ∈ l.bindings, b.column = column ∧ b.property = property := by
  obtain ⟨b, binds, own⟩ := Mapping.exists_binding reads column
  exact ⟨b, List.mem_filterMap.mpr ⟨_, List.mem_of_getElem? cell, binds⟩, own⟩

end Layout

namespace RecordInsert

variable {catalog : Catalog} {dialect : Dialect} {b : RecordInsert} {statements : List Rendered}
  {k : Nat} {record : Record} {l : Layout} {s : Rendered} {tuple : List Fragment}

namespace Placed

variable {j : Nat} {column : Column} {m : Mapping} {property : String}

/-- The parameter of a column holds what the last column of the property makes of it.  The two
conversions are compared at the value of the record only; they may differ at every other one. -/
theorem receives_iff (placed : b.Placed catalog dialect statements k record l s tuple)
    (cell : l.cells[j]? = some (column, m)) (reads : m.property? = some property) :
    column.Receives property record (b.parameter k property) s.parameters ↔
      ∃ last, Binding.last? property l.bindings = some last ∧
        ∀ w, record.get property = .ok w → last.column.convert w = column.convert w := by
  obtain ⟨binding, mem, rfl, rfl⟩ := Layout.exists_mem_bindings cell reads
  obtain ⟨w, own, read, converted⟩ := placed.converts binding mem
  obtain ⟨last, found⟩ := Binding.exists_last? mem
  obtain ⟨hlast, same⟩ := Binding.mem_of_last? found
  obtain ⟨w', v, read', converted'⟩ := placed.converts last hlast
  rw [same] at read'
  obtain rfl := Except.ok.inj (read.symm.trans read')
  -- the value under the name is the one of the last binding, whatever cell asks for it
  have bound := placed.bound_eq found read converted'
  constructor
  · rintro ⟨w', own', read', converted'', bound'⟩
    obtain rfl := Except.ok.inj (read.symm.trans read')
    obtain rfl := Option.some.inj (bound.symm.trans bound')
    refine ⟨last, found, fun w' read'' => ?_⟩
    obtain rfl := Except.ok.inj (read.symm.trans read'')
    rw [converted', converted'']
  · rintro ⟨last', found', agree⟩
    obtain rfl := Option.some.inj (found.symm.trans found')
    rw [← agree w read, converted'] at converted
    obtain rfl := Except.ok.inj converted
    exact ⟨w, v, read, (agree w read).symm.trans converted', bound⟩

/-- Where no property fills two columns, every column receives its own value. -/
theorem receives_of_nodup (placed : b.Placed catalog dialect statements k record l s tuple)
    (different : (l.bindings.map (·.property)).Nodup) (cell : l.cells[j]? = some (column, m))
    (reads : m.property? = some property) :
    column.Receives property record (b.parameter k property) s.parameters := by
  refine (placed.receives_iff cell reads).mpr ?_
  obtain ⟨binding, mem, rfl, rfl⟩ := Layout.exists_mem_bindings cell reads
  exact ⟨binding, Binding.last?_of_nodup different mem, fun _ _ => rfl⟩

end Placed

/-- **Which columns receive their own value.**  In the statements of an insert of records, every
record has a tuple, and a column that is filled from a property has the parameter of the record and
the property there.  What the parameter holds is the column's own value exactly if the last column
that is filled from the property converts the value of the record in the same way. -/
theorem own_value_iff (h : b.builder.statements catalog dialect = .ok statements)
    (at? : b.records[k]? = some record) :
    ∃ l s tuple, b.Placed catalog dialect statements k record l s tuple ∧
      ∀ (j : Nat) (column : Column) (m : Mapping) (property : String),
        l.cells[j]? = some (column, m) → m.property? = some property →
        tuple[j]? = some [.parameter (b.parameter k property)] ∧
        (column.Receives property record (b.parameter k property) s.parameters ↔
          ∃ last, Binding.last? property l.bindings = some last ∧
            ∀ w, record.get property = .ok w → last.column.convert w = column.convert w) := by
  obtain ⟨l, s, tuple, placed⟩ := placed_of_statements h at?
  exact ⟨l, s, tuple, placed, fun _ _ _ _ cell reads =>
    ⟨Layout.getElem?_tuple placed.tuple_eq cell reads, placed.receives_iff cell reads⟩⟩

/-- An insert that fills two columns from one property, and only the first of them converts. -/
def shared : RecordInsert :=
  let staff : Table := ⟨0, "staff", none⟩
  let letter : Column := .plain "letter" staff (some fun v =>
    .ok (.text (if v.isNull then "N" else "Y")))
  .row ⟨⟨some staff, [⟨.column letter, .property "employed"⟩,
    ⟨.column (.plain "flag" staff none), .property "employed"⟩]⟩,
    .mapping [(.text "employed", .bool true)]⟩

/-- The statement of the insert. -/
def sharedStatement : Rendered :=
  ⟨"INSERT INTO staff (letter, flag) VALUES (:employed, :employed)", [("employed", .bool true)]⟩

/-- Of two columns with one parameter the second receives its own value, and the first does not. -/
theorem own_value_iff_sample :
    shared.builder.statements {} .generic = .ok [sharedStatement] ∧
    ∃ l s tuple, ∃ record letter flag,
      shared.Placed {} .generic [sharedStatement] 0 record l s tuple ∧
      l.cells.map Prod.fst = [letter, flag] ∧
      ¬ letter.Receives "employed" record "employed" s.parameters ∧
      flag.Receives "employed" record "employed" s.parameters := by
  have rendered : shared.builder.statements {} .generic = .ok [sharedStatement] := rfl
  refine ⟨rendered, ?_⟩
  obtain ⟨l, s, tuple, placed, received⟩ :=
    own_value_iff rendered (show shared.records[0]? = some _ from rfl)
  obtain rfl := Except.ok.inj (placed.layout_eq.symm.trans rfl)
  refine ⟨_, s, tuple, _, _, _, placed, rfl, ?_, ?_⟩
  · intro receives
    obtain ⟨last, found, agree⟩ := (received 0 _ _ "employed" rfl rfl).2.mp receives
    obtain rfl := Option.some.inj (found.symm.trans rfl)
    cases agree (.bool true) rfl
  · exact (received 1 _ _ "employed" rfl rfl).2.mpr ⟨_, rfl, fun _ _ => rfl⟩

end RecordInsert

end BoundSql
