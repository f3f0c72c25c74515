import BoundSql.Proofs.Agreement.Parts
import BoundSql.Proofs.Numbering

/-!
# Numbered statements with free string constants

The statements whose values are supplied by calls, with string constants that say anything.  Only
updates and inserts of given values have string constants; all other statements have none and are
written of their sites.

So for most of a statement nothing has to be proved again.  What is written of sites is made of
admissible pieces (`Fragment.Written.madeOf`), and the parts that are looked at here are those
around a string constant: the item of an update, the entry of an insert, and the statements that
list them.  For each of them it is shown that the constant does stand in it, as a literal: the
theorem is about what is read from a text, and a constant that had been lost would not be read.

* `NumberedBuilder.stringConstants`, `NumberedBuilder.verbatim` : the string constants of a builder,
  and the other texts that it takes over.
* `NumberedBuilder.exists_spells` : every statement is written of a text in which its string
  constants are free.
-/

namespace BoundSql

/-! ### Texts -/

/-- The string constant that the column is mapped to, if it is mapped to one. -/
def Mapping.stringConstant? (m : Mapping) : Option String :=
  match m.origin with
  | .stringConstant text => some text
  | _ => none

/-- The texts of a mapping, a string constant apart. -/
def Mapping.verbatim (m : Mapping) : List String :=
  if m.stringConstant?.isSome then m.column.texts else m.texts

/-- The string constants of a builder. -/
def NumberedBuilder.stringConstants : NumberedBuilder → List String
  | update u => u.mappings.filterMap Mapping.stringConstant?
  | insertValues i => i.mappings.filterMap Mapping.stringConstant?
  | select _ | delete _ | insertSelect _ => []

/-- The texts of a builder, string constants apart. -/
def NumberedBuilder.verbatim : NumberedBuilder → List String
  | update u =>
    u.table.texts ++ u.mappings.flatMap Mapping.verbatim ++ Criterion.listTexts u.criteria
  | insertValues i => i.table.texts ++ i.mappings.flatMap Mapping.verbatim
  | b => b.texts

variable {constants : List String} {settled : Bool}

namespace Mapping

variable {m : Mapping} {text : String}

/-- A mapping with a string constant has no other origin. -/
theorem origin_of_stringConstant? (h : m.stringConstant? = some text) :
    m.origin = .stringConstant text := by
  unfold stringConstant? at h
  split at h
  case h_1 own origin => rw [origin, Option.some.inj h]
  case h_2 => cases h

/-- A column with a string constant reads no property. -/
theorem property?_of_stringConstant? (h : m.stringConstant? = some text) :
    m.property? = none := by
  rw [property?, origin_of_stringConstant? h]

/-- A string constant never declines. -/
theorem declines_of_stringConstant? (h : m.stringConstant? = some text) :
    m.declines = false := by
  rw [declines, origin_of_stringConstant? h]

/-- Without a string constant there are no other texts. -/
theorem verbatim_of_none (h : m.stringConstant? = none) : m.verbatim = m.texts := by
  simp [verbatim, h]

/-- The column of a mapping is named by one of its texts. -/
theorem colon_notMem_named (plain : Plain ':' m.verbatim) {column : Column}
    (h : m.named = .ok column) : ':' ∉ column.name.toList := by
  obtain ⟨e, origin⟩ := m
  cases e with
  | column own =>
      cases h
      refine plain _ ?_
      unfold verbatim texts
      split
      · exact List.mem_cons_self
      · exact List.mem_append_left _ List.mem_cons_self
  | _ => cases h

end Mapping

/-! ### Updates -/

/-- An item of the `SET` clause is made of the mapping, whose string constant stands in it. -/
theorem Update.madeOf_assignment? {m : Mapping} (plain : Plain ':' m.verbatim)
    (given : ∀ text, m.stringConstant? = some text → text ∈ constants) {f? : Option Fragment}
    (h : assignment? m = .ok f?) :
    (∀ f ∈ f?, f.MadeOf constants false) ∧
      ∀ text, m.stringConstant? = some text → ∃ f ∈ f?, Piece.literal text ∈ f := by
  -- A string constant is the one text of an assignment that may have the mark in it; every other
  -- one is plain, and an assignment of plain texts is written in order.
  cases constant : m.stringConstant? with
  | some text =>
      simp only [assignment?, bind_eq_ok_iff] at h
      obtain ⟨set?, hset, h⟩ := h
      rw [setting?, Mapping.origin_of_stringConstant? constant, Except.ok.injEq] at hset
      subst hset
      simp only [bind_eq_ok_iff, pure_eq_ok_iff] at h
      obtain ⟨column, hcolumn, rfl⟩ := h
      have name : Fragment.MadeOf constants false [.name column.name] :=
        .singleton (Mapping.colon_notMem_named plain hcolumn)
      have value : Fragment.MadeOf constants false [.literal text] :=
        .singleton (.inl (given text constant))
      refine ⟨fun f mem => ?_, fun text' same => ⟨_, rfl, ?_⟩⟩
      · rw [← Option.some.inj mem]
        exact name.append_delimiter (by decide) value
      · rw [Option.some.inj same]
        simp
  | none =>
      rw [Mapping.verbatim_of_none constant] at plain
      have written := Update.written_assignment? (by decide) plain h
      refine ⟨fun f mem => ?_, fun text given => by cases given⟩
      rw [show f? = some f from mem] at written
      exact written.madeOf

/-- A restriction may follow what it restricts. -/
theorem Fragment.MadeOf.append_whereFragment {f g : Fragment} {criteria : List Criterion}
    (made : f.MadeOf constants false) (plain : Plain ':' (Criterion.listTexts criteria))
    (h : Criterion.whereFragment [] criteria = .ok g) : (f ++ g).MadeOf constants false := by
  simp only [Criterion.whereFragment, bind_eq_ok_iff, pure_eq_ok_iff] at h
  obtain ⟨clause?, hclause, rfl⟩ := h
  have written := Criterion.written_clause? (by decide) (Scope.plain_nil ':') plain hclause [] .nil
  cases clause? with
  | none => rwa [List.append_nil]
  | some clause => exact made.append_delimiter (by decide) written.madeOf

/-- An update is made of its items, and has all of its string constants in them. -/
theorem Update.madeOf_fragment {u : Update} (plain : Plain ':' (NumberedBuilder.update u).verbatim)
    {f : Fragment} (h : u.fragment = .ok f) :
    f.MadeOf (NumberedBuilder.update u).stringConstants false ∧
      ∀ text ∈ (NumberedBuilder.update u).stringConstants, Piece.literal text ∈ f := by
  obtain ⟨plain, criteria_plain⟩ := plain_append.mp plain
  obtain ⟨table_plain, mappings_plain⟩ := plain_append.mp plain
  simp only [fragment, bind_eq_ok_iff] at h
  obtain ⟨assignments, hassignments, h⟩ := h
  split at h
  case isTrue => exact absurd h fail_ne_ok
  case isFalse =>
    simp only [bind_eq_ok_iff, pure_eq_ok_iff] at h
    obtain ⟨restriction, hrestriction, rfl⟩ := h
    have each {m : Mapping} (mem : m ∈ u.mappings) {f? : Option Fragment}
        (hm : assignment? m = .ok f?) :=
      madeOf_assignment? (plain_flatMap.mp mappings_plain m mem)
        (fun text constant => (List.mem_filterMap.mpr ⟨m, mem, constant⟩ :
          text ∈ (NumberedBuilder.update u).stringConstants)) hm
    have items : ∀ f ∈ assignments.filterMap id,
        f.MadeOf (NumberedBuilder.update u).stringConstants false := by
      intro f mem
      obtain ⟨f?, hf, same⟩ := List.mem_filterMap.mp mem
      obtain ⟨m, hm, made⟩ := exists_of_mem_mapM hassignments hf
      exact (each hm made).1 f same
    have table : u.table.fragment.Written ':' [] :=
      .ofSlotFree u.table.slotFree_fragment (u.table.lacks_fragment (by decide) table_plain)
    have head := table.cons_opening (s := "UPDATE ") (by decide) (by decide)
    have before := (Fragment.MadeOf.ofWritten head).append_delimiter (s := " SET ") (by decide)
      (.joined (s := ", ") (by decide) items)
    refine ⟨before.append_whereFragment criteria_plain hrestriction, fun text constant => ?_⟩
    obtain ⟨m, hm, constant⟩ := List.mem_filterMap.mp constant
    obtain ⟨f?, hf, made⟩ := exists_result_of_mem hassignments hm
    obtain ⟨f, same, stands⟩ := (each hm made).2 text constant
    -- a mapping with a string constant never declines, so its assignment is among the items kept
    have listed : Piece.literal text ∈ Fragment.joined ", " (assignments.filterMap id) :=
      Fragment.mem_joined_of_mem stands (List.mem_filterMap.mpr ⟨f?, hf, same⟩)
    exact List.mem_append_left _ (List.mem_append_right _ (.tail _ listed))

/-! ### Inserts of rows -/

/-- Rows of parts make an insert. -/
theorem Fragment.MadeOf.insertFragment {t : Table} {columns : List String}
    {rows : List (List Fragment)} (table_plain : Plain ':' t.texts)
    (columns_plain : ∀ name ∈ columns, ':' ∉ name.toList)
    (made : ∀ row ∈ rows, ∀ f ∈ row, f.MadeOf constants settled) :
    (insertFragment t.fragment columns rows).MadeOf constants settled := by
  have head := written_insertHead (by decide) table_plain columns_plain
  refine (Fragment.MadeOf.ofWritten head).append_delimiter (by decide)
    (.joined (by decide) fun f mem => ?_)
  obtain ⟨row, hrow, rfl⟩ := List.mem_map.mp mem
  exact (Fragment.MadeOf.joined (by decide) (made row hrow)).parenthesized

/-- The expressions of the rows stand in the insert. -/
theorem mem_insertFragment {table : Fragment} {columns : List String} {rows : List (List Fragment)}
    {row : List Fragment} (hrow : row ∈ rows) {f : Fragment} (hf : f ∈ row) {p : Piece}
    (hp : p ∈ f) : p ∈ insertFragment table columns rows := by
  refine List.mem_append_right _ (.tail _ (Fragment.mem_joined_of_mem ?_
    (List.mem_map_of_mem hrow)))
  simp [Fragment.parenthesized, Fragment.mem_joined_of_mem hp hf]

/-- The slots of the insert are those of its rows. -/
theorem exists_of_mem_insertFragment {t : Table} {columns : List String}
    {rows : List (List Fragment)} {p : Piece} (slot : p.isSlot = true)
    (mem : p ∈ insertFragment t.fragment columns rows) : ∃ row ∈ rows, ∃ f ∈ row, p ∈ f := by
  have other {s : String} (same : p = .sql s) : False := by rw [same] at slot; cases slot
  rcases List.mem_append.mp mem with head | mem
  · rw [slotFree_insertHead t columns p head] at slot
    cases slot
  · rcases List.mem_cons.mp mem with same | mem
    · exact (other same).elim
    · obtain same | ⟨f, hf, hp⟩ := Fragment.mem_joined mem
      · exact (other same).elim
      · obtain ⟨row, hrow, rfl⟩ := List.mem_map.mp hf
        simp only [Fragment.parenthesized, List.mem_append, List.mem_cons, List.not_mem_nil,
          or_false] at hp
        obtain (same | hp) | same := hp
        · exact (other same).elim
        · obtain same | found := Fragment.mem_joined hp
          · exact (other same).elim
          · exact ⟨row, hrow, found⟩
        · exact (other same).elim

/-- An entry of an insert is made of the mapping, whose string constant stands in it. -/
theorem InsertValues.madeOf_entry {m : Mapping} (plain : Plain ':' m.verbatim)
    (declines : m.declines = false)
    (given : ∀ text, m.stringConstant? = some text → text ∈ constants)
    {e : String × Fragment} (h : entry m = .ok e) :
    ':' ∉ e.1.toList ∧ e.2.MadeOf constants false ∧
      ∀ text, m.stringConstant? = some text → Piece.literal text ∈ e.2 := by
  simp only [entry, bind_eq_ok_iff, pure_eq_ok_iff] at h
  obtain ⟨value, hvalue, column, hcolumn, rfl⟩ := h
  refine ⟨Mapping.colon_notMem_named plain hcolumn, ?_⟩
  cases constant : m.stringConstant? with
  | some text =>
      simp only [expression, Mapping.value?, Mapping.literal,
        Mapping.origin_of_stringConstant? constant, Except.ok.injEq] at hvalue
      obtain rfl := hvalue
      refine ⟨.singleton (.inl (given text constant)), fun text' same => ?_⟩
      rw [Option.some.inj same]
      exact List.mem_cons_self
  | none =>
      rw [Mapping.verbatim_of_none constant] at plain
      exact ⟨(written_expression (by decide) plain declines hvalue).madeOf,
        fun text given => by cases given⟩

/-- An insert is made of its entries.  No mapping with a string constant is left out, since such a
mapping never declines. -/
theorem InsertValues.madeOf_fragment {i : InsertValues}
    (plain : Plain ':' (NumberedBuilder.insertValues i).verbatim) {f : Fragment}
    (h : i.fragment = .ok f) :
    f.MadeOf (NumberedBuilder.insertValues i).stringConstants false ∧
      ∀ text ∈ (NumberedBuilder.insertValues i).stringConstants, Piece.literal text ∈ f := by
  obtain ⟨table_plain, mappings_plain⟩ := plain_append.mp plain
  simp only [fragment, bind_eq_ok_iff] at h
  obtain ⟨entries, hentries, h⟩ := h
  split at h
  case isTrue => exact absurd h fail_ne_ok
  case isFalse =>
    rw [← pure_eq_ok_iff.mp h]
    have each {m : Mapping} (mem : m ∈ i.mappings.filter (!·.declines)) {e : String × Fragment}
        (hm : entry m = .ok e) :=
      have ⟨given, present⟩ := List.mem_filter.mp mem
      madeOf_entry (plain_flatMap.mp mappings_plain m given) (by simpa using present)
        (fun text constant => (List.mem_filterMap.mpr ⟨m, given, constant⟩ :
          text ∈ (NumberedBuilder.insertValues i).stringConstants)) hm
    have made : ∀ e ∈ entries, ':' ∉ e.1.toList ∧
        e.2.MadeOf (NumberedBuilder.insertValues i).stringConstants false := by
      intro e mem
      obtain ⟨m, hm, he⟩ := exists_of_mem_mapM hentries mem
      exact ⟨(each hm he).1, (each hm he).2.1⟩
    refine ⟨.insertFragment table_plain (fun name mem => ?_) fun row hrow f hf => ?_,
      fun text constant => ?_⟩
    · obtain ⟨e, he, rfl⟩ := List.mem_map.mp mem
      exact (made e he).1
    · rw [List.mem_singleton.mp hrow] at hf
      obtain ⟨e, he, rfl⟩ := List.mem_map.mp hf
      exact (made e he).2
    · obtain ⟨m, hm, constant⟩ := List.mem_filterMap.mp constant
      have kept : m ∈ i.mappings.filter (!·.declines) :=
        List.mem_filter.mpr ⟨hm, by rw [Mapping.declines_of_stringConstant? constant]; rfl⟩
      obtain ⟨e, he, hentry⟩ := exists_result_of_mem hentries kept
      exact mem_insertFragment List.mem_cons_self (List.mem_map_of_mem he)
        ((each kept hentry).2.2 text constant)

/-! ### All statements -/

/-- A numbered text is a statement whose parameters are its slots. -/
theorem Fragment.MadeOf.spells {f : Fragment} (made : f.MadeOf constants false)
    (literals : ∀ text ∈ constants, Piece.literal text ∈ f) (dialect : Dialect) :
    (f.render dialect).Spells constants false dialect f where
  text_eq := rfl
  made := made
  literals := literals
  mem_keys_iff := by
    intro name
    have count : (numberedNames f.values.length).length = f.values.length := by
      rw [← Namer.take_default, Namer.length_take]
    rw [made.names_eq, f.render_parameters, Assoc.keys, List.map_fst_zip (Nat.le_of_eq count)]

/-- **Every numbered statement is written of a text in which its string constants are free.** -/
theorem NumberedBuilder.exists_spells {b : NumberedBuilder} {dialect : Dialect} {r : Rendered}
    (plain : Plain ':' b.verbatim) (h : b.render dialect = .ok r) :
    ∃ f, r.Spells b.stringConstants false dialect f := by
  rw [render_eq, map_eq_ok_iff] at h
  obtain ⟨f, hf, rfl⟩ := h
  have nothing (plain : Plain ':' b.texts) : (f.render dialect).Spells [] false dialect f :=
    (b.written_fragment (by decide) plain hf).madeOf.spells (fun _ mem => by cases mem) dialect
  refine ⟨f, ?_⟩
  cases b with
  | select q => exact nothing plain
  | delete d => exact nothing plain
  | insertSelect i => exact nothing plain
  | update u =>
      obtain ⟨made, literals⟩ := Update.madeOf_fragment plain hf
      exact made.spells literals dialect
  | insertValues i =>
      obtain ⟨made, literals⟩ := InsertValues.madeOf_fragment plain hf
      exact made.spells literals dialect

end BoundSql
