import BoundSql.Proofs.Numbering.Nested

/-!
# Numbered parameters

The values of a statement are bound one after the other under the names `p1`, `p2`, …, while the
statement is written.  The main result is `NumberedBuilder.numbering`: whatever the statement is
made of, its placeholders, read from left to right, are these names, its parameters are these names
in order, and the value under each is what the binding site at its place supplies.

## What the theorem compares

There are three independent descriptions of one thing, and the theorem says that they agree.

* The *sites* of a builder (`NumberedBuilder.sites`) are read off the builder, and do not know how
  it is written.
* The *placeholders* of a statement (`placeholderNames`) are read off the finished text, and do not
  know the builder.
* The *parameters* are what the driver of the database is handed.

A writer that bound the values in the right order but put a placeholder elsewhere would satisfy any
two of them.

## What is assumed

No text that the builder takes over has a colon (`Plain ':' b.texts`).  A name or a constant with a
colon in it can look like a placeholder, and the reader of a finished text has no way to tell.
Nothing is assumed of the values: they are bound, and never written.

## The shape of the proof

Every part of a statement is shown to be *written of* its sites, `Fragment.Written`, by lemmas that
follow the parts: conditions and criteria, select statements, and in this module the columns that
are set and the statements themselves.  The relation carries what a text needs to be read back
whatever it is put next to, so that the last step looks at the statement as a whole, and once:
`Fragment.Written.render`.

The relation and the lemmas are for any mark, because the same argument is made about the quotes of
the dialects.

* `NumberedBuilder.written_fragment` : every statement is written of its sites.
* `Fragment.Written.render` : what is written of sites is rendered with numbered parameters.
* `NumberedBuilder.numbering` : placeholders, parameters and sites agree.
-/

namespace BoundSql

variable {c : Char}

/-! ### Columns that are set -/

/-- A column that is mapped is named by a text of its mapping. -/
theorem Mapping.plain_named {m : Mapping} (plain : Plain c m.texts) {column : Column}
    (h : m.named = .ok column) : c ∉ column.name.toList := by
  obtain ⟨e, origin⟩ := m
  cases e with
  | column own =>
      cases h
      exact plain _ (List.mem_append_left _ List.mem_cons_self)
  | _ => cases h

/-- A value that is mapped is written of the site of its mapping. -/
private theorem written_setting {m : Mapping} {v w : Value} (supplied : m.value? = some v)
    (declines : m.declines = false) (h : m.column.convert v = .ok w) :
    Fragment.Written c m.sites [.value w] := by
  rw [Mapping.sites, declines, supplied]
  exact .value (Expression.supplies_of_convert h)

/-- A mapping without a value has no site. -/
private theorem sites_of_value?_eq_none {m : Mapping} (supplied : m.value? = none) :
    m.sites = [] := by
  rw [Mapping.sites, supplied]
  split <;> rfl

/-- A piece of text that stands alone binds nothing. -/
private theorem written_text {p : Piece} (slot : p.isSlot = false) (absent : p.Lacks c) :
    Fragment.Written c [] [p] :=
  .ofSlotFree (by simp [slot]) (Fragment.lacks_cons.mpr ⟨absent, Fragment.lacks_nil c⟩)

/-- What a column is set to is written of the site of the mapping.  There is one case for each
origin that a mapping can have; only two of them supply a value, and the others bind nothing. -/
theorem Update.written_setting? (mark : Text.isMark c = true) {m : Mapping}
    (plain : Plain c m.texts) {set? : Option Fragment} (h : setting? m = .ok set?) :
    (set?.getD []).Written c m.sites := by
  obtain ⟨column, origin⟩ := m
  have own := (plain_append.mp plain).2
  cases origin with
  | value v =>
      simp only [setting?, bind_eq_ok_iff, pure_eq_ok_iff] at h
      obtain ⟨w, hw, rfl⟩ := h
      exact written_setting rfl rfl hw
  | valueWhenPresent v =>
      cases v with
      | null => cases h; exact .nil
      | _ =>
          simp only [setting?, bind_eq_ok_iff, pure_eq_ok_iff] at h
          obtain ⟨w, hw, rfl⟩ := h
          exact written_setting rfl rfl hw
  | null => cases h; exact written_text rfl (Text.notMem_of_markFree mark (by decide))
  | constant sql => cases h; exact written_text rfl (plain_cons.mp own).1
  | stringConstant text => cases h; exact written_text rfl (plain_cons.mp own).1
  | expression e => cases h; exact e.written_fragment mark (Scope.plain_nil c) own
  | unspecified => exact absurd h fail_ne_ok
  | property name => exact absurd h fail_ne_ok
  | propertyWhenPresent name => exact absurd h fail_ne_ok

/-- An item of the `SET` clause is written of the site of its mapping. -/
theorem Update.written_assignment? (mark : Text.isMark c = true) {m : Mapping}
    (plain : Plain c m.texts) {f? : Option Fragment} (h : assignment? m = .ok f?) :
    (f?.getD []).Written c m.sites := by
  simp only [assignment?, bind_eq_ok_iff] at h
  obtain ⟨set?, hset, h⟩ := h
  have written := Update.written_setting? mark plain hset
  cases set? with
  | none =>
      rw [← pure_eq_ok_iff.mp h]
      exact written
  | some f =>
      simp only [bind_eq_ok_iff, pure_eq_ok_iff] at h
      obtain ⟨column, hcolumn, rfl⟩ := h
      have name := written_text (p := .name column.name) rfl (m.plain_named plain hcolumn)
      exact name.append_delimiter mark (by decide) written

/-- A value expression of an insert is written of the site of its mapping. -/
theorem InsertValues.written_expression (mark : Text.isMark c = true) {m : Mapping}
    (plain : Plain c m.texts) (declines : m.declines = false) {f : Fragment}
    (h : expression m = .ok f) : f.Written c m.sites := by
  unfold expression at h
  split at h
  case h_1 v supplied =>
    simp only [bind_eq_ok_iff, pure_eq_ok_iff] at h
    obtain ⟨w, hw, rfl⟩ := h
    exact written_setting supplied declines hw
  case h_2 supplied =>
    rw [sites_of_value?_eq_none supplied]
    have own := (plain_append.mp plain).2
    unfold Mapping.literal at h
    split at h
    case h_1 => cases h; exact written_text rfl (Text.notMem_of_markFree mark (by decide))
    case h_2 text origin =>
      cases h
      rw [origin] at own
      exact written_text rfl (plain_cons.mp own).1
    case h_3 sql origin =>
      cases h
      rw [origin] at own
      exact written_text rfl (plain_cons.mp own).1
    case h_4 => cases h

/-- An entry has a plain name, and its expression is written of its mapping's site. -/
theorem InsertValues.written_entry (mark : Text.isMark c = true) {m : Mapping}
    (plain : Plain c m.texts) (declines : m.declines = false) {e : String × Fragment}
    (h : entry m = .ok e) : c ∉ e.1.toList ∧ e.2.Written c m.sites := by
  simp only [entry, bind_eq_ok_iff, pure_eq_ok_iff] at h
  obtain ⟨value, hvalue, column, hcolumn, rfl⟩ := h
  exact ⟨m.plain_named plain hcolumn, written_expression mark plain declines hvalue⟩

/-- The mappings that decline have no sites, so they can be left out before the sites are listed, as
the insert leaves them out before it is written. -/
theorem Mapping.flatMap_sites_filter (mappings : List Mapping) :
    (mappings.filter (!·.declines)).flatMap Mapping.sites = mappings.flatMap Mapping.sites := by
  induction mappings with
  | nil => rfl
  | cons m rest ih =>
      rw [List.filter_cons, List.flatMap_cons]
      cases declines : m.declines with
      | true =>
          rw [Bool.not_true, if_neg Bool.false_ne_true, ih, Mapping.sites, if_pos declines,
            List.nil_append]
      | false => rw [← ih]; rfl

/-! ### Statements -/

/-- The beginning of an insert has no slot. -/
theorem slotFree_insertHead (t : Table) (columns : List String) :
    (insertHead t.fragment columns).SlotFree := by
  have names : (Fragment.joined ", " (columns.map fun name => [.name name])).SlotFree := by
    refine .joined fun f mem => ?_
    obtain ⟨name, -, rfl⟩ := List.mem_map.mp mem
    simp [Piece.isSlot]
  simp [insertHead, t.slotFree_fragment, names, Piece.isSlot]

/-- The beginning of an insert binds nothing.  Its column names are given apart from the mappings,
since the insert of selected rows has columns and no mappings. -/
theorem written_insertHead (mark : Text.isMark c = true) {t : Table} (plain : Plain c t.texts)
    {columns : List String} (columns_plain : ∀ name ∈ columns, c ∉ name.toList) :
    (insertHead t.fragment columns).Written c [] := by
  have table : t.fragment.Written c [] :=
    .ofSlotFree t.slotFree_fragment (t.lacks_fragment mark plain)
  have names : Fragment.PartsWritten c [] (columns.map fun name => [.name name]) := by
    refine .ofItems fun f mem => ?_
    obtain ⟨name, hname, rfl⟩ := List.mem_map.mp mem
    exact written_text rfl (columns_plain name hname)
  have list := names.joined (s := ", ") mark (by decide)
  have head := (table.append_delimiter (s := " (") mark (by decide) list)
    |>.concat_ending (s := ")") mark (by decide)
  exact head.cons_opening mark (by decide)

namespace NumberedBuilder

/-- A delete statement has a name and a restriction. -/
theorem written_delete (mark : Text.isMark c = true) {d : Delete}
    (plain : Plain c (delete d).texts) {f : Fragment} (h : d.fragment = .ok f) :
    f.Written c (delete d).sites := by
  obtain ⟨table_plain, criteria_plain⟩ := plain_append.mp plain
  simp only [Delete.fragment, bind_eq_ok_iff, pure_eq_ok_iff] at h
  obtain ⟨restriction, hrestriction, rfl⟩ := h
  have table : d.table.fragment.Written c [] :=
    .ofSlotFree d.table.slotFree_fragment (d.table.lacks_fragment mark table_plain)
  have head := table.cons_opening (s := "DELETE FROM ") mark (by decide)
  exact Criterion.continues_whereFragment mark (Scope.plain_nil c) criteria_plain hrestriction
    _ _ head

/-- An update has the sites of its mappings before those of its criteria, because `SET` is written
before `WHERE`.  Mappings that decline write no item, and an update without items is refused. -/
theorem written_update (mark : Text.isMark c = true) {u : Update}
    (plain : Plain c (update u).texts) {f : Fragment} (h : u.fragment = .ok f) :
    f.Written c (update u).sites := by
  obtain ⟨plain, criteria_plain⟩ := plain_append.mp plain
  obtain ⟨table_plain, mappings_plain⟩ := plain_append.mp plain
  simp only [Update.fragment, bind_eq_ok_iff] at h
  obtain ⟨assignments, hassignments, h⟩ := h
  split at h
  case isTrue => exact absurd h fail_ne_ok
  case isFalse =>
    simp only [bind_eq_ok_iff, pure_eq_ok_iff] at h
    obtain ⟨restriction, hrestriction, rfl⟩ := h
    have table : u.table.fragment.Written c [] :=
      .ofSlotFree u.table.slotFree_fragment (u.table.lacks_fragment mark table_plain)
    have each := (List.forall₂_and_left _ _).mpr
      ⟨plain_flatMap.mp mappings_plain, mapM_eq_ok_iff.mp hassignments⟩
    have items : Fragment.PartsWritten c (u.mappings.flatMap Mapping.sites)
        (assignments.filterMap id) :=
      .ofOptions (each.imp fun m f? h => Update.written_assignment? mark h.1 h.2)
    have before := (table.cons_opening (s := "UPDATE ") mark (by decide)).append_delimiter
      (s := " SET ") mark (by decide)
      (items.joined (s := ", ") mark (by decide))
    exact Criterion.continues_whereFragment mark (Scope.plain_nil c) criteria_plain
      hrestriction _ _ before

/-- An insert of values writes the columns of all entries before the first of their values.  The
sites are those of the values, so the names have to be known to bind nothing. -/
theorem written_insertValues (mark : Text.isMark c = true) {i : InsertValues}
    (plain : Plain c (insertValues i).texts) {f : Fragment} (h : i.fragment = .ok f) :
    f.Written c (insertValues i).sites := by
  obtain ⟨table_plain, mappings_plain⟩ := plain_append.mp plain
  simp only [InsertValues.fragment, bind_eq_ok_iff] at h
  obtain ⟨entries, hentries, h⟩ := h
  split at h
  case isTrue => exact absurd h fail_ne_ok
  case isFalse =>
    rw [← pure_eq_ok_iff.mp h]
    -- A mapping that declines supplies nothing and is not written either, so the sites of those
    -- kept are all sites.
    have each : ∀ m ∈ i.mappings.filter (!·.declines), ∀ entry,
        InsertValues.entry m = .ok entry →
          c ∉ entry.1.toList ∧ entry.2.Written c m.sites := by
      intro m mem entry hentry
      obtain ⟨given, present⟩ := List.mem_filter.mp mem
      exact InsertValues.written_entry mark (plain_flatMap.mp mappings_plain m given)
        (by simpa using present) hentry
    have names : ∀ name ∈ entries.map (·.1), c ∉ name.toList := by
      intro name mem
      obtain ⟨entry, hmem, rfl⟩ := List.mem_map.mp mem
      obtain ⟨m, hm, hentry⟩ := exists_of_mem_mapM hentries hmem
      exact (each m hm entry hentry).1
    have row : Fragment.PartsWritten c (i.mappings.flatMap Mapping.sites)
        (entries.map (·.2)) := by
      rw [← Mapping.flatMap_sites_filter]
      refine .ofEach (List.forall₂_map_right_iff.mpr ?_)
      have listed := (List.forall₂_and_left _ _).mpr
        ⟨fun _ mem => mem, mapM_eq_ok_iff.mp hentries⟩
      exact listed.imp fun m entry h => (each m h.1 entry h.2).2
    have tuple := (row.joined (s := ", ") mark (by decide)).parenthesized mark
    exact (written_insertHead mark table_plain names).append_delimiter (s := " VALUES ")
      mark (by decide) tuple

/-- An insert of selected rows has the sites of its select statement. -/
theorem written_insertSelect (mark : Text.isMark c = true) {i : InsertSelect Query}
    (plain : Plain c (insertSelect i).texts) {f : Fragment} (h : i.fragment = .ok f) :
    f.Written c (insertSelect i).sites := by
  obtain ⟨plain, query_plain⟩ := plain_append.mp plain
  obtain ⟨table_plain, columns_plain⟩ := plain_append.mp plain
  unfold InsertSelect.fragment at h
  split at h
  case h_1 => exact absurd h fail_ne_ok
  case h_2 q given =>
    rw [given] at query_plain
    simp only [bind_eq_ok_iff, pure_eq_ok_iff] at h
    obtain ⟨select, hselect, columns, hcolumns, rfl⟩ := h
    have rows := q.written_fragment mark query_plain select hselect
    -- the columns are names only: what else may be selected is no column to insert into
    have names : ∀ name ∈ columns.map (·.name), c ∉ name.toList := by
      intro name mem
      obtain ⟨column, hmem, rfl⟩ := List.mem_map.mp mem
      obtain ⟨e, he, hcolumn⟩ := exists_of_mem_mapM hcolumns hmem
      have own := plain_flatMap.mp columns_plain e he
      cases e with
      | column given => cases hcolumn; exact own _ List.mem_cons_self
      | _ => cases hcolumn
    have head : Fragment.Written c []
        (if (columns.map (·.name)).isEmpty then .sql "INSERT INTO " :: i.table.fragment
          else insertHead i.table.fragment (columns.map (·.name))) := by
      split
      · have table : i.table.fragment.Written c [] :=
          .ofSlotFree i.table.slotFree_fragment (i.table.lacks_fragment mark table_plain)
        exact table.cons_opening mark (by decide)
      · exact written_insertHead mark table_plain names
    rw [sites, given]
    exact head.append_delimiter (s := " ") mark (by decide) rows

/-- **Every statement is written of its sites.**  The mark is any of those that mean something to a
reader of the text: for placeholders it is the colon. -/
theorem written_fragment (mark : Text.isMark c = true) (b : NumberedBuilder)
    (plain : Plain c b.texts) {f : Fragment} (h : b.fragment = .ok f) :
    f.Written c b.sites := by
  cases b with
  | select q => exact q.written_fragment mark plain f h
  | delete d => exact written_delete mark plain h
  | update u => exact written_update mark plain h
  | insertValues i => exact written_insertValues mark plain h
  | insertSelect i => exact written_insertSelect mark plain h

end NumberedBuilder

/-! ### What is rendered -/

/-- What is written of sites is rendered with numbered parameters. -/
theorem Fragment.Written.render {sites : List BindingSite} {f : Fragment}
    (written : f.Written ':' sites) (dialect : Dialect) :
    placeholderNames (f.render dialect).sql = numberedNames f.values.length ∧
      (f.render dialect).parameters = (numberedNames f.values.length).zip f.values := by
  have names : f.names {} = numberedNames f.values.length := by
    rw [written.numbered.names_eq, Namer.take_default]
  have word : ∀ name ∈ f.names {}, IsParameterName name := by
    rw [written.numbered.names_eq]
    exact fun name mem => Namer.isParameterName_of_mem_take Namer.isWordChar_of_mem_stem mem
  refine ⟨?_, f.render_parameters dialect⟩
  rw [← names]
  exact Fragment.placeholderNames_write (c := { dialect }) written.spaced written.lacks word

/-- **Numbering.**  The placeholders of a statement, read from left to right, are `p1`, `p2`, …,
each once; its parameters are these names in order; and the value under each name is what the
binding site at its place supplies. -/
theorem NumberedBuilder.numbering (b : NumberedBuilder) (dialect : Dialect)
    (plain : Plain ':' b.texts) {r : Rendered} (h : b.render dialect = .ok r) :
    placeholderNames r.sql = numberedNames r.parameters.length ∧
      Assoc.keys r.parameters = numberedNames r.parameters.length ∧
      (numberedNames r.parameters.length).Nodup ∧
      List.Forall₂ BindingSite.Supplies b.sites (r.parameters.map Prod.snd) := by
  rw [render_eq, map_eq_ok_iff] at h
  obtain ⟨f, hf, rfl⟩ := h
  have written := b.written_fragment (by decide) plain hf
  obtain ⟨placeholders, parameters⟩ := written.render dialect
  have names : (numberedNames f.values.length).length = f.values.length := by
    rw [← Namer.take_default, Namer.length_take]
  have count : (f.render dialect).parameters.length = f.values.length := by
    rw [parameters, List.length_zip, names, Nat.min_self]
  rw [count]
  refine ⟨placeholders, ?_, ?_, ?_⟩
  · rw [parameters, Assoc.keys, List.map_fst_zip (by rw [names])]
  · rw [← Namer.take_default]
    exact Namer.take_nodup {} f.values.length
  · rw [parameters, List.map_snd_zip (by rw [names])]
    exact written.supplies

namespace NumberedBuilder

/-- A statement with a nested one, a join, a group of criteria and a limit.  The nested statement
compares a function of a column with a conversion. -/
def sample : NumberedBuilder :=
  let users : Table := ⟨0, "users", none⟩
  let orders : Table := ⟨1, "orders", some "shop"⟩
  let id : Expression := .column (.plain "id" users none)
  let state : Column := .plain "state" users (some fun _ => .ok (.text "Y"))
  let nested : Query :=
    { kind := .select
      distinct := false
      columns := [id]
      from? := some ⟨.table users, none⟩
      criteria :=
        [.mk .and (.apply .lower (.column state) none) (.compare .equal (.bool true) false) []] }
  .select
    { kind := .select
      distinct := true
      columns := [id]
      from? := some ⟨.subquery nested, some "u"⟩
      joins := [⟨.left, .table orders, some "o",
        [.mk .and (.column (.plain "user" orders none)) (.equalTo id) []]⟩]
      criteria := [.mk .and id (.member false [.int 1, .int 2])
        [.mk .or id (.between true (.int 3) (.int 4)) [],
          .mk .and id (.compare .greater .null true) []]]
      limit? := some (.int 10) }

/-- The sample has six binding sites, and so the placeholders `p1` to `p6`. -/
theorem numbering_sample :
    Plain ':' sample.texts ∧ sample.sites.length = 6 ∧
      ∃ r, sample.render .postgresql = .ok r ∧ r.parameters.length = 6 ∧
        placeholderNames r.sql = numberedNames r.parameters.length ∧
        Assoc.keys r.parameters = numberedNames r.parameters.length ∧
        (numberedNames r.parameters.length).Nodup ∧
        List.Forall₂ BindingSite.Supplies sample.sites (r.parameters.map Prod.snd) :=
  ⟨by decide, rfl, _, rfl, rfl, numbering sample .postgresql (by decide) rfl⟩

end NumberedBuilder

end BoundSql
