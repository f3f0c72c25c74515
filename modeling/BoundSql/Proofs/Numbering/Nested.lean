import BoundSql.Proofs.Numbering.Clause

/-!
# What is written of select statements

A select statement is written of its sites on all of its levels: the sites of its source, then those
of every join with its source and its criteria, then those of its restriction, its limit and its
offset.  The step from the nested statements to the statement around them is `Select.written_level`;
the induction over the levels is `Select.written_fragment`.

Nested statements are written without regard to what is around them: their texts are put together
first, and numbered later, when the whole is written.  So the induction hypothesis is what is known
of the nested statement on its own, and no number is mentioned in it.

`Select.IsWritten` includes the assumption on the texts.  Every level has its own texts, and a
statement without marks has nested statements without marks, so the assumption is passed down while
the conclusion is passed up.
-/

namespace BoundSql

variable {c : Char}

/-! ### Clauses that bind nothing, or one value -/

/-- A clause of items without sites may follow what stands before it.  Without items there is no
clause, and nothing follows. -/
theorem continues_listFragment (mark : Text.isMark c = true) (keyword : String)
    (separator : Fragment.separates keyword = true) {items : List Fragment}
    (h : ∀ f ∈ items, f.Written c []) :
    (listFragment keyword items).Continues c [] := by
  unfold listFragment
  split
  · exact Fragment.Continues.nil
  · exact Fragment.Continues.ofDelimiter mark separator
      ((Fragment.PartsWritten.ofItems h).joined mark (by decide))

/-- A number that limits the rows is bound as it was given: there is no column to convert it. -/
theorem continues_boundFragment (mark : Text.isMark c = true) (keyword : String)
    (separator : Fragment.separates keyword = true) (bound? : Option Value) :
    (boundFragment keyword bound?).Continues c (boundSites bound?) := by
  cases bound? with
  | none => exact Fragment.Continues.nil
  | some v => exact Fragment.Continues.ofDelimiter mark separator (.value (.asGiven rfl))

/-- An expression is sorted by one of its texts. -/
theorem Expression.orderName_mem_texts {e : Expression} {name : String}
    (h : e.orderName? = some name) : name ∈ e.texts := by
  have of_nonempty {given? : Option String} (h : nonempty? given? = some name) :
      name ∈ given?.toList := by
    obtain ⟨same, -⟩ := Option.filter_eq_some_iff.mp h
    simp [same]
  cases e with
  | column column =>
      rw [← Option.some.inj h, Column.orderName, Expression.texts, Column.texts]
      cases given : nonempty? column.alias? with
      | none => exact List.mem_cons_self
      | some name =>
          obtain ⟨same, -⟩ := Option.filter_eq_some_iff.mp given
          simp [same]
  | all table => cases h
  | countAll alias? => exact of_nonempty h
  | apply f argument alias? => exact List.mem_append_right _ (of_nonempty h)
  | substring argument offset length alias? => exact List.mem_append_right _ (of_nonempty h)
  | count argument distinct alias? => exact List.mem_append_right _ (of_nonempty h)

/-- An item of the sort order binds nothing. -/
theorem Expression.written_orderFragment (mark : Text.isMark c = true) {e : Expression}
    (plain : Plain c e.texts) {f : Fragment} (h : e.orderFragment = .ok f) : f.Written c [] := by
  unfold Expression.orderFragment at h
  cases order : e.orderName? with
  | none =>
      rw [order] at h
      exact absurd h fail_ne_ok
  | some name =>
      rw [order] at h
      cases h
      have absent := plain name (Expression.orderName_mem_texts order)
      refine .ofSlotFree (by simp [Piece.isSlot]) (Fragment.lacks_cons.mpr ⟨?_, by simp⟩)
      split
      · rw [Piece.Lacks, String.toList_append, List.mem_append, not_or]
        exact ⟨absent, Text.notMem_of_markFree mark (by decide)⟩
      · exact absent

/-! ### Sources -/

/-- The sites of a source. -/
def Source.sites (source : Source) : List BindingSite := source.visit Visit.sites

/-- The texts of a source. -/
def Source.texts (source : Source) : List String := source.visit Visit.texts

namespace Select

/-- What `Select.written_fragment` says of one statement. -/
def IsWritten (c : Char) (q : Query) : Prop :=
  Plain c q.texts → ∀ f : Fragment, q.fragment = .ok f → f.Written c q.sites

end Select

/-- A source is written of its sites, if a select statement that it is has this property. -/
theorem Source.written_fragment (mark : Text.isMark c = true) {source : Source}
    (nested : ∀ p : Query, source = .subquery p → p.IsWritten c)
    (plain : Plain c source.texts) {f : Fragment} (h : source.fragment = .ok f) :
    f.Written c source.sites := by
  cases source with
  | subquery p =>
      rw [Source.fragment_subquery, map_eq_ok_iff] at h
      obtain ⟨g, hg, rfl⟩ := h
      rw [Source.texts, Source.visit_subquery] at plain
      rw [Source.sites, Source.visit_subquery]
      exact (nested p rfl plain g hg).parenthesized mark
  | table t =>
      rw [Source.fragment.eq_def] at h
      cases h
      rw [Source.texts, Source.visit] at plain
      rw [Source.sites, Source.visit]
      exact .ofSlotFree t.slotFree_fragment (t.lacks_fragment mark plain)
  | named schema? name =>
      rw [Source.fragment.eq_def] at h
      cases h
      rw [Source.texts, Source.visit] at plain
      rw [Source.sites, Source.visit]
      obtain ⟨name_plain, schema_plain⟩ := plain_cons.mp plain
      exact .ofSlotFree (Fragment.slotFree_qualified _ _)
        (Fragment.lacks_qualified name_plain mark schema_plain)
  | recurring => rw [Source.fragment.eq_def] at h; cases h
  | foreign owner lacking => rw [Source.fragment.eq_def] at h; cases h

/-- A join may follow the source, or another join.  The sites of its source come before those of its
criteria, because the source is written first. -/
theorem Join.continues_written (mark : Text.isMark c = true) {scope : Scope}
    (aliases : scope.Plain c) {join : Join Source}
    (nested : ∀ p : Query, join.source = .subquery p → p.IsWritten c)
    (source_plain : Plain c join.source.texts)
    (plain : Plain c (join.alias?.toList ++ Criterion.listTexts join.criteria))
    {f : Fragment} (h : join.written scope = .ok f) :
    f.Continues c (join.source.sites ++ Criterion.listSites join.criteria) := by
  obtain ⟨alias_plain, criteria_plain⟩ := plain_append.mp plain
  simp only [Join.written, Join.fragment, bind_eq_ok_iff, pure_eq_ok_iff] at h
  obtain ⟨source, hsource, clause?, hclause, rfl⟩ := h
  have source_written := (Source.written_fragment mark nested source_plain hsource).withAlias
    (s := " ") mark (by decide) alias_plain
  have clause_written := Criterion.written_clause? mark aliases criteria_plain hclause
    [.sql "None"] (.ofSlotFree (by simp [Piece.isSlot])
      (Fragment.lacks_cons.mpr ⟨Text.notMem_of_markFree mark (by decide), Fragment.lacks_nil c⟩))
  exact Fragment.Continues.ofDelimiter mark (by cases join.kind <;> decide)
    (source_written.append_delimiter mark (by decide) clause_written)

/-- What a statement draws from is written of its sites. -/
theorem Source.written_from (mark : Text.isMark c = true) {from? : Option (From Source)}
    (nested : ∀ f, from? = some f → ∀ p : Query, f.source = .subquery p → p.IsWritten c)
    (source_plain : Plain c ((from?.map fun f => f.source.texts).getD []))
    (alias_plain : Plain c (from?.bind (·.alias?)).toList) {source : Fragment}
    (h : Source.fromFragment from? = .ok source) :
    source.Written c ((from?.map fun f => f.source.sites).getD []) := by
  cases from? with
  | none =>
      rw [Source.fromFragment.eq_def] at h
      cases h
      exact .nil
  | some f =>
      rw [Source.fromFragment_some, bind_eq_ok_iff] at h
      obtain ⟨g, hg, same⟩ := h
      rw [← pure_eq_ok_iff.mp same]
      exact (Source.written_fragment mark (nested f rfl) source_plain hg).withAlias mark
        (by decide) alias_plain

/-- The joins follow what a statement draws from, the sites of every source before those of its
criteria. -/
theorem Join.continues_flatten (mark : Text.isMark c = true) {scope : Scope}
    (aliases : scope.Plain c) {joins : List (Join Source)}
    (nested : ∀ j ∈ joins, ∀ p : Query, j.source = .subquery p → p.IsWritten c)
    (source_plain : ∀ j ∈ joins, Plain c j.source.texts)
    (plain : ∀ j ∈ joins, Plain c (j.alias?.toList ++ Criterion.listTexts j.criteria))
    {joined : List Fragment} (h : joins.mapM (Join.written scope) = .ok joined) :
    Fragment.Continues c (joins.flatMap fun j => j.source.sites ++ Criterion.listSites j.criteria)
      joined.flatten := by
  have each := (List.forall₂_and_left _ _).mpr ⟨fun _ mem => mem, mapM_eq_ok_iff.mp h⟩
  rw [List.flatMap_def]
  refine Fragment.Continues.flatten (List.forall₂_map_left_iff.mpr (each.imp ?_))
  rintro j f ⟨mem, hj⟩
  exact j.continues_written mark aliases (nested j mem) (source_plain j mem) (plain j mem) hj

/-! ### One level -/

/-- Sources that are registered one after the other make only their aliases known. -/
theorem Scope.Plain.foldl_register {sources : List (Source × Option String)} {scope : Scope}
    (known : scope.Plain c) (given : ∀ s ∈ sources, BoundSql.Plain c s.2.toList) :
    Scope.Plain c (sources.foldl (fun scope s =>
      match Source.table? s.1 with
      | some t => scope.register t s.2
      | none => scope) scope) := by
  induction sources generalizing scope with
  | nil => exact known
  | cons first rest ih =>
      refine ih ?_ fun s mem => given s (.tail _ mem)
      beta_reduce
      split
      · exact known.register _ (given first List.mem_cons_self)
      · exact known

namespace Select

/-- The aliases that a statement makes known are among its texts. -/
theorem plain_scope {q : Query} (plain : Plain c q.ownTexts) :
    (q.scope Source.table?).Plain c := by
  refine Scope.Plain.foldl_register (Scope.plain_nil c) fun s mem => ?_
  simp only [ownTexts, plain_append] at plain
  obtain ⟨⟨⟨⟨⟨-, source_plain⟩, joins_plain⟩, -⟩, -⟩, -⟩ := plain
  rcases List.mem_append.mp mem with mem | mem
  · obtain ⟨f, hf, rfl⟩ := Option.map_eq_some_iff.mp (Option.mem_toList.mp mem)
    rw [hf] at source_plain
    exact source_plain
  · obtain ⟨j, hj, rfl⟩ := List.mem_map.mp mem
    exact (plain_append.mp (plain_flatMap.mp joins_plain j hj)).1

/-- The clauses before the source bind nothing. -/
theorem written_selectList (mark : Text.isMark c = true) {scope : Scope}
    (aliases : scope.Plain c) {columns : List Expression}
    (plain : Plain c (columns.flatMap Expression.texts)) :
    (Fragment.joined ", " (columns.map (·.selectFragment scope))).Written c [] := by
  refine (Fragment.PartsWritten.ofItems fun f mem => ?_).joined mark (by decide)
  obtain ⟨e, he, rfl⟩ := List.mem_map.mp mem
  have own := plain_flatMap.mp plain e he
  refine (e.written_fragment mark aliases own).withAlias mark (by decide) ?_
  cases e with
  | column column => exact (plain_append.mp (plain_cons.mp own).2).1
  | all table => exact plain_nil c
  | countAll alias? => exact own
  | _ => exact (plain_append.mp own).2

/-- The clauses behind the joins may follow them. -/
theorem continues_tailFragment (mark : Text.isMark c = true) {scope : Scope}
    (aliases : scope.Plain c) {q : Query} (plain : Plain c q.ownTexts) {f : Fragment}
    (h : q.tailFragment scope = .ok f) : f.Continues c (Visit.sites.tail q) := by
  simp only [ownTexts, plain_append] at plain
  obtain ⟨⟨⟨⟨⟨-, -⟩, -⟩, criteria_plain⟩, group_plain⟩, order_plain⟩ := plain
  simp only [tailFragment, bind_eq_ok_iff, pure_eq_ok_iff] at h
  obtain ⟨restriction, hrestriction, order, horder, rfl⟩ := h
  have group : (listFragment " GROUP BY " (q.groupBy.map (·.fragment scope))).Continues c [] := by
    refine continues_listFragment mark _ (by decide) fun f mem => ?_
    obtain ⟨e, he, rfl⟩ := List.mem_map.mp mem
    exact e.written_fragment mark aliases (plain_flatMap.mp group_plain e he)
  have sorted : (listFragment " ORDER BY " order).Continues c [] := by
    refine continues_listFragment mark _ (by decide) fun f mem => ?_
    obtain ⟨e, he, hf⟩ := exists_of_mem_mapM horder mem
    exact Expression.written_orderFragment mark (plain_flatMap.mp order_plain e he) hf
  have limits := (continues_boundFragment mark " LIMIT " (by decide) q.limit?).append
    (continues_boundFragment mark " OFFSET " (by decide) q.offset?)
  have all := (((Criterion.continues_whereFragment mark aliases criteria_plain
    hrestriction).append group).append sorted).append limits
  rw [List.append_nil, List.append_nil, ← List.append_assoc, ← List.append_assoc] at all
  exact all

/-- **One level of a select statement** is written of its sites if the statements among its sources
are.  The five pieces of a level follow one another: the list of columns, the source, the joins, the
restriction with the clauses that bind nothing, and the numbers that limit the rows. -/
theorem written_level (mark : Text.isMark c = true) {q : Query}
    (nested : ∀ p : Query, Source.subquery p ∈ q.sources → p.IsWritten c) : q.IsWritten c := by
  intro plain f h
  rw [texts, visit_eq, plain_append, plain_append, plain_append, plain_flatMap] at plain
  obtain ⟨⟨⟨own, source_plain⟩, joins_plain⟩, -⟩ := plain
  -- the aliases may stand in every part of the level, so that they are plain comes first
  have aliases := plain_scope own
  have parts := own
  simp only [Visit.texts, ownTexts, plain_append] at parts
  obtain ⟨⟨⟨⟨⟨columns_plain, alias_plain⟩, on_plain⟩, -⟩, -⟩, -⟩ := parts
  rw [fragment_eq] at h
  simp only [bind_eq_ok_iff, pure_eq_ok_iff] at h
  obtain ⟨-, -, source, hsource, joined, hjoined, tail, htail, rfl⟩ := h
  have source_written := Source.written_from mark
    (fun f hf p hp => nested p (hp ▸ from_mem_sources hf)) source_plain alias_plain hsource
  have joins_continue := Join.continues_flatten mark aliases
    (fun j mem p hp => nested p (hp ▸ join_mem_sources mem))
    (fun j mem => (plain_append.mp (joins_plain j mem)).1) (plain_flatMap.mp on_plain) hjoined
  have head := (written_selectList mark aliases columns_plain).cons_opening
    (s := if q.distinct then "SELECT DISTINCT " else "SELECT ") mark
    (by cases q.distinct <;> decide)
  have before := head.append_delimiter (s := " FROM ") mark (by decide)
    source_written
  have all := continues_tailFragment mark aliases own htail _ _ (joins_continue _ _ before)
  rw [sites, visit_eq, headFragment]
  simp only [List.append_assoc, List.cons_append, List.nil_append] at all ⊢
  exact all

/-- **A select statement is written of its sites**, on all of its levels. -/
theorem written_fragment (mark : Text.isMark c = true) (q : Query) : q.IsWritten c := by
  induction q using nesting_induction with
  | level q nested => exact written_level mark nested

end Select

end BoundSql
