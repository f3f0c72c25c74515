import BoundSql.Proofs.Joins
import BoundSql.Proofs.References.Parts

/-!
# How columns are referred to

A select statement refers to columns in its select list, inside functions, in the criteria of its
joins and of its restriction, in its groups and in its sort order, on all of its levels.  Everywhere
but in the sort order the name is written as the dialect quotes it; there it is written bare, so
that a quoting dialect sorts by another name than it selects.

## Finding the references in a text

A name that is found in a text may be there for another reason: an alias, a keyword or a constant
can have the same letters.  So references are not looked for.  Instead all columns are given other
names (`Select.renamed`), and what changes in the text are the references.  `Writes` says this of a
computation that depends on the names: under any names it succeeds, and its text is written of the
same parts, of which the references are the given ones in their order.

Since this is said for all names at once, it locates each reference exactly, and it says at the same
time that no name gets into the text at any other place.

## The shape of the proof

There is one lemma for each construct, from expressions over conditions, criteria and clauses to a
level, and each is put together from those below it in the way the text is.  Nested statements are
handled by the induction over statements that the layout of text uses already: `Select.writes_level`
assumes the property of the statements among the sources.

* `Select.references` : the references of a statement, in order of the text.
* `Select.writes_fragment` : under any names of the columns, the text is written of the same parts,
  and the references among them are these.
* `Select.references_quoted_iff` : the text changes with the names at the references and nowhere
  else, and a reference is quoted exactly if it is not there for sorting.
-/

namespace BoundSql

/-! ### The references of a statement -/

/-- The reference that an expression makes, if it makes one. -/
def Expression.references (role : Reference.Role) : Expression → List Reference
  | column c => [⟨role, c⟩]
  | all _ => []
  | apply _ argument _ => argument.references role
  | substring argument _ _ _ => argument.references role
  | count argument _ _ => argument.references role
  | countAll _ => []

/-- The reference that a condition makes besides its expression: to the column compared with. -/
def Condition.references (role : Reference.Role) : Condition → List Reference
  | equalTo right => right.references role
  | _ => []

mutual

/-- The references of a criterion and its group; a condition that declines makes none. -/
def Criterion.references (role : Reference.Role) : Criterion → List Reference
  | .mk _ column condition group =>
    (if condition.renders then column.references role ++ condition.references role else []) ++
      Criterion.listReferences role group

/-- The references of a list of criteria. -/
def Criterion.listReferences (role : Reference.Role) : List Criterion → List Reference
  | [] => []
  | c :: cs => Criterion.references role c ++ Criterion.listReferences role cs

end

/-- The reference of an item of the sort order: what has an alias is sorted by that, and then no
column is referred to.  Only a column can be sorted by without one. -/
def Expression.sortReferences : Expression → List Reference
  | column c => if (nonempty? c.alias?).isNone then [⟨.sorted, c⟩] else []
  | _ => []

/-- The references that a level of a select statement makes itself, in order of the text: those of
the select list, those of each join behind the references of its source, and those of the
restriction, the groups and the sort order. -/
def Visit.references : Visit Reference where
  head := fun q => q.columns.flatMap (Expression.references .selected)
  join := fun j => Criterion.listReferences .joined j.criteria
  tail := fun q => Criterion.listReferences .restricted q.criteria ++
    q.groupBy.flatMap (Expression.references .grouped) ++
      q.orderBy.flatMap Expression.sortReferences

/-- **The references of a select statement**, on all of its levels and in order of the text. -/
def Select.references (q : Query) : List Reference := q.visit Visit.references

/-! ### Mentions -/

/-- A fragment that depends on the names of columns, together with its references.  Criteria are
written into lists that lose those which decline, so their fragments have to be carried along with
what is known about them. -/
structure Mention where
  references : List Reference
  fragment : Naming → Fragment
  refers : Refers references fragment

/-- The computation writes a fragment with the references, under any names.  In particular it fails
under no names: whether a statement can be written does not depend on what its columns are
called. -/
def Writes (refs : List Reference) (x : Naming → Except Error Fragment) : Prop :=
  ∃ f, Refers refs f ∧ ∀ names, x names = .ok (f names)

theorem Writes.of {refs : List Reference} {x : Naming → Except Error Fragment}
    {f : Naming → Fragment} (refers : Refers refs f) (written : ∀ names, x names = .ok (f names)) :
    Writes refs x := ⟨f, refers, written⟩

theorem Writes.exists_fragment {refs : List Reference} {x : Naming → Except Error Fragment}
    (h : Writes refs x) : ∃ f, Refers refs f ∧ ∀ names, x names = .ok (f names) := h

/-- A list of fragments is written one by one.  The references of each member are given by a
function of the member, so that those of the list are read off it. -/
theorem Writes.exists_mapM {α : Type} {xs : List α} {x : α → Naming → Except Error Fragment}
    {own : α → List Reference} (h : ∀ a ∈ xs, Writes (own a) (x a)) :
    ∃ g : α → Naming → Fragment, (∀ a ∈ xs, Refers (own a) (g a)) ∧
      ∀ names, xs.mapM (x · names) = .ok (xs.map (g · names)) := by
  have each (a : α) : ∃ f, a ∈ xs → Refers (own a) f ∧ ∀ names, x a names = .ok (f names) := by
    by_cases mem : a ∈ xs
    · obtain ⟨f, hf⟩ := h a mem
      exact ⟨f, fun _ => hf⟩
    · exact ⟨fun _ => [], fun mem' => absurd mem' mem⟩
  choose g hg using each
  refine ⟨g, fun a mem => (hg a mem).1, fun names => ?_⟩
  rw [mapM_eq_ok_iff, List.forall₂_map_right_iff, List.forall₂_same]
  exact fun a mem => (hg a mem).2 names

/-! ### Expressions and conditions -/

variable {role : Reference.Role} {scope : Scope}

/-- A column is one reference, behind a qualifier that does not depend on its name.  In the sort
order columns are not written in this way, so that role is excluded. -/
theorem Column.refers_fragment (quoted : role ≠ .sorted) (c : Column) :
    Refers [⟨role, c⟩] fun names => (c.renamed names).fragment scope := by
  have name := Refers.name quoted c
  show Refers [⟨role, c⟩] fun names => .qualified (c.scopedQualifier? scope) (names c)
  unfold Fragment.qualified
  cases nonempty? (c.scopedQualifier? scope) with
  | none => exact name
  | some qualifier => exact name.cons (.sql (qualifier ++ "."))

/-- An expression refers to the column that it is about, from within its functions. -/
theorem Expression.refers_fragment (quoted : role ≠ .sorted) (e : Expression) :
    Refers (e.references role) fun names => (e.renamed names).fragment scope := by
  induction e with
  | column c => exact c.refers_fragment quoted
  | all table => exact .const _
  | apply f argument alias? ih => exact (ih.cons _).concat _
  | substring argument offset length alias? ih => exact (ih.cons _).concat _
  | count argument distinct alias? ih => exact (ih.cons _).concat _
  | countAll alias? => exact .const _

/-- An alias in the select list is no reference. -/
theorem Expression.refers_selectFragment (e : Expression) :
    Refers (e.references .selected) fun names => (e.renamed names).selectFragment scope := by
  simp only [selectFragment, alias?_renamed]
  exact (e.refers_fragment (by decide)).withAlias " AS " e.alias?

/-- What sorts the rows is a bare name or an alias.  That it can be written is assumed, for the rows
cannot be sorted by a function without an alias. -/
theorem Expression.writes_orderFragment {e : Expression} {f : Fragment}
    (h : e.orderFragment = .ok f) :
    Writes e.sortReferences fun names => (e.renamed names).orderFragment := by
  cases e with
  | column c =>
      have text (names : Naming) : (renamed names (column c)).orderFragment =
          let name := (nonempty? c.alias?).getD (names c)
          .ok [.sql (if c.descending then name ++ " DESC" else name)] := rfl
      refine .of ?_ text
      show Refers (if (nonempty? c.alias?).isNone then [⟨.sorted, c⟩] else []) _
      cases nonempty? c.alias? with
      | some name => exact .const [.sql (if c.descending then name ++ " DESC" else name)]
      | none =>
          cases c.descending with
          | true => exact .bare_append c " DESC"
          | false => exact .bare c
  | all table | countAll alias? => exact .of (.const f) fun _ => h
  | apply | substring | count => exact .of (.const f) fun _ => h

/-- A condition refers to the column of its expression, and to the one it compares with.  It can
fail, if a value cannot be converted; but conversions look at the type of a column and not at its
name. -/
theorem Condition.writes_fragment (quoted : role ≠ .sorted) {e : Expression}
    {condition : Condition} {f : Fragment} (h : condition.fragment scope e = .ok f) :
    Writes (e.references role ++ condition.references role) fun names =>
      (condition.renamed names).fragment scope (e.renamed names) := by
  have left : Refers (e.references role) fun names => (e.renamed names).fragment scope :=
    e.refers_fragment quoted
  -- a condition with values refers to nothing but the expression, and converts as that does
  have valued (tail : Fragment) : Refers (e.references role ++ []) fun names =>
      (e.renamed names).fragment scope ++ tail := left.append (.const tail)
  cases condition with
  | null negated => exact .of (valued _) fun names => rfl
  | equalTo right =>
      exact .of (left.append ((right.refers_fragment quoted).cons _)) fun names => rfl
  | compare comparison value whenPresent =>
      obtain ⟨v, hv, -⟩ := bind_eq_ok_iff.mp h
      refine .of (valued [.sql (" " ++ comparison.symbol ++ " "), .value v]) fun names => ?_
      simp only [renamed, fragment, Expression.convert_renamed, hv]
      rfl
  | between negated low high =>
      obtain ⟨v, hv, h⟩ := bind_eq_ok_iff.mp h
      obtain ⟨w, hw, -⟩ := bind_eq_ok_iff.mp h
      refine .of (valued [.sql (" " ++ negation negated ++ "BETWEEN "), .value v, .sql " AND ",
        .value w]) fun names => ?_
      simp only [renamed, fragment, Expression.convert_renamed, hv, hw]
      rfl
  | member negated values =>
      obtain ⟨vs, hvs, -⟩ := bind_eq_ok_iff.mp h
      have same (names : Naming) : (e.renamed names).convert = e.convert :=
        funext fun v => e.convert_renamed names v
      refine .of (valued (.sql (" " ++ negation negated ++ "IN (") ::
        Fragment.joined "," (vs.map fun v => [.value v]) ++ [.sql ")"])) fun names => ?_
      simp only [renamed, fragment, same, hvs]
      exact congrArg Except.ok (List.append_assoc _ _ _)

/-! ### Criteria -/

/-- Terms in a row, each behind its connector except the first.  The connectors are verbatim. -/
theorem Refers.chain (terms : List (Connector × Mention)) :
    Refers (terms.flatMap fun t => t.2.references) fun names =>
      Criterion.chain (terms.map fun t => (t.1, t.2.fragment names)) := by
  cases terms with
  | nil => exact nil
  | cons t rest =>
      have others : Refers (rest.flatMap fun t => t.2.references) fun names =>
          (rest.map fun t => .sql (" " ++ t.1.word ++ " ") :: t.2.fragment names).flatten :=
        flatten fun t _ => t.2.refers.cons _
      simp only [List.map_cons, Criterion.chain, List.flatMap_map, ← List.flatMap_def] at others ⊢
      exact t.2.refers.append others

namespace Criterion

/-- The terms of a group as one term, which has the references of them all.  A group of which
nothing is left gives no term, under any names. -/
theorem exists_enclose? (terms : List (Connector × Mention)) : ∃ m? : Option Mention,
    (m?.map Mention.references).getD [] = terms.flatMap (fun t => t.2.references) ∧
      ∀ names, enclose? (terms.map fun t => (t.1, t.2.fragment names)) =
        m?.map fun m => m.fragment names := by
  match terms with
  | [] => exact ⟨none, rfl, fun names => rfl⟩
  | [(connector, m)] => exact ⟨some m, (List.append_nil _).symm, fun names => rfl⟩
  | t :: t' :: rest =>
      exact ⟨some ⟨_, _, (Refers.chain (t :: t' :: rest)).parenthesized⟩, rfl, fun names => rfl⟩

mutual

/-- A criterion that is written is written under any names.  If it declines, so that nothing is
written, it declines under any names, and makes no reference. -/
theorem exists_fragment? (quoted : role ≠ .sorted) : ∀ (criterion : Criterion)
    {f? : Option Fragment}, fragment? scope criterion = .ok f? → ∃ m? : Option Mention,
      (m?.map Mention.references).getD [] = criterion.references role ∧
        ∀ names, fragment? scope (criterion.renamed names) = .ok (m?.map fun m => m.fragment names)
  | .mk connector column condition group, f?, h => by
    rw [fragment?] at h
    split at h
    case isTrue renders =>
      obtain ⟨head, hhead, h⟩ := bind_eq_ok_iff.mp h
      obtain ⟨rest, hrest, -⟩ := bind_eq_ok_iff.mp h
      obtain ⟨f, hf, -⟩ := map_eq_ok_iff.mp hhead
      obtain ⟨g, refers, text⟩ := (Condition.writes_fragment quoted hf).exists_fragment
      obtain ⟨terms, hterms, written⟩ := exists_survivors quoted group hrest
      obtain ⟨m?, hm?, enclosed⟩ := exists_enclose? ((connector, ⟨_, g, refers⟩) :: terms)
      refine ⟨m?, ?_, fun names => ?_⟩
      · rw [hm?, List.flatMap_cons, hterms, references, if_pos renders]
      · have renders' : (condition.renamed names).renders = true := by
          rw [Condition.renders_renamed, renders]
        rw [renamed, fragment?, if_pos renders', text names, written names, ← enclosed names]
        rfl
    case isFalse declines =>
      obtain ⟨head, -, h⟩ := bind_eq_ok_iff.mp h
      obtain ⟨rest, hrest, -⟩ := bind_eq_ok_iff.mp h
      obtain ⟨terms, hterms, written⟩ := exists_survivors quoted group hrest
      obtain ⟨m?, hm?, enclosed⟩ := exists_enclose? terms
      refine ⟨m?, ?_, fun names => ?_⟩
      · rw [hm?, hterms, references, if_neg declines, List.nil_append]
      · have declines' : ¬ (condition.renamed names).renders = true := by
          rwa [Condition.renders_renamed]
        rw [renamed, fragment?, if_neg declines', written names, ← enclosed names]
        rfl

/-- What is written of criteria is written under any names: the same of them are left, with the same
connectors. -/
theorem exists_survivors (quoted : role ≠ .sorted) : ∀ (criteria : List Criterion)
    {terms : List (Connector × Fragment)}, survivors scope criteria = .ok terms →
      ∃ terms : List (Connector × Mention),
        (terms.flatMap fun t => t.2.references) = listReferences role criteria ∧
          ∀ names, survivors scope (renamedList names criteria) =
            .ok (terms.map fun t => (t.1, t.2.fragment names))
  | [], _, _ => ⟨[], by rw [listReferences]; rfl, fun names => by rw [renamedList, survivors]; rfl⟩
  | criterion :: criteria, _, h => by
    rw [survivors] at h
    obtain ⟨f?, hf?, h⟩ := bind_eq_ok_iff.mp h
    obtain ⟨rest, hrest, -⟩ := bind_eq_ok_iff.mp h
    obtain ⟨m?, hm?, first⟩ := exists_fragment? quoted criterion hf?
    obtain ⟨terms, hterms, others⟩ := exists_survivors quoted criteria hrest
    refine ⟨(m?.map fun m => (criterion.connector, m)).toList ++ terms, ?_, fun names => ?_⟩
    · rw [listReferences, ← hm?, ← hterms, List.flatMap_append]
      cases m? <;> simp
    · have connector : (criterion.renamed names).connector = criterion.connector := by
        obtain ⟨connector, column, condition, group⟩ := criterion
        rw [renamed]
        rfl
      rw [renamedList, survivors, first names, others names, connector]
      cases m? <;> rfl

end

/-- The text of a list of criteria under any names. -/
theorem exists_clause? (quoted : role ≠ .sorted) {criteria : List Criterion} {f? : Option Fragment}
    (h : clause? scope criteria = .ok f?) : ∃ m? : Option Mention,
      (m?.map Mention.references).getD [] = listReferences role criteria ∧
        ∀ names, clause? scope (renamedList names criteria) =
          .ok (m?.map fun m => m.fragment names) := by
  obtain ⟨terms, hterms, -⟩ := bind_eq_ok_iff.mp h
  obtain ⟨terms, references, written⟩ := exists_survivors quoted criteria hterms
  cases terms with
  | nil =>
      refine ⟨none, references, fun names => ?_⟩
      rw [clause?, written names]
      rfl
  | cons t rest =>
      refine ⟨some ⟨_, _, Refers.chain (t :: rest)⟩, references, fun names => ?_⟩
      rw [clause?, written names]
      rfl

/-- The restriction under any names.  It is left out exactly if all of its criteria decline, which
does not depend on the names. -/
theorem writes_whereFragment {criteria : List Criterion} {f : Fragment}
    (h : whereFragment scope criteria = .ok f) :
    Writes (listReferences .restricted criteria) fun names =>
      whereFragment scope (renamedList names criteria) := by
  obtain ⟨f?, hf?, -⟩ := bind_eq_ok_iff.mp h
  obtain ⟨m?, references, written⟩ := exists_clause?
    (show Reference.Role.restricted ≠ .sorted by decide) hf?
  rw [← references]
  cases m? with
  | none =>
      refine .of .nil fun names => ?_
      simp only [whereFragment, written names]
      rfl
  | some m =>
      refine .of (m.refers.cons (.sql " WHERE ")) fun names => ?_
      simp only [whereFragment, written names]
      rfl

end Criterion

/-! ### One level -/

namespace Select

/-- The clauses behind the joins under any names. -/
theorem writes_tailFragment {q : Query} {f : Fragment} (h : q.tailFragment scope = .ok f) :
    Writes (Visit.references.tail q) fun names => (q.renamed names).tailFragment scope := by
  obtain ⟨restriction, hrestriction, h⟩ := bind_eq_ok_iff.mp h
  obtain ⟨order, horder, -⟩ := bind_eq_ok_iff.mp h
  obtain ⟨g, restricted, written⟩ := (Criterion.writes_whereFragment hrestriction).exists_fragment
  have each : ∀ e ∈ q.orderBy, Writes e.sortReferences fun names =>
      (e.renamed names).orderFragment := by
    intro e mem
    obtain ⟨f, -, hf⟩ := exists_result_of_mem horder mem
    exact Expression.writes_orderFragment hf
  obtain ⟨item, sorted, ordered⟩ := Writes.exists_mapM each
  have grouped : Refers (q.groupBy.flatMap (Expression.references .grouped)) fun names =>
      listFragment " GROUP BY " (q.groupBy.map fun e => (e.renamed names).fragment scope) :=
    .list " GROUP BY " fun e _ => e.refers_fragment (by decide)
  have all := ((restricted.append grouped).append (.list " ORDER BY " sorted)).append_const
    (boundFragment " LIMIT " q.limit? ++ boundFragment " OFFSET " q.offset?)
  refine .of all fun names => ?_
  have items : (q.orderBy.map (·.renamed names)).mapM Expression.orderFragment =
      .ok (q.orderBy.map (item · names)) := by
    rw [List.mapM_map]
    exact ordered names
  rw [renamed_eq]
  simp only [tailFragment, written names, items, List.map_map, ← List.append_assoc]
  rfl

/-- The select list under any names; it cannot fail. -/
theorem refers_headFragment (q : Query) : Refers (Visit.references.head q) fun names =>
    (q.renamed names).headFragment scope := by
  have listed : Refers (q.columns.flatMap (Expression.references .selected)) fun names =>
      Fragment.joined ", " (q.columns.map fun e => (e.renamed names).selectFragment scope) :=
    .joined ", " fun e _ => e.refers_selectFragment
  have all := (listed.cons (.sql (if q.distinct then "SELECT DISTINCT " else "SELECT "))).concat
    (.sql " FROM ")
  simp only [renamed_eq, headFragment, List.map_map]
  exact all

end Select

/-- A join under any names.  What is known about its source is a hypothesis, because the source may
be a select statement. -/
theorem Join.writes_written {j : Join Source} {f : Fragment} (h : j.written scope = .ok f)
    {refs : List Reference}
    (source : ∀ f, j.source.fragment = .ok f →
      Writes refs fun names => (j.source.renamed names).fragment) :
    Writes (refs ++ Visit.references.join j) fun names => (j.renamed names).written scope := by
  obtain ⟨drawn, hdrawn, h⟩ := bind_eq_ok_iff.mp h
  obtain ⟨clause?, hclause, -⟩ := bind_eq_ok_iff.mp h
  obtain ⟨g, refers, written⟩ := (source drawn hdrawn).exists_fragment
  obtain ⟨m?, references, criteria⟩ := Criterion.exists_clause?
    (show Reference.Role.joined ≠ .sorted by decide) hclause
  have on : Refers (Visit.references.join j) fun names =>
      (m?.map fun m => m.fragment names).getD [.sql "None"] := by
    show Refers (Criterion.listReferences .joined j.criteria) _
    rw [← references]
    cases m? with
    | none => exact .const _
    | some m => exact m.refers
  have all := ((refers.withAlias " " j.alias?).cons (.sql (" " ++ j.kind.keyword ++ " "))).append
    (on.cons (.sql " ON "))
  refine .of all fun names => ?_
  simp only [Join.renamed, Join.written, Join.fragment, written names, criteria names]
  rfl

/-- A source under any names, if a select statement that it is has this property.  A table refers to
no column, and a source that cannot be written does not occur, since the fragment is given. -/
theorem Source.writes_fragment {source : Source} {f : Fragment} (h : source.fragment = .ok f)
    (nested : ∀ s f, source = .subquery s → s.fragment = .ok f →
      Writes s.references fun names => (s.renamed names).fragment) :
    Writes (source.visit Visit.references) fun names => (source.renamed names).fragment := by
  cases source with
  | table t => exact .of (.const t.fragment) fun names => by rw [renamed, fragment]
  | named schema? name =>
      exact .of (.const (.qualified schema? name)) fun names => by rw [renamed, fragment]
  | recurring | foreign => rw [fragment] at h; cases h
  | subquery s =>
      rw [fragment_subquery] at h
      obtain ⟨inner, hinner, -⟩ := map_eq_ok_iff.mp h
      obtain ⟨g, refers, written⟩ := (nested s inner rfl hinner).exists_fragment
      rw [visit_subquery]
      refine .of refers.parenthesized fun names => ?_
      rw [renamed_subquery, fragment_subquery, written names]
      rfl

namespace Select

/-- **One level of a select statement** under any names, if the statements among its sources have
this property.  The checks before the text are the same under any names, so they pass; behind them
the text is the select list, the source, the joins and the other clauses, each with its own
references. -/
theorem writes_level {q : Query} {f : Fragment} (h : q.fragment = .ok f)
    (nested : ∀ s : Query, Source.subquery s ∈ q.sources → ∀ f, s.fragment = .ok f →
      Writes s.references fun names => (s.renamed names).fragment) :
    Writes q.references fun names => (q.renamed names).fragment := by
  have source {s : Source} (mem : s ∈ q.sources) (f : Fragment) (hf : s.fragment = .ok f) :
      Writes (s.visit Visit.references) fun names => (s.renamed names).fragment :=
    Source.writes_fragment hf fun s f same => nested s (same ▸ mem) f
  rw [fragment_eq] at h
  obtain ⟨⟨⟩, checked, h⟩ := bind_eq_ok_iff.mp h
  obtain ⟨drawn, hdrawn, h⟩ := bind_eq_ok_iff.mp h
  obtain ⟨joined, hjoined, h⟩ := bind_eq_ok_iff.mp h
  obtain ⟨tail, htail, -⟩ := bind_eq_ok_iff.mp h
  -- A level is written in its own order, head, sources, joins and tail, and in that order the
  -- references were listed: the part of a source is what its own level says.
  have first : Writes ((q.from?.map fun f => f.source.visit Visit.references).getD []) fun names =>
      Source.fromFragment (q.from?.map fun f => ⟨f.source.renamed names, f.alias?⟩) := by
    cases hfrom : q.from? with
    | none => exact .of .nil fun names => by rw [Option.map_none, Source.fromFragment]
    | some origin =>
        rw [hfrom, Source.fromFragment_some] at hdrawn
        obtain ⟨f, hf, -⟩ := bind_eq_ok_iff.mp hdrawn
        obtain ⟨g, refers, written⟩ := (source (from_mem_sources hfrom) f hf).exists_fragment
        refine .of (refers.withAlias " " origin.alias?) fun names => ?_
        rw [Option.map_some, Source.fromFragment_some]
        simp only [written names]
        rfl
  have others : ∀ j ∈ q.joins, Writes (j.source.visit Visit.references ++ Visit.references.join j)
      fun names => (j.renamed names).written (q.scope Source.table?) := by
    intro j mem
    obtain ⟨f, -, hf⟩ := exists_result_of_mem hjoined mem
    exact Join.writes_written hf (source (join_mem_sources mem))
  obtain ⟨g, refers, written⟩ := first.exists_fragment
  obtain ⟨join, joins, linked⟩ := Writes.exists_mapM others
  obtain ⟨k, rest, closed⟩ := (writes_tailFragment htail).exists_fragment
  have head : Refers (Visit.references.head q) fun names =>
      (q.renamed names).headFragment (q.scope Source.table?) := q.refers_headFragment
  have all := ((head.append refers).append (.flatten joins)).append rest
  rw [references, visit_eq]
  refine .of all fun names => ?_
  have drawn' : Source.fromFragment (q.renamed names).from? = .ok (g names) := by
    rw [renamed_eq]
    exact written names
  have joined' : (q.renamed names).joins.mapM (Join.written (q.scope Source.table?)) =
      .ok (q.joins.map (join · names)) := by
    rw [renamed_eq, List.mapM_map]
    exact linked names
  rw [fragment_eq, check_renamed, scope_renamed, checked, drawn', joined', closed names]
  rfl

/-- **Under any names** the text of a select statement is written of the same parts. -/
theorem writes_fragment (q : Query) {f : Fragment} (h : q.fragment = .ok f) :
    Writes q.references fun names => (q.renamed names).fragment := by
  induction q using nesting_induction generalizing f with
  | level q nested => exact writes_level h fun s mem f => nested s mem

end Select

/-! ### What references are there for -/

theorem Expression.mem_sortReferences_iff {e : Expression} {r : Reference} :
    r ∈ e.sortReferences ↔ ∃ c, e = .column c ∧ nonempty? c.alias? = none ∧ r = ⟨.sorted, c⟩ := by
  cases e with
  | column c =>
      show r ∈ (if (nonempty? c.alias?).isNone then [⟨.sorted, c⟩] else []) ↔ _
      cases alias? : nonempty? c.alias? with
      | none => simp [alias?]
      | some name => simp [alias?]
  | _ => simp [sortReferences]

/-- What is referred to for one thing is not referred to for another.  So the role of a reference
says in which clause it stands. -/
theorem Expression.role_of_mem_references {e : Expression} {r : Reference}
    (mem : r ∈ e.references role) : r.role = role := by
  induction e with
  | column c => rw [List.mem_singleton.mp mem]
  | apply f argument alias? ih => exact ih mem
  | substring argument offset length alias? ih => exact ih mem
  | count argument distinct alias? ih => exact ih mem
  | all table => cases mem
  | countAll alias? => cases mem

theorem Condition.role_of_mem_references {condition : Condition} {r : Reference}
    (mem : r ∈ condition.references role) : r.role = role := by
  cases condition with
  | equalTo right => exact Expression.role_of_mem_references mem
  | _ => cases mem

mutual

theorem Criterion.role_of_mem_references {r : Reference} : ∀ criterion : Criterion,
    r ∈ criterion.references role → r.role = role
  | .mk connector column condition group, mem => by
    rw [Criterion.references] at mem
    rcases List.mem_append.mp mem with own | rest
    · split at own
      · rcases List.mem_append.mp own with left | right
        · exact Expression.role_of_mem_references left
        · exact Condition.role_of_mem_references right
      · cases own
    · exact Criterion.role_of_mem_listReferences group rest

theorem Criterion.role_of_mem_listReferences {r : Reference} : ∀ criteria : List Criterion,
    r ∈ Criterion.listReferences role criteria → r.role = role
  | [], mem => by
    rw [Criterion.listReferences] at mem
    cases mem
  | criterion :: criteria, mem => by
    rw [Criterion.listReferences] at mem
    rcases List.mem_append.mp mem with first | others
    · exact Criterion.role_of_mem_references criterion first
    · exact Criterion.role_of_mem_listReferences criteria others

end

namespace Select

/-- A statement sorts by the bare name of a column exactly if the column stands without an alias in
the sort order of some level.  The level need not be the outermost one. -/
theorem exists_sorted_iff (q : Query) : (∃ r ∈ q.references, r.role = .sorted) ↔
    ∃ p ∈ q.levels, ∃ c, .column c ∈ p.orderBy ∧ nonempty? c.alias? = none := by
  constructor
  · rintro ⟨r, mem, sorted⟩
    -- only the part behind ORDER BY has references by which it is sorted
    obtain ⟨p, level, head | ⟨j, -, join⟩ | tail⟩ := (mem_visit_iff (fun _ => rfl) q).mp mem
    · obtain ⟨e, -, he⟩ := List.mem_flatMap.mp head
      rw [Expression.role_of_mem_references he] at sorted
      cases sorted
    · rw [Criterion.role_of_mem_listReferences j.criteria join] at sorted
      cases sorted
    · rcases List.mem_append.mp tail with tail | order
      · rcases List.mem_append.mp tail with restriction | group
        · rw [Criterion.role_of_mem_listReferences p.criteria restriction] at sorted
          cases sorted
        · obtain ⟨e, -, he⟩ := List.mem_flatMap.mp group
          rw [Expression.role_of_mem_references he] at sorted
          cases sorted
      · obtain ⟨e, he, own⟩ := List.mem_flatMap.mp order
        obtain ⟨c, rfl, unnamed, -⟩ := Expression.mem_sortReferences_iff.mp own
        exact ⟨p, level, c, he, unnamed⟩
  · rintro ⟨p, level, c, mem, unnamed⟩
    refine ⟨⟨.sorted, c⟩, ?_, rfl⟩
    refine (mem_visit_iff (fun _ => rfl) q).mpr ⟨p, level, .inr (.inr ?_)⟩
    exact List.mem_append_right _ (List.mem_flatMap.mpr
      ⟨.column c, mem, Expression.mem_sortReferences_iff.mpr ⟨c, rfl, unnamed, rfl⟩⟩)

/-! ### Main result -/

/-- **Columns are quoted everywhere but in the sort order.**  A select statement that is rendered is
written of parts, among which the references to columns are those of the statement, on all of its
levels and in order of the text.  Under other names of the columns it is written of the same parts:
the text changes at the references and nowhere else, and there it has the name as the dialect quotes
it, unless the reference is there for sorting.  So in a dialect that quotes identifiers, all
references are quoted exactly if no level sorts by a column without an alias; where one does, it
sorts by another identifier than the one that it selects. -/
theorem references_quoted_iff {q : Query} {dialect : Dialect} {r : Rendered}
    (rendered : q.render dialect = .ok r) :
    (∃ parts, Part.references parts = q.references ∧
      r.sql = Part.spell dialect .own parts ∧
      ∀ names, (q.renamed names).render dialect =
        .ok ⟨Part.spell dialect names parts, r.parameters⟩) ∧
    (∀ ref ∈ q.references, ∀ names, ref.text dialect names = dialect.quote (names ref.column) ↔
      ref.role ≠ .sorted ∨ dialect = .generic) ∧
    (dialect ≠ .generic →
      ((∀ ref ∈ q.references, ref.text dialect .own = dialect.quote ref.column.name) ↔
        ∀ p ∈ q.levels, ∀ c, .column c ∈ p.orderBy → nonempty? c.alias? ≠ none)) := by
  refine ⟨?_, fun ref _ names => Reference.text_eq_quote_iff, fun quoting => ?_⟩
  · obtain ⟨f, hf, same⟩ := bind_eq_ok_iff.mp rendered
    obtain ⟨g, refers, written⟩ := (q.writes_fragment hf).exists_fragment
    obtain ⟨parts, after, references, -, spelled⟩ := refers { dialect }
    have text (names : Naming) : (q.renamed names).render dialect =
        .ok ⟨Part.spell dialect names parts, after.bindings.parameters⟩ := by
      rw [render, written names]
      show Except.ok ((g names).render dialect) = _
      rw [Fragment.render, spelled names]
    have own := text .own
    rw [renamed_own, rendered] at own
    obtain rfl := Except.ok.inj own
    exact ⟨parts, references, rfl, text⟩
  · have quoted (ref : Reference) :
        ref.text dialect .own = dialect.quote ref.column.name ↔ ref.role ≠ .sorted :=
      Reference.text_eq_quote_iff.trans (or_iff_left quoting)
    have sorted := not_congr (q.exists_sorted_iff)
    simp only [quoted]
    simpa only [not_exists, not_and] using sorted

/-- A statement that sorts by the column that it selects. -/
def orderedItems : Query :=
  let items : Table := ⟨0, "items", none⟩
  { kind := .select
    distinct := false
    columns := [.column (.plain "Order" items none)]
    from? := some ⟨.table items, none⟩
    orderBy := [.column (.plain "Order" items none)] }

/-- The column is selected under its quoted name and sorted by under its bare name. -/
theorem references_quoted_iff_sample :
    orderedItems.render .postgresql =
      .ok ⟨"SELECT \x22Order\x22 FROM \x22items\x22 ORDER BY Order", []⟩ ∧
    orderedItems.references.map (·.role) = [.selected, .sorted] ∧
    ¬ ∀ ref ∈ orderedItems.references,
      ref.text .postgresql .own = Dialect.postgresql.quote ref.column.name := by
  have rendered : orderedItems.render .postgresql =
      .ok ⟨"SELECT \x22Order\x22 FROM \x22items\x22 ORDER BY Order", []⟩ := rfl
  obtain ⟨-, -, quoted⟩ := references_quoted_iff rendered
  refine ⟨rendered, rfl, fun all => ?_⟩
  exact (quoted (by decide)).mp all orderedItems (mem_levels_iff.mpr (.inl rfl)) _
    List.mem_cons_self rfl

end Select

end BoundSql
