import BoundSql.Proofs.Joins
import BoundSql.Proofs.Scoping.Identifiers
import BoundSql.Proofs.Subquery

/-!
# The scope of aliases

An alias of a table is in force on one level of a select statement: on the level whose own source
the table is.  A column of a clause stands behind its own qualifier if it has one, or else behind
the last alias that the statement itself gives to the column's table, and what the statements around
it, beside it and in it call their tables makes no difference.

## What is stated

The writer of statements keeps the aliases in a scope, which it fills while it goes through the
sources.  A statement about prefixes that spoke of this scope would only say that the writer does
what it does.  So the prefix of a column is defined without it: `Select.lastAlias?` looks for the
last source of the statement itself that is the table and has an alias, and `Select.prefix?` puts
the column's own qualifier before that.  That the scope comes to the same is
`Select.identifier_scope`, and nothing behind it mentions a scope any more, except that of the
context into which a statement is written.

A level is found by a path: at each step one goes to the select statement that the statement draws
from, or to one that it joins.  Two levels are different exactly if their paths are, even if they
are the same statement, so that it makes sense to say what happens on one level when another is
changed.

## The shape of the proof

On one level the text is cut into parts (`Select.Parts`), and the identifiers are read of each part
by itself.  The sources are left out of this, since their texts have levels of their own; what has
to be shown is that no part begins or ends in such a way that its neighbour would be read
differently.  On other levels the induction is over the two paths: as long as they go the same way
one descends, and where they part the change is out of reach.

* `Select.lastAlias?`, `Select.prefix?` : the alias of a table, and the prefix of a column.
* `Select.Scoped` : the clauses of one level, every column behind its prefix.
* `Select.realiasAt` : the statement with other aliases on one of its levels.
* `Select.alias_scoping` : all levels of a statement are scoped, and other aliases on one level
  change no prefix on another.
-/

namespace BoundSql

/-! ### Aliases and prefixes -/

/-- The alias under which a source, given with its alias, is the table.  An empty alias is none, and
tables are told apart by their identity: another table of the same name is another table. -/
def Table.aliasIn? (t : Table) (s : Source × Option String) : Option String :=
  match s.1 with
  | .table u => if u.id = t.id then nonempty? s.2 else none
  | _ => none

namespace Select

/-- The sources of a statement with their aliases: what it draws from, then what it joins. -/
def aliasedSources (q : Query) : List (Source × Option String) :=
  (q.from?.map fun f => (f.source, f.alias?)).toList ++ q.joins.map fun j => (j.source, j.alias?)

/-- The last alias, if there is one, under which the table is a source of the statement itself. -/
def lastAlias? (q : Query) (t : Table) : Option String :=
  (q.aliasedSources.filterMap t.aliasIn?).getLast?

/-- The prefix of a column: its own qualifier, or else the last alias of its table. -/
def prefix? (q : Query) (c : Column) : Option String :=
  (nonempty? c.qualifier?).or (q.lastAlias? c.table)

/-- A column behind its prefix. -/
def identifier (q : Query) (c : Column) : Identifier := ⟨q.prefix? c, c.name⟩

/-- The columns of expressions, in order, each behind its prefix. -/
def identifiers (q : Query) (es : List Expression) : List Identifier :=
  (es.filterMap Expression.column?).map q.identifier

end Select

/-- What has been found to be empty once is not looked at a second time. -/
theorem nonempty?_nonempty? (text? : Option String) :
    nonempty? (nonempty? text?) = nonempty? text? := by
  unfold nonempty?
  rw [Option.filter_filter]
  simp

/-- An alias in force is not empty. -/
theorem Table.nonempty?_aliasIn? (t : Table) (s : Source × Option String) :
    nonempty? (t.aliasIn? s) = t.aliasIn? s := by
  unfold aliasIn?
  split
  · split
    · exact nonempty?_nonempty? _
    · rfl
  · rfl

/-- The aliases after one more table has been made known.  The alias that it is made known under
goes before all that were known; without one the table keeps what it had. -/
theorem Scope.alias?_register (scope : Scope) (u : Table) (alias? : Option String) (t : Table) :
    (scope.register u alias?).alias? t =
      (t.aliasIn? (.table u, alias?)).or (scope.alias? t) := by
  unfold register Table.aliasIn? Scope.alias?
  simp only
  by_cases same : u.id = t.id
  · rw [← same, if_pos rfl]
    cases nonempty? alias? with
    | none => rfl
    | some name => exact Assoc.get?_put_self _ _ _
  · rw [if_neg same]
    cases nonempty? alias? with
    | none => rfl
    | some name => exact Assoc.get?_put_of_ne (Ne.symm same) _ _

/-- Of the aliases that are made known one after the other, the last is in force.  The scope at the
beginning counts only for tables that none of the sources gives an alias to, so the induction has to
run over all scopes. -/
theorem Scope.alias?_foldl (sources : List (Source × Option String)) (scope : Scope) (t : Table) :
    Scope.alias? (sources.foldl (fun scope s =>
      match Source.table? s.1 with
      | some u => scope.register u s.2
      | none => scope) scope) t =
      (sources.filterMap t.aliasIn?).getLast?.or (scope.alias? t) := by
  induction sources generalizing scope with
  | nil => rfl
  | cons s sources ih =>
      rw [List.foldl_cons, ih, List.filterMap_cons]
      obtain ⟨source, alias?⟩ := s
      cases source with
      | table u =>
          simp only [Source.table?, alias?_register]
          cases t.aliasIn? (.table u, alias?) with
          | none => rfl
          | some name =>
              rw [List.getLast?_cons]
              cases (sources.filterMap t.aliasIn?).getLast? <;> rfl
      | _ => rfl

/-! ### One level -/

namespace Select

/-- What the scope of a level says about a table is its last alias among the sources of the
level. -/
theorem alias?_scope (q : Query) (t : Table) :
    (q.scope Source.table?).alias? t = q.lastAlias? t := by
  have fold := Scope.alias?_foldl q.aliasedSources [] t
  rwa [show Scope.alias? [] t = none from rfl, Option.or_none] at fold

theorem nonempty?_lastAlias? (q : Query) (t : Table) :
    nonempty? (q.lastAlias? t) = q.lastAlias? t := by
  cases last : q.lastAlias? t with
  | none => rfl
  | some name =>
      obtain ⟨s, -, hs⟩ := List.mem_filterMap.mp (List.mem_of_getLast? last)
      rw [← hs, t.nonempty?_aliasIn?]

/-- On a level a column is written behind its prefix.  This is the one place where the scope of the
writer and the prefixes defined here meet. -/
theorem identifier_scope (q : Query) (c : Column) :
    c.identifier (q.scope Source.table?) = q.identifier c := by
  rw [Column.identifier, identifier, Column.scopedQualifier?, alias?_scope, prefix?]
  congr 1
  cases own : nonempty? c.qualifier? with
  | none => exact q.nonempty?_lastAlias? c.table
  | some qualifier =>
      rw [Option.some_or, ← own, nonempty?_nonempty?]

theorem identifiers_scope (q : Query) (es : List Expression) :
    Expression.identifiers (q.scope Source.table?) es = q.identifiers es :=
  List.map_congr_left fun c _ => q.identifier_scope c

/-- What is written on one level: the select list, the source, the joins, and the clauses behind
them.  They are told apart because the identifiers in the text of a source belong to another
level. -/
structure Parts where
  head : Fragment
  source : Fragment
  joins : List Fragment
  tail : Fragment

/-- The parts, one behind the other. -/
def Parts.text (parts : Parts) : Fragment :=
  parts.head ++ parts.source ++ parts.joins.flatten ++ parts.tail

/-- The criteria of a join as the statement writes them: every column behind its prefix. -/
def JoinScoped (q : Query) (join : Join Source) (text : Fragment) : Prop :=
  ∃ source on : Fragment, join.source.fragment = .ok source ∧
    text = .sql (" " ++ join.kind.keyword ++ " ") :: source.withAlias " " join.alias? ++
      .sql " ON " :: on ∧
    on.identifiers = q.identifiers (Criterion.expressions join.criteria)

/-- On one level of a statement the columns of every clause stand behind their prefixes, and beside
the texts of the sources nothing else is an identifier.  The sort order is in the tail, but adds
nothing to it, because names to sort by are written bare. -/
structure Scoped (q : Query) (parts : Parts) : Prop where
  text : q.fragment = .ok parts.text
  columns : parts.head.identifiers = q.identifiers q.columns
  source : Source.fromFragment q.from? = .ok parts.source
  joins : List.Forall₂ q.JoinScoped q.joins parts.joins
  tail : parts.tail.identifiers = q.identifiers (Criterion.expressions q.criteria ++ q.groupBy)

/-- The select list has the columns that are selected, and no other identifiers: aliases and
keywords are verbatim text. -/
theorem identifiers_headFragment (q : Query) (scope : Scope) :
    (q.headFragment scope).identifiers = Expression.identifiers scope q.columns := by
  have word : qualifierIn? (if q.distinct then "SELECT DISTINCT " else "SELECT ") = none := by
    cases q.distinct <;> decide
  have item : ∀ e : Expression,
      (e.selectFragment scope).identifiers = Expression.identifiers scope [e] := by
    intro e
    rw [Expression.selectFragment, Fragment.identifiers_withAlias,
      (e.reads_fragment scope).identifiers_eq]
  rw [headFragment, Fragment.identifiers_append_last, Fragment.identifiers_sql word,
    Fragment.identifiers_joined (by decide), List.flatMap_map]
  simp only [item, Expression.flatMap_identifiers]

end Select

/-- A list of items has the identifiers of the items. -/
theorem identifiers_listFragment {keyword : String} (plain : qualifierIn? keyword = none)
    (items : List Fragment) :
    (listFragment keyword items).identifiers = items.flatMap Fragment.identifiers := by
  unfold listFragment
  split
  next none => rw [List.isEmpty_iff.mp none]; rfl
  next => rw [Fragment.identifiers_sql plain, Fragment.identifiers_joined (by decide)]

/-- A clause begins with its keyword, so that nothing before it can be taken for a qualifier of its
first column. -/
theorem opens_listFragment {keyword : String} (plain : qualifierIn? keyword = none)
    (items : List Fragment) : (listFragment keyword items).Opens := by
  unfold listFragment
  split
  · trivial
  · exact plain

/-- A limit or an offset is bound as a value and mentions no column. -/
theorem identifiers_boundFragment (keyword : String) (v? : Option Value) :
    (boundFragment keyword v?).identifiers = [] := by
  cases v? <;> rfl

theorem opens_boundFragment {keyword : String} (plain : qualifierIn? keyword = none)
    (v? : Option Value) : (boundFragment keyword v?).Opens := by
  cases v? with
  | none => trivial
  | some v => exact plain

/-- Names to sort by are written verbatim, so none of them is an identifier. -/
theorem Expression.identifiers_orderFragment {e : Expression} {f : Fragment}
    (h : e.orderFragment = .ok f) : f.identifiers = [] := by
  unfold orderFragment at h
  split at h
  · rw [← Except.ok.inj h]
    rfl
  · cases h

/-- The restriction has the columns of the criteria that do not decline.  If all of them decline
there is no restriction, and no column either. -/
theorem Criterion.identifiers_whereFragment {scope : Scope} {criteria : List Criterion}
    {f : Fragment} (h : whereFragment scope criteria = .ok f) :
    f.identifiers = Expression.identifiers scope (expressions criteria) := by
  rw [whereFragment, bind_eq_ok_iff] at h
  obtain ⟨clause?, hclause, same⟩ := h
  have nothing : Fragment.identifiers [] = [] := rfl
  rw [← pure_eq_ok_iff.mp same, ← identifiers_clause? hclause nothing]
  cases clause? with
  | none => rfl
  | some clause => exact Fragment.identifiers_sql (by decide) clause

namespace Select

/-- The clauses behind the joins have the columns of the restriction and of the groups, in this
order. -/
theorem identifiers_tailFragment {q : Query} {scope : Scope} {f : Fragment}
    (h : q.tailFragment scope = .ok f) :
    f.identifiers =
      Expression.identifiers scope (Criterion.expressions q.criteria ++ q.groupBy) := by
  simp only [tailFragment, bind_eq_ok_iff, pure_eq_ok_iff] at h
  obtain ⟨restriction, hrestriction, order, horder, rfl⟩ := h
  have sorting : order.flatMap Fragment.identifiers = [] := by
    refine List.flatMap_eq_nil_iff.mpr fun item mem => ?_
    obtain ⟨e, -, he⟩ := exists_of_mem_mapM horder mem
    exact e.identifiers_orderFragment he
  have grouping : (q.groupBy.map (·.fragment scope)).flatMap Fragment.identifiers =
      Expression.identifiers scope q.groupBy := by
    rw [List.flatMap_map, ← Expression.flatMap_identifiers]
    exact List.flatMap_congr fun e _ => (e.reads_fragment scope).identifiers_eq
  rw [Fragment.identifiers_append (opens_boundFragment (by decide) _),
    Fragment.identifiers_append (opens_boundFragment (by decide) _),
    Fragment.identifiers_append (opens_listFragment (by decide) _),
    Fragment.identifiers_append (opens_listFragment (by decide) _),
    identifiers_boundFragment, identifiers_boundFragment,
    identifiers_listFragment (by decide), identifiers_listFragment (by decide), sorting, grouping,
    Criterion.identifiers_whereFragment hrestriction, Expression.identifiers_append]
  simp only [List.append_nil]

/-- A join that is written has its columns behind their prefixes.  Where all of its criteria decline
a word stands in their place, which is no identifier. -/
theorem joinScoped_of_written {q : Query} {join : Join Source} {text : Fragment}
    (h : join.written (q.scope Source.table?) = .ok text) : q.JoinScoped join text := by
  simp only [Join.written, Join.fragment, bind_eq_ok_iff, pure_eq_ok_iff] at h
  obtain ⟨source, hsource, clause?, hclause, rfl⟩ := h
  refine ⟨source, clause?.getD [.sql "None"], hsource, rfl, ?_⟩
  rw [Criterion.identifiers_clause? hclause rfl, identifiers_scope]

/-- **One level is scoped**: every column stands behind its prefix.  That the statement is written
is all that is assumed; the parts are those that the writer puts one behind the other. -/
theorem exists_scoped {q : Query} {f : Fragment} (h : q.fragment = .ok f) :
    ∃ parts, f = parts.text ∧ q.Scoped parts := by
  have written := h
  rw [fragment_eq] at written
  simp only [bind_eq_ok_iff, pure_eq_ok_iff] at written
  obtain ⟨-, -, source, hsource, joins, hjoins, tail, htail, same⟩ := written
  refine ⟨⟨q.headFragment (q.scope Source.table?), source, joins, tail⟩, same.symm, ?_⟩
  exact {
    text := by rw [h, ← same]; rfl
    columns := by rw [identifiers_headFragment, identifiers_scope]
    source := hsource
    joins := (mapM_eq_ok_iff.mp hjoins).imp fun _ _ => joinScoped_of_written
    tail := by rw [identifiers_tailFragment htail, identifiers_scope] }

end Select

/-! ### Places in a statement -/

/-- The select statement that a source is. -/
def Source.query? : Source → Option Query
  | .subquery q => some q
  | _ => none

/-- The source with another select statement in the place of the one that it is. -/
def Source.modify (f : Query → Query) : Source → Source
  | .subquery q => .subquery (f q)
  | source => source

namespace Select

/-- The place of a source in a statement. -/
inductive Position where
  | source
  | join (number : Nat)
deriving DecidableEq, Repr

/-- The source at a place. -/
def sourceAt? (q : Query) : Position → Option Source
  | .source => q.from?.map From.source
  | .join number => q.joins[number]?.map Join.source

/-- The select statement among the sources at a place. -/
def nested? (q : Query) (position : Position) : Option Query :=
  (q.sourceAt? position).bind Source.query?

/-- The level at the end of a path from the outermost statement, if the path leads to one: a step to
a source that is a table leads nowhere. -/
def at? : List Position → Query → Option Query
  | [], q => some q
  | position :: path, q => (q.nested? position).bind (at? path)

/-- The statement with another select statement at a place. -/
def modifyAt (q : Query) (f : Query → Query) : Position → Query
  | .source => { q with from? := q.from?.map fun s => { s with source := s.source.modify f } }
  | .join number => { q with
      joins := q.joins.modify number fun j => { j with source := j.source.modify f } }

/-- The statement with other aliases for its sources: the first for what it draws from, the
others for what it joins. -/
def realias (aliases : Nat → Option String) (q : Query) : Query :=
  { q with
    from? := q.from?.map fun s => { s with alias? := aliases 0 }
    joins := q.joins.mapIdx fun i j => { j with alias? := aliases (i + 1) } }

/-- The statement with other aliases on the level at the end of a path. -/
def realiasAt (aliases : Nat → Option String) : List Position → Query → Query
  | [], q => q.realias aliases
  | position :: path, q => q.modifyAt (realiasAt aliases path) position

/-! ### Other aliases elsewhere -/

/-- The two statements have the same clauses, and every column has the same prefix in both.  Nothing
is said of their sources, which may be written in different ways. -/
structure QualifiesAs (q p : Query) : Prop where
  columns : p.columns = q.columns
  joins : p.joins.map Join.criteria = q.joins.map Join.criteria
  criteria : p.criteria = q.criteria
  groupBy : p.groupBy = q.groupBy
  prefix? : ∀ c, p.prefix? c = q.prefix? c

theorem QualifiesAs.refl (q : Query) : q.QualifiesAs q := ⟨rfl, rfl, rfl, rfl, fun _ => rfl⟩

/-- Other aliases of the sources are aliases of the same sources.  So a path leads to the same
levels as before, except that the level at its beginning has other aliases. -/
theorem nested?_realias (aliases : Nat → Option String) (q : Query) (position : Position) :
    (q.realias aliases).nested? position = q.nested? position := by
  unfold nested?
  congr 1
  cases position with
  | source =>
      show (q.from?.map _).map From.source = q.from?.map From.source
      rw [Option.map_map]
      rfl
  | join number =>
      show (q.joins.mapIdx _)[number]?.map Join.source = q.joins[number]?.map Join.source
      rw [List.getElem?_mapIdx, Option.map_map]
      rfl

end Select

theorem Source.query?_modify (f : Query → Query) (source : Source) :
    (source.modify f).query? = source.query?.map f := by
  cases source <;> rfl

/-- Whether a source is the table is decided by the source alone, and a select statement is no table
however it is changed. -/
theorem Table.aliasIn?_modify (t : Table) (f : Query → Query) (source : Source)
    (alias? : Option String) :
    t.aliasIn? (source.modify f, alias?) = t.aliasIn? (source, alias?) := by
  cases source <;> rfl

/-- What is not changed by a change of one member is the same of all members. -/
theorem map_modify_eq {α β : Type} {g : α → α} {h : α → β} (same : ∀ a, h (g a) = h a)
    (l : List α) (i : Nat) : (l.modify i g).map h = l.map h := by
  ext1 j
  rw [List.getElem?_map, List.getElem?_map, List.getElem?_modify]
  cases l[j]? with
  | none => rfl
  | some a =>
      by_cases at? : i = j
      · simp [at?, same]
      · simp [at?]

/-- The same of a list of members that something is found for. -/
theorem filterMap_modify_eq {α β : Type} {g : α → α} {h : α → Option β}
    (same : ∀ a, h (g a) = h a) (l : List α) (i : Nat) :
    (l.modify i g).filterMap h = l.filterMap h := by
  have split : ∀ l : List α, l.filterMap h = (l.map h).filterMap id := by
    intro l
    rw [List.filterMap_map, Function.id_comp]
  rw [split, split, map_modify_eq same]

namespace Select

/-- At the place itself stands the changed statement. -/
theorem nested?_modifyAt_self (q : Query) (f : Query → Query) (position : Position) :
    (q.modifyAt f position).nested? position = (q.nested? position).map f := by
  cases position with
  | source =>
      unfold nested?
      show ((q.from?.map _).map From.source).bind Source.query? = _
      cases hfrom : q.from? with
      | none => simp [sourceAt?, hfrom]
      | some s => simp [sourceAt?, hfrom, Source.query?_modify]
  | join number =>
      unfold nested?
      show ((q.joins.modify number _)[number]?.map Join.source).bind Source.query? = _
      rw [List.getElem?_modify_eq]
      cases hjoin : q.joins[number]? with
      | none => simp [sourceAt?, hjoin]
      | some j => simp [sourceAt?, hjoin, Source.query?_modify]

/-- At any other place stands what stood there before. -/
theorem nested?_modifyAt_of_ne (q : Query) (f : Query → Query) {position other : Position}
    (different : other ≠ position) :
    (q.modifyAt f position).nested? other = q.nested? other := by
  unfold nested?
  congr 1
  cases position with
  | source =>
      cases other with
      | source => exact absurd rfl different
      | join number => rfl
  | join number =>
      cases other with
      | source => rfl
      | join number' =>
          have apart : number ≠ number' := fun same => different (same ▸ rfl)
          show (q.joins.modify number _)[number']?.map Join.source = _
          rw [List.getElem?_modify_ne _ _ apart]
          rfl

/-- Another statement in the place of a source leaves the aliases of the tables as they are, because
a select statement among the sources gives no alias to a table. -/
theorem lastAlias?_modifyAt (q : Query) (f : Query → Query) (position : Position) (t : Table) :
    (q.modifyAt f position).lastAlias? t = q.lastAlias? t := by
  unfold lastAlias? aliasedSources
  congr 1
  rw [List.filterMap_append, List.filterMap_append]
  cases position with
  | source =>
      congr 1
      show List.filterMap _ ((q.from?.map _).map _).toList = _
      cases q.from? with
      | none => rfl
      | some s =>
          show [(s.source.modify f, s.alias?)].filterMap t.aliasIn? =
            [(s.source, s.alias?)].filterMap t.aliasIn?
          rw [List.filterMap_cons, List.filterMap_cons, Table.aliasIn?_modify]
  | join number =>
      congr 1
      rw [List.filterMap_map, List.filterMap_map]
      exact filterMap_modify_eq (fun j => t.aliasIn?_modify f j.source j.alias?) _ _

/-- A change inside one of the sources is not noticed by the clauses around it. -/
theorem qualifiesAs_modifyAt (q : Query) (f : Query → Query) (position : Position) :
    q.QualifiesAs (q.modifyAt f position) := by
  have same : ∀ c, (q.modifyAt f position).prefix? c = q.prefix? c := by
    intro c
    rw [prefix?, prefix?, lastAlias?_modifyAt]
  cases position with
  | source => exact ⟨rfl, rfl, rfl, rfl, same⟩
  | join number =>
      refine ⟨rfl, ?_, rfl, rfl, same⟩
      refine map_modify_eq ?_ q.joins number
      intro join
      rfl

/-- **Other aliases on one level** change no prefix on another.  The level may lie above the one
with other aliases, below it, or beside it; all that is excluded is the level itself, which of
course writes its columns behind the new aliases. -/
theorem exists_qualifiesAs (aliases : Nat → Option String) {place here : List Position}
    (elsewhere : here ≠ place) {q p : Query} (level : q.at? here = some p) :
    ∃ p', (q.realiasAt aliases place).at? here = some p' ∧ p.QualifiesAs p' := by
  induction place generalizing here q with
  | nil =>
      -- the outermost level has the other aliases, and the level in question is nested in it
      obtain ⟨position, path, rfl⟩ := List.exists_cons_of_ne_nil elsewhere
      refine ⟨p, ?_, .refl p⟩
      rw [realiasAt, at?, nested?_realias]
      exact level
  | cons position place ih =>
      cases here with
      | nil =>
          obtain rfl := Option.some.inj level
          exact ⟨_, rfl, q.qualifiesAs_modifyAt _ position⟩
      | cons other path =>
          rw [at?, Option.bind_eq_some_iff] at level
          obtain ⟨s, source, level⟩ := level
          by_cases same : other = position
          · subst same
            obtain ⟨p', level', qualifies⟩ := ih (fun same => elsewhere (same ▸ rfl)) level
            refine ⟨p', ?_, qualifies⟩
            rw [realiasAt, at?, nested?_modifyAt_self, source]
            exact level'
          · refine ⟨p, ?_, .refl p⟩
            rw [realiasAt, at?, nested?_modifyAt_of_ne q _ same, source]
            exact level

/-! ### Main result -/

/-- The select statement at a place is among the sources that the text of the statement is made
of. -/
theorem mem_sources_of_nested? {q s : Query} {position : Position}
    (h : q.nested? position = some s) : Source.subquery s ∈ q.sources := by
  obtain ⟨source, at?, is⟩ := Option.bind_eq_some_iff.mp h
  obtain rfl : source = .subquery s := by
    cases source with
    | subquery s' => exact congrArg Source.subquery (Option.some.inj is)
    | _ => cases is
  cases position with
  | source =>
      obtain ⟨f, hf, same⟩ := Option.map_eq_some_iff.mp at?
      exact same ▸ from_mem_sources hf
  | join number =>
      obtain ⟨j, hj, same⟩ := Option.map_eq_some_iff.mp at?
      exact same ▸ join_mem_sources (List.mem_of_getElem? hj)

/-- What a path leads to is a level of the statement. -/
theorem mem_levels_of_at? {path : List Position} {q p : Query} (h : q.at? path = some p) :
    p ∈ q.levels := by
  induction path generalizing q with
  | nil => exact mem_levels_iff.mpr (.inl (Option.some.inj h).symm)
  | cons position path ih =>
      obtain ⟨s, source, level⟩ := Option.bind_eq_some_iff.mp h
      exact mem_levels_iff.mpr (.inr ⟨s, mem_sources_of_nested? source, ih level⟩)

/-- **Alias scoping.**  Wherever a level stands in a statement, its text stands in that of the
statement, and there every column of its select list, of its criteria, of the criteria of its
joins and of its groups is an identifier behind the prefix that the level itself gives it; that
holds also where the statement is written into a context in which other aliases are in scope.
Other aliases on one level leave the prefixes on every other level as they are. -/
theorem alias_scoping (q : Query) :
    (∀ f, q.fragment = .ok f →
      (∀ dialect, q.render dialect = .ok (f.render dialect)) ∧
      (∀ c : Context, q.writeIn c.child =
        .ok (f.write { c with scope := q.scope Source.table? })) ∧
      ∀ place p, q.at? place = some p → ∃ before parts behind,
        f = before ++ parts.text ++ behind ∧ p.Scoped parts) ∧
    ∀ aliases place here p, here ≠ place → q.at? here = some p →
      ∃ p', (q.realiasAt aliases place).at? here = some p' ∧ p.QualifiesAs p' := by
  refine ⟨fun f h => ⟨fun dialect => ?_, fun c => ?_, fun place p level => ?_⟩,
    fun aliases place here p elsewhere level => exists_qualifiesAs aliases elsewhere level⟩
  · rw [render, h]
    rfl
  · rw [q.writeIn_child c, h]
    rfl
  · have mem := mem_levels_of_at? level
    obtain ⟨g, hg, before, behind, inside⟩ := exists_infix_of_mem_levels q h mem
    obtain ⟨parts, rfl, prefixed⟩ := exists_scoped hg
    exact ⟨before, parts, behind, inside.symm, prefixed⟩

/-- A statement in which each level knows the users under an alias of its own, and the outer one
under two of them: the later one counts. -/
def aliased : Query :=
  let users : Table := ⟨0, "users", none⟩
  let id : Expression := .column (.plain "id" users none)
  let inner : Query :=
    { kind := .select
      distinct := false
      columns := [.apply .max id (some "id")]
      from? := some ⟨.table users, some "i"⟩
      groupBy := [.column { Column.plain "name" users none with qualifier? := some "n" }] }
  { kind := .select
    distinct := false
    columns := [id]
    from? := some ⟨.table users, some "a"⟩
    joins := [⟨.inner, .subquery inner, some "s", [.mk .and id (.equalTo id) []]⟩,
      ⟨.left, .table users, some "b", [.mk .and id (.null true) []]⟩,
      ⟨.left, .table users, none, [.mk .and id (.null true) []]⟩] }

/-- The sample as text. -/
def aliasedText : String :=
  "SELECT b.id FROM users a JOIN (SELECT MAX(i.id) AS id FROM users i GROUP BY n.name) s " ++
    "ON b.id = b.id LEFT JOIN users b ON b.id IS NOT NULL LEFT JOIN users ON b.id IS NOT NULL"

set_option maxRecDepth 2000 in
/-- The nested statement of the sample keeps its prefixes when the statement around it has no
aliases, although its source is the same table. -/
theorem alias_scoping_sample :
    aliased.render .generic = .ok ⟨aliasedText, []⟩ ∧
    (∃ parts, aliased.Scoped parts ∧ parts.head.identifiers = [⟨some "b", "id"⟩]) ∧
    ∃ inner parts, aliased.at? [.join 0] = some inner ∧ inner.Scoped parts ∧
      parts.head.identifiers = [⟨some "i", "id"⟩] ∧
      parts.tail.identifiers = [⟨some "n", "name"⟩] ∧
      ∃ inner', (aliased.realiasAt (fun _ => none) []).at? [.join 0] = some inner' ∧
        inner.QualifiesAs inner' := by
  obtain ⟨written, kept⟩ := alias_scoping aliased
  have put : ∃ f, aliased.fragment = .ok f := ⟨_, rfl⟩
  obtain ⟨f, hf⟩ := put
  obtain ⟨-, -, levels⟩ := written f hf
  obtain ⟨-, outer, -, -, houter⟩ := levels [] aliased rfl
  obtain ⟨-, inner, -, -, hinner⟩ := levels [.join 0] _ rfl
  refine ⟨rfl, ⟨outer, houter, ?_⟩, _, inner, rfl, hinner, ?_, ?_, ?_⟩
  · rw [houter.columns]
    decide
  · rw [hinner.columns]
    decide
  · rw [hinner.tail]
    decide
  · exact kept _ [] [.join 0] _ (by decide) rfl

end Select

end BoundSql
