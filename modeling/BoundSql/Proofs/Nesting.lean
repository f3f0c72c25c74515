import BoundSql.Proofs.Results
import BoundSql.Select

/-!
# Nested select statements

A select statement is written level by level: each level checks itself, then writes its sources,
which may be select statements again.  This module gives the equations of one level and one
induction for all levels.

The functions that write a statement are defined by recursion on the statement and its sources
together, which is what makes them total, and is an obstacle to everything else: their equations
mention all ten components of a statement.  `Select.fragment_eq` says once what a level is in terms
of the functions for its parts, and after that no proof takes a statement apart.
`Select.nesting_induction` does the same for the recursion.  Its hypothesis is about the select
statements among the sources of a statement, whether the statement draws from them or joins them.

A `Visit` is the other thing that is done on all levels: something is listed.  What a level
contributes is said in four places, before its sources, at a source that is a leaf, behind the
source of a join, and behind the joins, and the order in which a statement is written is thereby the
order of the list.  Sites, texts, references, levels and faults are all listed in this way, and
`Select.visit_eq` is the only equation about them.

* `Select.fragment_eq` : the text of one level, given the texts of its sources.
* `Select.nesting_induction` : what passes from the select statements among the sources of a
  statement to the statement itself holds of every statement.
* `Visit`, `Select.visit` : the list of what is met on all levels of a statement, in the order in
  which the levels are written.
-/

namespace BoundSql

/-! ### One level -/

/-- A join together with its source. -/
def Join.written (scope : Scope) (join : Join Source) : Except Error Fragment := do
  let f ← join.source.fragment
  Join.fragment scope f join

/-- The joins of a statement are written one behind the other. -/
theorem Source.joinsFragment_eq (scope : Scope) (joins : List (Join Source)) :
    Source.joinsFragment scope joins = List.flatten <$> joins.mapM (Join.written scope) := by
  induction joins with
  | nil => rw [Source.joinsFragment.eq_def]; rfl
  | cons join joins ih =>
      obtain ⟨kind, source, alias?, criteria⟩ := join
      rw [Source.joinsFragment.eq_def, List.mapM_cons]
      simp only [ih, Join.written, bind_assoc, map_eq_pure_bind, pure_bind, List.flatten_cons]

/-- The source of a statement, behind `FROM`. -/
theorem Source.fromFragment_some (source : From Source) :
    Source.fromFragment (some source) = do
      let f ← source.source.fragment
      return f.withAlias " " source.alias? := by
  rw [Source.fromFragment.eq_def]

/-- A nested statement is written in parentheses, and otherwise as it is on its own. -/
theorem Source.fragment_subquery (q : Query) :
    (Source.subquery q).fragment = Fragment.parenthesized <$> q.fragment := by
  rw [Source.fragment.eq_def]
  rfl

namespace Select

/-- **One level of a select statement.** -/
theorem fragment_eq (q : Query) :
    q.fragment = do
      q.check Source.isSelect
      let source ← Source.fromFragment q.from?
      let joined ← q.joins.mapM (Join.written (q.scope Source.table?))
      let tail ← q.tailFragment (q.scope Source.table?)
      return q.headFragment (q.scope Source.table?) ++ source ++ joined.flatten ++ tail := by
  rw [fragment, Source.selectFragment.eq_def]
  simp only [Source.joinsFragment_eq, map_eq_pure_bind, bind_assoc, pure_bind]

/-- The sources of a statement: what it draws from, and what it joins. -/
def sources {σ : Type} (q : Select σ) : List σ :=
  (q.from?.map From.source).toList ++ q.joins.map Join.source

theorem from_mem_sources {σ : Type} {q : Select σ} {f : From σ} (h : q.from? = some f) :
    f.source ∈ q.sources := by
  simp [sources, h]

theorem join_mem_sources {σ : Type} {q : Select σ} {j : Join σ} (h : j ∈ q.joins) :
    j.source ∈ q.sources :=
  List.mem_append_right _ (List.mem_map_of_mem h)

/-- A select statement among the sources is smaller than the statement.  This is the measure of the
induction, and nothing else is said of sizes. -/
theorem sizeOf_lt_of_mem_sources {q p : Query} (mem : Source.subquery p ∈ q.sources) :
    sizeOf p < sizeOf q := by
  obtain ⟨kind, distinct, columns, from?, joins, criteria, groupBy, orderBy, limit?, offset?⟩ := q
  -- the statement is the source behind `FROM`, or the source of a join
  rw [sources, List.mem_append] at mem
  rcases mem with mem | mem
  · cases from? with
    | none => simp at mem
    | some f =>
        obtain ⟨source, alias?⟩ := f
        simp only [Option.map_some, Option.toList_some, List.mem_singleton] at mem
        subst mem
        simp
        omega
  · obtain ⟨join, hjoin, same⟩ := List.mem_map.mp mem
    have := List.sizeOf_lt_of_mem hjoin
    obtain ⟨joinKind, source, alias?, on⟩ := join
    simp only at same
    subst same
    simp at this ⊢
    omega

/-- **Induction over the levels of a select statement.**  There is no base case: a statement without
nested ones is a level whose hypothesis is empty. -/
theorem nesting_induction {motive : Query → Prop}
    (level : ∀ q : Query, (∀ p, Source.subquery p ∈ q.sources → motive p) → motive q)
    (q : Query) : motive q :=
  level q fun p _ => nesting_induction level p
termination_by sizeOf q
decreasing_by exact sizeOf_lt_of_mem_sources ‹_›

end Select

/-! ### All levels -/

/-- What is to be listed of a select statement: of a source that is no select statement, of a
statement before its sources, of a join behind its source, and of a statement behind its
joins. -/
structure Visit (α : Type) where
  leaf : Source → List α := fun _ => []
  head : Query → List α := fun _ => []
  join : Join Source → List α := fun _ => []
  tail : Query → List α := fun _ => []

variable {α : Type}

mutual

/-- What is listed of a source. -/
def Source.visit (v : Visit α) : Source → List α
  | .subquery q => Source.visitSelect v q
  | .table t => v.leaf (.table t)
  | .named schema? name => v.leaf (.named schema? name)
  | .recurring => v.leaf .recurring
  | .foreign owner lacking => v.leaf (.foreign owner lacking)

/-- What is listed of a select statement, its nested ones in between. -/
def Source.visitSelect (v : Visit α) : Query → List α
  | ⟨kind, distinct, columns, from?, joins, criteria, groupBy, orderBy, limit?, offset?⟩ =>
    let q : Query :=
      ⟨kind, distinct, columns, from?, joins, criteria, groupBy, orderBy, limit?, offset?⟩
    v.head q ++ Source.visitFrom v from? ++ Source.visitJoins v joins ++ v.tail q

/-- What is listed of the source behind `FROM`. -/
def Source.visitFrom (v : Visit α) : Option (From Source) → List α
  | none => []
  | some ⟨source, _⟩ => Source.visit v source

/-- What is listed of the joins, in order. -/
def Source.visitJoins (v : Visit α) : List (Join Source) → List α
  | [] => []
  | ⟨kind, source, alias?, criteria⟩ :: rest =>
    Source.visit v source ++ v.join ⟨kind, source, alias?, criteria⟩ ++
      Source.visitJoins v rest

end

/-- What is listed of a select statement on all of its levels. -/
def Select.visit (v : Visit α) (q : Query) : List α := Source.visitSelect v q

theorem Source.visit_subquery (v : Visit α) (q : Query) :
    (Source.subquery q).visit v = q.visit v := by
  rw [Source.visit, Select.visit]

/-- The joins of a statement are visited one after the other, each source before what the join
adds. -/
theorem Source.visitJoins_eq (v : Visit α) (joins : List (Join Source)) :
    Source.visitJoins v joins = joins.flatMap fun j => j.source.visit v ++ v.join j := by
  induction joins with
  | nil => rw [Source.visitJoins]; rfl
  | cons j joins ih =>
      obtain ⟨kind, source, alias?, criteria⟩ := j
      rw [Source.visitJoins, ih, List.flatMap_cons]

/-- One level of a visit. -/
theorem Select.visit_eq (v : Visit α) (q : Query) :
    q.visit v =
      v.head q ++ ((q.from?.map fun f => f.source.visit v).getD []) ++
        (q.joins.flatMap fun j => j.source.visit v ++ v.join j) ++ v.tail q := by
  obtain ⟨kind, distinct, columns, from?, joins, criteria, groupBy, orderBy, limit?, offset?⟩ := q
  rw [Select.visit, Source.visitSelect, Source.visitJoins_eq]
  cases from? with
  | none => rw [Source.visitFrom]; rfl
  | some f => rw [Source.visitFrom]; rfl

end BoundSql
