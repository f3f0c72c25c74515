import BoundSql.Proofs.Thinning.Clauses
import BoundSql.Select.Call

/-!
# Thinned select statements

A select statement is thinned by thinning its criteria and those of its joins, where every join that
has criteria keeps at least one.  Its text stays the same, also when the statements among its
sources are replaced by others that are written alike.

The second half of this is what makes the result usable for drafts.  Drafts refer to each other, and
a draft is turned into a statement by replacing its references; in two workbenches the references
stand for different statements.  `Source.Alike` says what has to be the same of them: the text,
whether they are select statements, which is checked, and which table they are, because tables are
registered under their aliases.

A join without criteria is refused, and a join whose criteria all decline is not.  So leaving out
the last criterion of a join would make a difference, and the field `given` of `Join.Thins` excludes
it.

* `Join.Thins`, `Select.Thins` : the joins and the statements that one is thinned to.
* `Source.Alike` : sources that are written alike.
* `Select.Thins.fragment_mapSources` : the text of a thinned statement.
* `Select.Thins.call?` : calls lead from a statement and a thinned one to such a pair again.
-/

namespace BoundSql

variable {σ : Type}

/-- The other join is the first one thinned.  Not all of its criteria are left out. -/
structure Join.Thins (j j' : Join σ) : Prop where
  kind : j'.kind = j.kind
  source : j'.source = j.source
  alias? : j'.alias? = j.alias?
  criteria : Criterion.Thins j.criteria j'.criteria
  given : j'.criteria.isEmpty = j.criteria.isEmpty

theorem Join.Thins.refl (j : Join σ) : j.Thins j := ⟨rfl, rfl, rfl, .refl _, rfl⟩

/-- The other statement is the first one thinned. -/
structure Select.Thins (q q' : Select σ) : Prop where
  others : q' = { q with joins := q'.joins, criteria := q'.criteria }
  joins : List.Forall₂ Join.Thins q.joins q'.joins
  criteria : Criterion.Thins q.criteria q'.criteria

theorem Select.Thins.refl (q : Select σ) : q.Thins q :=
  ⟨rfl, List.forall₂_same.mpr fun j _ => .refl j, .refl _⟩

/-! ### The text -/

/-- The other source is written as the first is, and as much of a table. -/
structure Source.Alike (s s' : Source) : Prop where
  fragment : s'.fragment = s.fragment
  isSelect : s'.isSelect = s.isSelect
  table? : s'.table? = s.table?

theorem Source.Alike.refl (s : Source) : s.Alike s := ⟨rfl, rfl, rfl⟩

/-- Select statements that have the same text are alike as sources. -/
theorem Source.Alike.subquery {p p' : Query} (h : p'.fragment = p.fragment) :
    (Source.subquery p).Alike (.subquery p') := by
  refine ⟨?_, rfl, rfl⟩
  rw [Source.fragment_subquery, Source.fragment_subquery, h]

/-- What is computed alike of related members is computed alike of the lists. -/
theorem map_eq_of_forall₂ {α β γ : Type} {R : α → β → Prop} {f : α → γ} {g : β → γ} {xs : List α}
    {ys : List β} (h : List.Forall₂ R xs ys) (same : ∀ x y, R x y → g y = f x) :
    ys.map g = xs.map f := by
  induction h with
  | nil => rfl
  | cons related _ ih => rw [List.map_cons, List.map_cons, same _ _ related, ih]

/-- Related lists stay related when related members are changed at the same place. -/
theorem forall₂_modify {α β : Type} {R : α → β → Prop} {f : α → α} {g : β → β} {xs : List α}
    {ys : List β} (h : List.Forall₂ R xs ys) (position : Nat)
    (changed : ∀ x y, R x y → R (f x) (g y)) :
    List.Forall₂ R (xs.modify position f) (ys.modify position g) := by
  induction h generalizing position with
  | nil => rw [List.modify_nil, List.modify_nil]; exact .nil
  | cons first rest ih =>
      cases position with
      | zero =>
          rw [List.modify_zero_cons, List.modify_zero_cons]
          exact .cons (changed _ _ first) rest
      | succ position =>
          rw [List.modify_succ_cons, List.modify_succ_cons]
          exact .cons first (ih position)

namespace Select.Thins

variable {q q' : Select σ} {f f' : σ → Source}

/-- A thinned join has the same problem, if any. -/
theorem joinProblem?_eq {j j' : Join σ} (h : j.Thins j') (alike : ∀ s, (f s).Alike (f' s)) :
    joinProblem? Source.isSelect ⟨j'.kind, f' j'.source, j'.alias?, j'.criteria⟩ =
      joinProblem? Source.isSelect ⟨j.kind, f j.source, j.alias?, j.criteria⟩ := by
  rw [joinProblem?, joinProblem?, h.given, h.source, h.alias?, (alike j.source).isSelect]

/-- A thinned join is written as before. -/
theorem written_eq {j j' : Join σ} (h : j.Thins j') (alike : ∀ s, (f s).Alike (f' s))
    (scope : Scope) :
    Join.written scope ⟨j'.kind, f' j'.source, j'.alias?, j'.criteria⟩ =
      Join.written scope ⟨j.kind, f j.source, j.alias?, j.criteria⟩ := by
  simp only [Join.written, Join.fragment, h.kind, h.source, h.alias?, (alike j.source).fragment,
    h.criteria.clause?_eq]

/-- The aliases that a statement makes known do not depend on its criteria. -/
theorem scope_eq (h : q.Thins q') (alike : ∀ s, (f s).Alike (f' s)) :
    (q'.mapSources f').scope Source.table? = (q.mapSources f).scope Source.table? := by
  have tables : (fun s => (f' s).table?) = fun s => (f s).table? :=
    funext fun s => (alike s).table?
  have named : (q'.joins.map fun j => (j.source, j.alias?)) =
      q.joins.map fun j => (j.source, j.alias?) :=
    map_eq_of_forall₂ h.joins fun j j' join => by rw [join.source, join.alias?]
  -- the sources are looked at through the tables that they are
  have through (g : σ → Source) (p : Select σ) : (p.mapSources g).scope Source.table? =
      p.scope fun s => (g s).table? := by
    obtain ⟨_, _, _, from?, _, _, _, _, _, _⟩ := p
    cases from? <;> simp [Select.scope, mapSources, List.foldl_map]
  rw [through, through, tables, Select.scope, Select.scope, named, h.others]

/-- A thinned statement is checked as before: the checks are about its columns, its sources and its
joins, and none is about criteria other than whether a join has any. -/
theorem check_eq (h : q.Thins q') (alike : ∀ s, (f s).Alike (f' s)) :
    (q'.mapSources f').check Source.isSelect = (q.mapSources f).check Source.isSelect := by
  have problems : (q'.mapSources f').joins.findSome? (joinProblem? Source.isSelect) =
      (q.mapSources f).joins.findSome? (joinProblem? Source.isSelect) := by
    have each := map_eq_of_forall₂ h.joins fun j j' join => joinProblem?_eq join alike
    rw [mapSources, mapSources, List.findSome?_map, List.findSome?_map]
    exact (List.findSome?_map (p := id)).symm.trans
      ((congrArg (List.findSome? id) each).trans List.findSome?_map)
  have drawn : (q'.mapSources f').from?.isNone = (q.mapSources f).from?.isNone := by
    rw [mapSources, mapSources, Option.isNone_map, Option.isNone_map, h.others]
  rw [check, check, problems, drawn, h.others]
  rfl

/-- **A thinned statement is written as before**, and refused with the same error. -/
theorem fragment_mapSources (h : q.Thins q') (alike : ∀ s, (f s).Alike (f' s)) :
    (q'.mapSources f').fragment = (q.mapSources f).fragment := by
  have drawn : Source.fromFragment (q'.mapSources f').from? =
      Source.fromFragment (q.mapSources f).from? := by
    rw [mapSources, mapSources, h.others]
    cases q.from? with
    | none => rfl
    | some s =>
        rw [Option.map_some, Option.map_some, Source.fromFragment_some, Source.fromFragment_some,
          (alike s.source).fragment]
  have joined (scope : Scope) : (q'.mapSources f').joins.mapM (Join.written scope) =
      (q.mapSources f).joins.mapM (Join.written scope) := by
    have each := map_eq_of_forall₂ h.joins fun j j' join => written_eq join alike scope
    rw [mapSources, mapSources, List.mapM_map, List.mapM_map]
    exact (List.mapM_map (g := id)).symm.trans ((congrArg (List.mapM id) each).trans List.mapM_map)
  have tail (scope : Scope) : (q'.mapSources f').tailFragment scope =
      (q.mapSources f).tailFragment scope := by
    rw [tailFragment, tailFragment]
    have restriction : Criterion.whereFragment scope (q'.mapSources f').criteria =
        Criterion.whereFragment scope (q.mapSources f).criteria :=
      h.criteria.whereFragment_eq scope
    rw [restriction, h.others]
    rfl
  have head (scope : Scope) : (q'.mapSources f').headFragment scope =
      (q.mapSources f).headFragment scope := by
    rw [h.others]
    rfl
  rw [fragment_eq, fragment_eq, h.check_eq alike, h.scope_eq alike, drawn, joined, tail, head]

end Select.Thins

/-! ### Calls -/

namespace Select

/-- The other call is the same, or its criterion is made plain and has its group thinned. -/
inductive Call.Plain : Call σ → Call σ → Prop
  | restrict {column : Expression} {condition condition' : Condition}
      {group group' : List Criterion} : condition.Plain condition' → Criterion.Thins group group' →
      Plain (.restrict column condition group) (.restrict column condition' group')
  | and {column : Expression} {condition condition' : Condition} {group group' : List Criterion} :
      condition.Plain condition' → Criterion.Thins group group' →
      Plain (.and column condition group) (.and column condition' group')
  | or {column : Expression} {condition condition' : Condition} {group group' : List Criterion} :
      condition.Plain condition' → Criterion.Thins group group' →
      Plain (.or column condition group) (.or column condition' group')
  | on {column : Expression} {condition condition' : Condition} : condition.Plain condition' →
      Plain (.on column condition) (.on column condition')
  | from (source : σ) (alias? : Option String) : Plain (.from source alias?) (.from source alias?)
  | join (kind : JoinKind) (source : σ) (alias? : Option String) :
      Plain (.join kind source alias?) (.join kind source alias?)
  | groupBy (columns : List Expression) : Plain (.groupBy columns) (.groupBy columns)
  | orderBy (columns : List Expression) : Plain (.orderBy columns) (.orderBy columns)
  | limit (count? : Option Value) : Plain (.limit count?) (.limit count?)
  | offset (count? : Option Value) : Plain (.offset count?) (.offset count?)

/-- A call may be left as it is. -/
theorem Call.Plain.refl (c : Call σ) : c.Plain c := by
  cases c with
  | restrict column condition group => exact .restrict (.same condition) (.refl group)
  | and column condition group => exact .and (.same condition) (.refl group)
  | or column condition group => exact .or (.same condition) (.refl group)
  | on column condition => exact .on (.same condition)
  | «from» source alias? => exact .from source alias?
  | join kind source alias? => exact .join kind source alias?
  | groupBy columns => exact .groupBy columns
  | orderBy columns => exact .orderBy columns
  | limit count? => exact .limit count?
  | offset count? => exact .offset count?

/-- The call adds a criterion to the statement of which nothing is written.  On a join it is another
matter, so the calls that could concern one are those made on the statement itself. -/
inductive Call.Declines (join? : Option Nat) : Call σ → Prop
  | restrict {column : Expression} {condition : Condition} {group : List Criterion} :
      condition.renders = false → Criterion.Thins group [] →
      Declines join? (.restrict column condition group)
  | and {column : Expression} {condition : Condition} {group : List Criterion} : join? = none →
      condition.renders = false → Criterion.Thins group [] →
      Declines join? (.and column condition group)
  | or {column : Expression} {condition : Condition} {group : List Criterion} :
      condition.renders = false → Criterion.Thins group [] →
      Declines join? (.or column condition group)

namespace Thins

variable {q q' : Select σ}

/-- What a thinned statement is, in terms of its joins and its criteria. -/
theorem exists_eq (h : q.Thins q') : ∃ joins criteria,
    q' = { q with joins, criteria } ∧ List.Forall₂ Join.Thins q.joins joins ∧
      Criterion.Thins q.criteria criteria :=
  ⟨q'.joins, q'.criteria, h.others, h.joins, h.criteria⟩

/-- A criterion may be added to both statements, made plain in the second. -/
theorem addCriterion (h : q.Thins q') (connector : Connector) (column : Expression)
    {condition condition' : Condition} (plain : condition.Plain condition')
    {group group' : List Criterion} (members : Criterion.Thins group group') :
    (q.addCriterion (.mk connector column condition group)).Thins
      (q'.addCriterion (.mk connector column condition' group')) := by
  obtain ⟨joins, criteria, rfl, joins_thin, criteria_thin⟩ := h.exists_eq
  exact ⟨rfl, joins_thin, criteria_thin.concat connector column plain members⟩

/-- A criterion that declines may be added to the first statement alone. -/
theorem addCriterion_declining (h : q.Thins q') (connector : Connector) (column : Expression)
    {condition : Condition} (declines : condition.renders = false) {group : List Criterion}
    (members : Criterion.Thins group []) :
    (q.addCriterion (.mk connector column condition group)).Thins q' := by
  obtain ⟨joins, criteria, rfl, joins_thin, criteria_thin⟩ := h.exists_eq
  exact ⟨rfl, joins_thin, criteria_thin.concat_declining connector column declines members⟩

/-- A join that gets a further criterion has one. -/
theorem addJoinCriterion (h : q.Thins q') (position : Nat) (connector : Connector)
    (column : Expression) {condition condition' : Condition} (plain : condition.Plain condition')
    {group group' : List Criterion} (members : Criterion.Thins group group') :
    (q.addJoinCriterion position (.mk connector column condition group)).Thins
      (q'.addJoinCriterion position (.mk connector column condition' group')) := by
  obtain ⟨joins, criteria, rfl, joins_thin, criteria_thin⟩ := h.exists_eq
  refine ⟨rfl, forall₂_modify joins_thin position fun j j' join => ?_, criteria_thin⟩
  refine ⟨join.kind, join.source, join.alias?, ?_, ?_⟩
  · exact join.criteria.concat connector column plain members
  · have given (cs : List Criterion) (c : Criterion) : (cs ++ [c]).isEmpty = false :=
      List.isEmpty_eq_false_iff.mpr (List.append_ne_nil_of_right_ne_nil cs (List.cons_ne_nil c []))
    exact (given _ _).trans (given _ _).symm

/-- **A step of a chain**: a plain call leads from a statement and a thinned one to such a pair
again, and to the same place. -/
theorem call? (h : q.Thins q') {c c' : Call σ} (plain : c.Plain c') {join? : Option Nat}
    {chain : Chain σ} (called : Chain.call? ⟨q, join?⟩ c = some chain) :
    ∃ chain', Chain.call? ⟨q', join?⟩ c' = some chain' ∧ chain'.join? = chain.join? ∧
      chain.query.Thins chain'.query := by
  cases plain with
  | restrict condition members =>
      obtain rfl := Option.some.inj called
      exact ⟨_, rfl, rfl, h.addCriterion _ _ condition members⟩
  | and condition members =>
      cases join? with
      | none =>
          obtain rfl := Option.some.inj called
          exact ⟨_, rfl, rfl, h.addCriterion _ _ condition members⟩
      | some position =>
          obtain rfl := Option.some.inj called
          exact ⟨_, rfl, rfl, h.addJoinCriterion _ _ _ condition members⟩
  | or condition members =>
      cases join? with
      | none =>
          obtain rfl := Option.some.inj called
          exact ⟨_, rfl, rfl, h.addCriterion _ _ condition members⟩
      | some position => cases called
  | on condition =>
      cases join? with
      | none => cases called
      | some position =>
          obtain rfl := Option.some.inj called
          exact ⟨_, rfl, rfl, h.addJoinCriterion _ _ _ condition .nil⟩
  | «from» source alias? =>
      obtain ⟨joins, criteria, rfl, joins_thin, criteria_thin⟩ := h.exists_eq
      cases join? with
      | none =>
          obtain rfl := Option.some.inj called
          exact ⟨_, rfl, rfl, rfl, joins_thin, criteria_thin⟩
      | some position => cases called
  | join kind source alias? =>
      obtain ⟨joins, criteria, rfl, joins_thin, criteria_thin⟩ := h.exists_eq
      obtain rfl := Option.some.inj called
      -- thinning drops no join, so the new one has the same position in both
      have place : some joins.length = some q.joins.length := by rw [joins_thin.length_eq]
      exact ⟨_, rfl, place, rfl, List.rel_append joins_thin (.cons (.refl _) .nil), criteria_thin⟩
  | groupBy | orderBy | limit | offset =>
      obtain ⟨joins, criteria, rfl, joins_thin, criteria_thin⟩ := h.exists_eq
      obtain rfl := Option.some.inj called
      exact ⟨_, rfl, rfl, rfl, joins_thin, criteria_thin⟩

/-- A call that declines leaves the statement a thinned one.  It leaves the joins alone, as it is a
restriction of the statement. -/
theorem call?_declines (h : q.Thins q') {c : Call σ} {join? : Option Nat}
    (declines : c.Declines join?) {chain : Chain σ}
    (called : Chain.call? ⟨q, join?⟩ c = some chain) : chain.query.Thins q' := by
  cases declines with
  | restrict declines members =>
      obtain rfl := Option.some.inj called
      exact h.addCriterion_declining _ _ declines members
  | and atStatement declines members =>
      subst atStatement
      obtain rfl := Option.some.inj called
      exact h.addCriterion_declining _ _ declines members
  | or declines members =>
      cases join? with
      | none =>
          obtain rfl := Option.some.inj called
          exact h.addCriterion_declining _ _ declines members
      | some position => cases called

end Thins

end Select

end BoundSql
