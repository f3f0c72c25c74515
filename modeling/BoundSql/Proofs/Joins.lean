import BoundSql.Proofs.Clause

/-!
# Joins and their criteria

A join is refused when it has no criterion at all, but a criterion may decline to be written, and
that comes to light only when the join is written.  So what stands behind the `ON` of a join is the
clause of its pruned tree, or, when every criterion declines, the word `None`.

The intended reading is that no join is written without criteria.  `Select.on_criterion_iff` says
exactly how far this holds: on every level of a statement, an `ON` is followed by one of the
criteria of its join if and only if some criterion of the join does not decline.

## Where the text of a join is

A statement about the joins of a statement has to find them in its text, on every level.  The text
of a level is split around the texts of its joins, in order (`Select.exists_joinTexts`), and the
text of a nested level stands in that of the level around it (`Select.exists_infix_of_mem_levels`).
Both are said of pieces and not of characters, so that a join is not mistaken for a name that looks
like one.

That a criterion stands behind an `ON` means that its own text is a part of what follows the `ON`.
The text of a condition is determined by its column, its values and the aliases in scope, so the
same criterion is found in any statement in which these agree.

* `Select.levels` : a select statement and the ones nested in it, at any depth.
* `Join.Text` : what is written of a join, with what stands behind its `ON`.
* `Select.exists_joinTexts` : one level, written around the texts of its joins.
* `Select.exists_infix_of_mem_levels` : the text of a nested statement stands in that of the
  statement around it.
* `Select.on_criterion_iff` : every `ON` of a rendered statement is followed by a criterion of its
  join exactly if some criterion of the join does not decline.
-/

namespace BoundSql

open Clause

/-! ### All levels -/

/-- Lists every level of a select statement. -/
def Visit.levels : Visit Query where
  head := fun q => [q]

/-- A select statement and the ones nested in it. -/
def Select.levels (q : Query) : List Query := q.visit Visit.levels

/-- The levels of a source are those of the select statement that it is. -/
theorem Source.mem_visit_levels {source : Source} {p : Query} :
    p ∈ source.visit Visit.levels ↔ ∃ s, source = .subquery s ∧ p ∈ s.levels := by
  cases source with
  | subquery s =>
      rw [Source.visit_subquery]
      constructor
      · exact fun mem => ⟨s, rfl, mem⟩
      · rintro ⟨s', same, mem⟩
        obtain rfl := Source.subquery.inj same
        exact mem
  | _ => simp [Source.visit, Visit.levels]

namespace Select

/-- A level of a statement is the statement itself, or a level of one of its sources. -/
theorem mem_levels_iff {q p : Query} :
    p ∈ q.levels ↔ p = q ∨ ∃ s, Source.subquery s ∈ q.sources ∧ p ∈ s.levels := by
  have source : p ∈ (q.from?.map fun f => f.source.visit Visit.levels).getD [] ↔
      ∃ f, q.from? = some f ∧ p ∈ f.source.visit Visit.levels := by
    cases q.from? <;> simp
  have head : p ∈ Visit.levels.head q ↔ p = q := List.mem_singleton
  rw [levels, visit_eq, List.mem_append, List.mem_append, List.mem_append, List.mem_flatMap,
    source, head]
  constructor
  · rintro (((rfl | ⟨f, hf, mem⟩) | ⟨j, hj, mem⟩) | mem)
    · exact .inl rfl
    · obtain ⟨s, hs, mem⟩ := Source.mem_visit_levels.mp mem
      exact .inr ⟨s, hs ▸ from_mem_sources hf, mem⟩
    · rcases List.mem_append.mp mem with mem | mem
      · obtain ⟨s, hs, mem⟩ := Source.mem_visit_levels.mp mem
        exact .inr ⟨s, hs ▸ join_mem_sources hj, mem⟩
      · cases mem
    · cases mem
  · rintro (rfl | ⟨s, mem, level⟩)
    · exact .inl (.inl (.inl rfl))
    · have level := Source.mem_visit_levels.mpr ⟨s, rfl, level⟩
      rcases List.mem_append.mp mem with mem | mem
      · obtain ⟨f, hf, same⟩ := Option.map_eq_some_iff.mp (Option.mem_toList.mp mem)
        exact .inl (.inl (.inr ⟨f, hf, same ▸ level⟩))
      · obtain ⟨j, hj, same⟩ := List.mem_map.mp mem
        exact .inl (.inr ⟨j, hj, List.mem_append_left _ (same ▸ level)⟩)

/-- What is listed of a nested statement is listed of the statement around it. -/
theorem visit_subset {α : Type} (v : Visit α) {q s : Query}
    (mem : Source.subquery s ∈ q.sources) : s.visit v ⊆ q.visit v := by
  intro x hx
  rw [← Source.visit_subquery] at hx
  rw [visit_eq]
  refine List.mem_append_left _ ?_
  rcases List.mem_append.mp mem with mem | mem
  · obtain ⟨f, hf, same⟩ := Option.map_eq_some_iff.mp (Option.mem_toList.mp mem)
    rw [hf, Option.map_some, Option.getD_some, same]
    exact List.mem_append_left _ (List.mem_append_right _ hx)
  · obtain ⟨j, hj, same⟩ := List.mem_map.mp mem
    refine List.mem_append_right _ (List.mem_flatMap.mpr ⟨j, hj, List.mem_append_left _ ?_⟩)
    rwa [same]

/-- What is listed on all levels is what is listed on some level, if sources that are no select
statements have nothing to list.  This is how a statement about a whole visit is turned into one
about a single level. -/
theorem mem_visit_iff {α : Type} {v : Visit α} (leafless : ∀ source, v.leaf source = []) (q : Query)
    {x : α} : x ∈ q.visit v ↔
      ∃ p ∈ q.levels, x ∈ v.head p ∨ (∃ j ∈ p.joins, x ∈ v.join j) ∨ x ∈ v.tail p := by
  induction q using nesting_induction with
  | level q nested =>
      -- only a subselect has levels of its own; what any other source adds is a leaf, and there is
      -- none
      have inner {s : Source} (hs : s ∈ q.sources) (mem : x ∈ s.visit v) : ∃ p ∈ q.levels,
          x ∈ v.head p ∨ (∃ j ∈ p.joins, x ∈ v.join j) ∨ x ∈ v.tail p := by
        cases s with
        | subquery r =>
            rw [Source.visit_subquery] at mem
            obtain ⟨p, level, here⟩ := (nested r hs).mp mem
            exact ⟨p, mem_levels_iff.mpr (.inr ⟨r, hs, level⟩), here⟩
        | _ =>
            rw [Source.visit, leafless] at mem
            cases mem
      rw [visit_eq, List.mem_append, List.mem_append, List.mem_append, List.mem_flatMap]
      constructor
      · have own := mem_levels_iff.mpr (.inl (Eq.refl q))
        rintro (((head | drawn) | ⟨j, hj, mem⟩) | tail)
        · exact ⟨q, own, .inl head⟩
        · cases hf : q.from? with
          | none => rw [hf] at drawn; cases drawn
          | some f =>
              rw [hf, Option.map_some, Option.getD_some] at drawn
              exact inner (from_mem_sources hf) drawn
        · rcases List.mem_append.mp mem with mem | mem
          · exact inner (join_mem_sources hj) mem
          · exact ⟨q, own, .inr (.inl ⟨j, hj, mem⟩)⟩
        · exact ⟨q, own, .inr (.inr tail)⟩
      · rintro ⟨p, level, here⟩
        rcases mem_levels_iff.mp level with rfl | ⟨r, mem, level⟩
        · rcases here with head | ⟨j, hj, join⟩ | tail
          · exact .inl (.inl (.inl head))
          · exact .inl (.inr ⟨j, hj, List.mem_append_right _ join⟩)
          · exact .inr tail
        · have inner := visit_subset v mem ((nested r mem).mpr ⟨p, level, here⟩)
          rwa [visit_eq, List.mem_append, List.mem_append, List.mem_append, List.mem_flatMap]
            at inner

end Select

/-! ### One join -/

/-- A criterion of the list that does not decline stands in the text. -/
def Criterion.StandsIn (scope : Scope) (criteria : List Criterion) (text : Fragment) : Prop :=
  ∃ d ∈ listDemands criteria, d.condition.renders = true ∧
    ∃ f, d.condition.fragment scope d.expression = .ok f ∧ f <:+: text

/-- What is written of the tokens of a clause has the text of every condition among them. -/
theorem Clause.infix_of_mem_conditions {scope : Scope} {ts : List Token} {text : Fragment}
    (h : written scope ts = .ok text) {d : Demand} (mem : d ∈ conditions ts) :
    ∃ f, d.condition.fragment scope d.expression = .ok f ∧ f <:+: text := by
  obtain ⟨token, htoken, same⟩ := List.mem_filterMap.mp mem
  obtain rfl : token = .demand d := by
    cases token with
    | demand e => rw [Option.some.inj same]
    | _ => cases same
  obtain ⟨texts, htexts, rfl⟩ := map_eq_ok_iff.mp h
  obtain ⟨f, hmem, hf⟩ := exists_result_of_mem htexts htoken
  exact ⟨f, hf, List.infix_of_mem_flatten hmem⟩

/-- The clause of a list of criteria has a criterion exactly if not all of them decline.  What is
written when the clause is missing may be anything: it is no criterion, because then none is
written. -/
theorem Criterion.standsIn_iff {scope : Scope} {criteria : List Criterion}
    {clause? : Option Fragment} (h : Criterion.clause? scope criteria = .ok clause?)
    (missing : Fragment) :
    StandsIn scope criteria (clause?.getD missing) ↔
      ∃ d ∈ listDemands criteria, d.condition.renders = true := by
  constructor
  · rintro ⟨d, mem, renders, -⟩
    exact ⟨d, mem, renders⟩
  · rintro ⟨d, mem, renders⟩
    rw [clause?_eq] at h
    cases left : pruned? criteria with
    | none =>
        have declines := pruned?_eq_none_iff.mp left d mem
        rw [renders] at declines
        cases declines
    | some clause =>
        rw [left, Option.mapM_some, map_eq_ok_iff] at h
        obtain ⟨text, htext, rfl⟩ := h
        have kept : d ∈ conditions clause.tokens := by
          rw [conditions_pruned? left]
          exact List.mem_filter.mpr ⟨mem, renders⟩
        exact ⟨d, mem, renders, infix_of_mem_conditions htext kept⟩

/-- Criteria that all decline have no clause. -/
theorem Criterion.clause?_eq_none {scope : Scope} {criteria : List Criterion}
    (declines : ∀ d ∈ listDemands criteria, d.condition.renders = false) :
    Criterion.clause? scope criteria = .ok none := by
  rw [clause?_eq, pruned?_eq_none_iff.mpr declines]
  rfl

/-- What is written of a join: its source, and behind `ON` the criteria that do not decline, or else
the word `None`.  The two last fields exclude each other and leave nothing out. -/
structure Join.Text (scope : Scope) (join : Join Source) (source on text : Fragment) : Prop where
  source_eq : join.source.fragment = .ok source
  text_eq : text = .sql (" " ++ join.kind.keyword ++ " ") :: source.withAlias " " join.alias? ++
    .sql " ON " :: on
  criterion_iff : Criterion.StandsIn scope join.criteria on ↔
    ∃ d ∈ Criterion.listDemands join.criteria, d.condition.renders = true
  none_of_declines : (∀ d ∈ Criterion.listDemands join.criteria, d.condition.renders = false) →
    on = [.sql "None"]

namespace Join

/-- A join that is written has its text. -/
theorem text_of_written {scope : Scope} {join : Join Source} {text : Fragment}
    (h : join.written scope = .ok text) : ∃ source on, join.Text scope source on text := by
  simp only [written, fragment, bind_eq_ok_iff, pure_eq_ok_iff] at h
  obtain ⟨source, hsource, clause?, hclause, rfl⟩ := h
  refine ⟨source, clause?.getD [.sql "None"], hsource, rfl, Criterion.standsIn_iff hclause _, ?_⟩
  intro declines
  rw [Criterion.clause?_eq_none declines] at hclause
  rw [← Except.ok.inj hclause, Option.getD_none]

/-- A join whose criteria all decline is written whenever its source is.  It is not refused, and no
error comes from its criteria. -/
theorem written_of_declines (scope : Scope) {join : Join Source}
    (declines : ∀ d ∈ Criterion.listDemands join.criteria, d.condition.renders = false) :
    join.written scope = (fun source : Fragment =>
      .sql (" " ++ join.kind.keyword ++ " ") :: source.withAlias " " join.alias? ++
        [.sql " ON ", .sql "None"]) <$> join.source.fragment := by
  simp only [written, fragment, Criterion.clause?_eq_none declines, map_eq_pure_bind]
  rfl

end Join

/-! ### One level -/

/-- A select statement that is a source stands in the text of the source. -/
theorem Source.exists_infix {s : Query} {f : Fragment}
    (h : (Source.subquery s).fragment = .ok f) (separator : String) (alias? : Option String) :
    ∃ g, s.fragment = .ok g ∧ g <:+: f.withAlias separator alias? := by
  rw [Source.fragment_subquery, map_eq_ok_iff] at h
  obtain ⟨g, hg, rfl⟩ := h
  have enclosed : g <:+: g.parenthesized := ⟨[.sql "("], [.sql ")"], rfl⟩
  refine ⟨g, hg, enclosed.trans ?_⟩
  unfold Fragment.withAlias
  split
  · exact (List.prefix_append _ _).isInfix
  · exact List.infix_rfl

namespace Select

/-- No join of a statement that passes its check is without criteria.  The check looks at the list
only, and not at what its members are. -/
theorem criteria_ne_nil_of_check {q : Query} (h : q.check Source.isSelect = .ok ())
    {join : Join Source} (mem : join ∈ q.joins) : join.criteria ≠ [] := by
  intro none
  have problem : q.joins.findSome? (joinProblem? Source.isSelect) ≠ Option.none := by
    intro sound
    have fine := List.findSome?_eq_none_iff.mp sound join mem
    rw [joinProblem?, none] at fine
    cases fine
  obtain ⟨found, hfound⟩ := Option.ne_none_iff_exists'.mp problem
  unfold check at h
  rw [hfound] at h
  cases columns : q.columns.isEmpty <;> cases source : q.from?.isNone <;>
    simp [columns, source, bind_eq_ok_iff] at h

variable {q : Query} {f : Fragment}

/-- **One level of a statement** is written around the texts of its joins, each of which has a
criterion. -/
theorem exists_joinTexts (h : q.fragment = .ok f) :
    ∃ head texts tail, f = head ++ List.flatten texts ++ tail ∧
      List.Forall₂ (fun join text => join.criteria ≠ [] ∧
        ∃ source on, join.Text (q.scope Source.table?) source on text) q.joins texts := by
  rw [fragment_eq] at h
  simp only [bind_eq_ok_iff, pure_eq_ok_iff] at h
  obtain ⟨⟨⟩, passes, source, -, texts, written, tail, -, rfl⟩ := h
  have each := (List.forall₂_and_left _ _).mpr ⟨fun _ mem => mem, mapM_eq_ok_iff.mp written⟩
  refine ⟨_, texts, tail, rfl, each.imp ?_⟩
  rintro join text ⟨mem, hjoin⟩
  exact ⟨criteria_ne_nil_of_check passes mem, Join.text_of_written hjoin⟩

/-- The text of a select statement among the sources stands in that of the statement. -/
theorem exists_infix_of_mem_sources (h : q.fragment = .ok f) {s : Query}
    (mem : Source.subquery s ∈ q.sources) : ∃ g, s.fragment = .ok g ∧ g <:+: f := by
  rw [fragment_eq] at h
  simp only [bind_eq_ok_iff, pure_eq_ok_iff] at h
  obtain ⟨-, -, source, hsource, texts, written, tail, -, rfl⟩ := h
  rcases List.mem_append.mp mem with mem | mem
  · obtain ⟨from', hfrom, same⟩ := Option.map_eq_some_iff.mp (Option.mem_toList.mp mem)
    rw [hfrom, Source.fromFragment_some, same, bind_eq_ok_iff] at hsource
    obtain ⟨text, htext, hsource⟩ := hsource
    obtain ⟨g, hg, inside⟩ := Source.exists_infix htext " " from'.alias?
    rw [pure_eq_ok_iff.mp hsource] at inside
    refine ⟨g, hg, inside.trans ?_⟩
    rw [List.append_assoc]
    exact ⟨q.headFragment _, texts.flatten ++ tail, rfl⟩
  · obtain ⟨join, hjoin, same⟩ := List.mem_map.mp mem
    obtain ⟨text, htext, hwritten⟩ := exists_result_of_mem written hjoin
    simp only [Join.written, Join.fragment, same, bind_eq_ok_iff, pure_eq_ok_iff] at hwritten
    obtain ⟨source', hsource', clause?, -, rfl⟩ := hwritten
    obtain ⟨g, hg, inside⟩ := Source.exists_infix hsource' " " join.alias?
    refine ⟨g, hg, inside.trans ?_⟩
    have inJoin := List.infix_of_mem_flatten htext
    refine List.IsInfix.trans ?_ (inJoin.trans ⟨_, tail, rfl⟩)
    exact ⟨[.sql (" " ++ join.kind.keyword ++ " ")], _, rfl⟩

/-- **The text of every level stands in that of the statement.**  The induction is over the levels
of the statement; a level of a source stands in the source, and the source in the statement. -/
theorem exists_infix_of_mem_levels (q : Query) {f : Fragment} (h : q.fragment = .ok f) {p : Query}
    (mem : p ∈ q.levels) : ∃ g, p.fragment = .ok g ∧ g <:+: f := by
  induction q using nesting_induction generalizing f with
  | level q nested =>
      rcases mem_levels_iff.mp mem with rfl | ⟨s, source, mem⟩
      · exact ⟨f, h, List.infix_rfl⟩
      · obtain ⟨g, hg, inside⟩ := exists_infix_of_mem_sources h source
        obtain ⟨g', hg', inside'⟩ := nested s source hg mem
        exact ⟨g', hg', inside'.trans inside⟩

/-! ### Main result -/

/-- **Joins and their criteria.**  On every level of a rendered statement each join has a text of
its own, in order.  No join is without criteria, and its `ON` is followed by one of them exactly
if not all of them decline; otherwise the word `None` follows.  For criteria that decline a join
is not refused: it is written whenever its source is. -/
theorem on_criterion_iff (q : Query) (dialect : Dialect) :
    (∀ r, q.render dialect = .ok r → ∃ f, q.fragment = .ok f ∧ r = f.render dialect ∧
      ∀ p ∈ q.levels, ∃ before head texts tail behind,
        f = before ++ (head ++ List.flatten texts ++ tail) ++ behind ∧
        p.fragment = .ok (head ++ List.flatten texts ++ tail) ∧
        List.Forall₂ (fun join text => join.criteria ≠ [] ∧
          ∃ source on, join.Text (p.scope Source.table?) source on text) p.joins texts) ∧
    ∀ p ∈ q.levels, ∀ join ∈ p.joins,
      (∀ d ∈ Criterion.listDemands join.criteria, d.condition.renders = false) →
      join.written (p.scope Source.table?) = (fun source : Fragment =>
        .sql (" " ++ join.kind.keyword ++ " ") :: source.withAlias " " join.alias? ++
          [.sql " ON ", .sql "None"]) <$> join.source.fragment := by
  refine ⟨fun r h => ?_, fun p _ join _ declines => Join.written_of_declines _ declines⟩
  rw [render, bind_eq_ok_iff] at h
  obtain ⟨f, hf, same⟩ := h
  refine ⟨f, hf, (pure_eq_ok_iff.mp same).symm, fun p mem => ?_⟩
  obtain ⟨g, hg, before, behind, inside⟩ := exists_infix_of_mem_levels q hf mem
  obtain ⟨head, texts, tail, rfl, joins⟩ := exists_joinTexts hg
  exact ⟨before, head, texts, tail, behind, inside.symm, hg, joins⟩

/-- A statement whose only criterion declines. -/
def declining : Query :=
  let users : Table := ⟨0, "users", none⟩
  let orders : Table := ⟨1, "orders", none⟩
  { kind := .select
    distinct := false
    columns := [.column (.plain "user" orders none)]
    from? := some ⟨.table orders, none⟩
    joins := [⟨.inner, .table users, none,
      [.mk .and (.column (.plain "id" users none)) (.compare .equal .null true) []]⟩] }

/-- A statement that is joined on a criterion, with the other one nested in it. -/
def aroundDeclining : Query :=
  let users : Table := ⟨0, "users", none⟩
  let id : Expression := .column (.plain "id" users none)
  { kind := .select
    distinct := false
    columns := [id]
    from? := some ⟨.table users, none⟩
    joins := [⟨.left, .subquery declining, some "o", [.mk .and id (.null true) []]⟩] }

/-- What the sample is rendered to. -/
def aroundDecliningText : Rendered :=
  ⟨"SELECT id FROM users " ++
    "LEFT JOIN (SELECT user FROM orders JOIN users ON None) o ON id IS NOT NULL", []⟩

/-- The outer join of the sample has a criterion behind its `ON`, and the nested one has none. -/
theorem on_criterion_iff_sample :
    aroundDeclining.render .generic = .ok aroundDecliningText ∧
    (∃ join ∈ aroundDeclining.joins, ∃ source on text, join.Text [] source on text ∧
      Criterion.StandsIn [] join.criteria on) ∧
    ∃ join ∈ declining.joins, ∃ source on text, join.criteria ≠ [] ∧
      join.Text [] source on text ∧ on = [.sql "None"] ∧
      ¬ Criterion.StandsIn [] join.criteria on := by
  have rendered : aroundDeclining.render .generic = .ok aroundDecliningText := rfl
  obtain ⟨f, -, -, levels⟩ := (on_criterion_iff aroundDeclining .generic).1 _ rendered
  refine ⟨rendered, ?_, ?_⟩
  · obtain ⟨-, -, texts, -, -, -, -, joins⟩ :=
      levels aroundDeclining (mem_levels_iff.mpr (.inl rfl))
    obtain _ | ⟨⟨-, source, on, join⟩, -⟩ := joins
    exact ⟨_, List.mem_cons_self, source, on, _, join,
      join.criterion_iff.mpr ⟨_, List.mem_cons_self, rfl⟩⟩
  · have nested : declining ∈ aroundDeclining.levels :=
      mem_levels_iff.mpr (.inr ⟨declining, List.mem_append_right _ List.mem_cons_self,
        mem_levels_iff.mpr (.inl rfl)⟩)
    obtain ⟨-, -, texts, -, -, -, -, joins⟩ := levels declining nested
    obtain _ | ⟨⟨given, source, on, join⟩, -⟩ := joins
    refine ⟨_, List.mem_cons_self, source, on, _, given, join, ?_, ?_⟩
    · refine join.none_of_declines fun d mem => ?_
      rw [List.mem_singleton.mp mem]
      rfl
    · intro stands
      obtain ⟨d, mem, renders⟩ := join.criterion_iff.mp stands
      rw [List.mem_singleton.mp mem] at renders
      cases renders

end Select

end BoundSql
