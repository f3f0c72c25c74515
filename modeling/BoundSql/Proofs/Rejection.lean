import BoundSql.Proofs.Joins
import BoundSql.Proofs.Rejection.Reports

/-!
# Malformed select statements

The checks of a select statement are spread out: a level checks itself before it is written, its
nested statements check themselves when their turn comes, and what cannot be sorted by is noticed
last.  Here the faults of a statement are listed without being looked for in the course of writing,
and it is shown that writing the statement reports the first of the list, and nothing else.

## Faults and errors

A fault is an error that some part of a statement gives rise to, whether it is ever raised or not
(`Select.faults`).  The list is put together level by level: the faults of the level itself, those
of its sources in order, those of its sort order.  So there are two things to show about writing: if
there are faults, the first of them is raised; and if there are none, the statement is written.
`Reports` says both at once, and it composes in the way in which the list does.

That a level is malformed is said in plain terms (`Select.Malformed`), one for each thing that is
asked of it.  This is not the same as having a fault.  A limit that is no number is a fault, but not
one that is reported as a build error.  Where all limits are numbers the two coincide.

## What is assumed

A source that is neither a table nor a select statement cannot be written at all, and a converter
may raise an error of its own.  Both are no matter of the statement's form and are excluded.

* `Select.faults` : the faults of a statement on all of its levels, in the order in which they
  count.
* `Select.Malformed` : the ways in which one level can be malformed.
* `Select.reports_fragment` : the text of a statement reports the faults of the statement.
* `Select.first_fault` : exactly the malformed statements are refused, for the first fault.
-/

namespace BoundSql

/-! ### The faults of a statement -/

/-- What is wrong with a join: it has no criterion, or it joins a select statement that has no
name. -/
def Join.problems (join : Join Source) : List BuildProblem :=
  (if join.criteria.isEmpty then [.joinWithoutCriterion] else []) ++
    if join.source.isSelect && (nonempty? join.alias?).isNone then [.joinedSubqueryWithoutAlias]
    else []

/-- What is wrong with a value that limits the rows: it is no number, or a negative one. -/
def boundFaults (negative : BuildProblem) (kind : StatementKind) : Option Value → List Error
  | none => []
  | some v =>
    match v.number? with
    | none => [.notComparable v.typeName]
    | some n => if n < 0 then [.build ⟨negative, kind⟩] else []

/-- What is wrong with an item of the sort order: there is no name to sort by. -/
def Expression.orderFaults (e : Expression) : List Error :=
  if e.orderName?.isNone then [.build ⟨.notOrderable, .select⟩] else []

namespace Select

/-- What is wrong with the parts that a statement must have, in the order of the text. -/
def problems (q : Query) : List BuildProblem :=
  (if q.columns.isEmpty then [.emptySelectList] else []) ++
    (if q.from?.isNone then [.missingFrom] else []) ++ q.joins.flatMap Join.problems

/-- The faults that a statement has itself, whatever its sources. -/
def ownFaults (q : Query) : List Error :=
  q.problems.map (fun p => .build ⟨p, q.kind⟩) ++
    boundFaults .negativeLimit q.kind q.limit? ++ boundFaults .negativeOffset q.kind q.offset?

/-- The faults of the sort order. -/
def orderFaults (q : Query) : List Error := q.orderBy.flatMap Expression.orderFaults

end Select

/-- Lists the faults of every level: those of the level itself before its sources, those of its
sort order behind them. -/
def Visit.faults : Visit Error where
  head := Select.ownFaults
  tail := Select.orderFaults

/-- The faults of a statement, in the order in which they count. -/
def Select.faults (q : Query) : List Error := q.visit Visit.faults

/-- The faults of a source. -/
def Source.faults (source : Source) : List Error := source.visit Visit.faults

namespace Select

/-- **The order in which faults count**: those of the statement itself, then those of the statement
it draws from and of the ones it joins, then those of its sort order.  A nested statement comes with
all of its faults before the next source. -/
theorem faults_eq (q : Query) :
    q.faults = q.ownFaults ++ q.sources.flatMap Source.faults ++ q.orderFaults := by
  have joined : (q.joins.flatMap fun j => j.source.visit Visit.faults ++ Visit.faults.join j) =
      (q.joins.map Join.source).flatMap Source.faults := by
    rw [List.flatMap_map]
    refine List.flatMap_congr fun j _ => ?_
    exact List.append_nil _
  have drawn : ((q.from?.map fun f => f.source.visit Visit.faults).getD []) =
      (q.from?.map From.source).toList.flatMap Source.faults := by
    cases q.from? with
    | none => rfl
    | some f => exact (List.append_nil _).symm
  rw [faults, visit_eq, joined, drawn, sources, List.flatMap_append, ← List.append_assoc]
  rfl

/-- Only a select statement among the sources has faults. -/
theorem mem_source_faults_iff {source : Source} {e : Error} :
    e ∈ source.faults ↔ ∃ s, source = .subquery s ∧ e ∈ s.faults := by
  cases source with
  | subquery s =>
      rw [Source.faults, Source.visit_subquery]
      constructor
      · exact fun mem => ⟨s, rfl, mem⟩
      · rintro ⟨s', same, mem⟩
        obtain rfl := Source.subquery.inj same
        exact mem
  | _ => simp [Source.faults, Source.visit, Visit.faults]

/-- A fault of a statement is one that some level of it has itself. -/
theorem mem_faults_iff (q : Query) {e : Error} :
    e ∈ q.faults ↔ ∃ p ∈ q.levels, e ∈ p.ownFaults ∨ e ∈ p.orderFaults := by
  induction q using nesting_induction with
  | level q nested =>
      rw [faults_eq, List.mem_append, List.mem_append, List.mem_flatMap]
      constructor
      · rintro ((own | ⟨source, hsource, mem⟩) | order)
        · exact ⟨q, mem_levels_iff.mpr (.inl rfl), .inl own⟩
        · obtain ⟨s, rfl, mem⟩ := mem_source_faults_iff.mp mem
          obtain ⟨p, level, fault⟩ := (nested s hsource).mp mem
          exact ⟨p, mem_levels_iff.mpr (.inr ⟨s, hsource, level⟩), fault⟩
        · exact ⟨q, mem_levels_iff.mpr (.inl rfl), .inr order⟩
      · rintro ⟨p, level, fault⟩
        rcases mem_levels_iff.mp level with rfl | ⟨s, hsource, level⟩
        · rcases fault with own | order
          · exact .inl (.inl own)
          · exact .inr order
        · have mem := (nested s hsource).mpr ⟨p, level, fault⟩
          exact .inl (.inr ⟨_, hsource, mem_source_faults_iff.mpr ⟨s, rfl, mem⟩⟩)

/-! ### One level -/

/-- A limit or an offset is checked on its own. -/
theorem reports_checkBound (negative : BuildProblem) (kind : StatementKind)
    (bound? : Option Value) :
    Reports (boundFaults negative kind bound?) (checkBound negative kind bound?) := by
  cases bound? with
  | none => exact .ok ()
  | some v =>
      unfold boundFaults checkBound
      cases hv : v.number? with
      | none => simp only [hv]; rfl
      | some n =>
          simp only [hv]
          split
          · rfl
          · exact .ok ()

/-- Of a join the first problem is reported. -/
theorem joinProblem?_eq (join : Join Source) :
    joinProblem? Source.isSelect join = join.problems.head? := by
  unfold joinProblem? Join.problems
  split
  · rfl
  · split <;> rfl

/-- The check looks for a problem of the parts, and only then at the numbers. -/
theorem check_eq (q : Query) :
    q.check Source.isSelect = (do
      (match q.problems.head? with
        | some problem => fail problem q.kind
        | none => pure ())
      checkBound .negativeLimit q.kind q.limit?
      checkBound .negativeOffset q.kind q.offset?) := by
  have joins : q.joins.findSome? (joinProblem? Source.isSelect) =
      (q.joins.flatMap Join.problems).head? := by
    rw [List.head?_flatMap, funext joinProblem?_eq]
  unfold check problems
  rw [joins]
  cases q.columns.isEmpty with
  | true => rfl
  | false =>
      cases q.from?.isNone with
      | true => rfl
      | false => cases q.joins.flatMap Join.problems <;> rfl

/-- So the check of a level reports the faults that the level has itself. -/
theorem reports_check (q : Query) : Reports q.ownFaults (q.check Source.isSelect) := by
  rw [check_eq, ownFaults, List.append_assoc]
  refine Reports.bind ?_ fun _ => (reports_checkBound _ _ _).bind fun _ => reports_checkBound _ _ _
  cases q.problems with
  | nil => exact .ok ()
  | cons problem problems => rfl

/-- The sort order is written up to the first item without a name. -/
theorem reports_orderBy (q : Query) :
    Reports q.orderFaults (q.orderBy.mapM Expression.orderFragment) := by
  refine Reports.mapM fun e _ => ?_
  unfold Expression.orderFaults Expression.orderFragment
  cases e.orderName? with
  | none => rfl
  | some name => exact .ok _

/-- Behind the joins only the sort order can be at fault, if the values in the restriction are
converted. -/
theorem reports_tailFragment (scope : Scope) {q : Query}
    (converts : ∀ site ∈ Visit.sites.tail q, site.Converts) :
    Reports q.orderFaults (q.tailFragment scope) := by
  have restriction : Reports [] (Criterion.whereFragment scope q.criteria) :=
    Criterion.reports_whereFragment fun site mem =>
      converts site (List.mem_append_left _ (List.mem_append_left _ mem))
  exact restriction.bind fun _ => q.reports_orderBy.bind_nil fun _ => .ok _

/-! ### All levels -/

/-- The sources of a statement, on all of its levels, are tables and select statements. -/
def IsNested (q : Query) : Prop :=
  ∀ p ∈ q.levels, ∀ source ∈ p.sources, (∃ t, source = .table t) ∨ ∃ s, source = .subquery s

/-- What `Select.reports_fragment` says of one statement.  It is named because the induction over
the nesting assumes it of the statements among the sources. -/
def IsReported (q : Query) : Prop :=
  q.IsNested → (∀ site ∈ q.sites, site.Converts) → Reports q.faults q.fragment

end Select

/-- A source reports its faults, if a select statement that it is has this property. -/
theorem Source.reports_fragment {source : Source}
    (kind : (∃ t, source = .table t) ∨ ∃ s, source = .subquery s)
    (nested : ∀ s, source = .subquery s → Reports s.faults s.fragment) :
    Reports source.faults source.fragment := by
  rcases kind with ⟨t, rfl⟩ | ⟨s, rfl⟩
  · rw [Source.fragment, Source.faults, Source.visit]
    exact .ok t.fragment
  · rw [Source.fragment_subquery, Source.faults, Source.visit_subquery]
    exact (nested s rfl).map _

namespace Select

/-- **One level of a select statement** reports its faults if the statements among its sources do.
The text is written from left to right, and the faults are listed in the same order. -/
theorem reports_level {q : Query}
    (nested : ∀ s : Query, Source.subquery s ∈ q.sources → s.IsReported) : q.IsReported := by
  intro sources converts
  -- the sources of this level fail as their own levels do; everything else of it is about the level
  -- alone
  have reported : ∀ source ∈ q.sources, Reports source.faults source.fragment := by
    intro source mem
    refine Source.reports_fragment (sources q (mem_levels_iff.mpr (.inl rfl)) source mem) ?_
    rintro s rfl
    refine nested s mem (fun p level => ?_) fun site hsite => ?_
    · exact sources p (mem_levels_iff.mpr (.inr ⟨s, mem, level⟩))
    · exact converts site (visit_subset _ mem hsite)
  rw [Select.sites, visit_eq] at converts
  have drawn : Reports ((q.from?.map From.source).toList.flatMap Source.faults)
      (Source.fromFragment q.from?) := by
    cases hf : q.from? with
    | none => rw [Source.fromFragment]; exact .ok _
    | some f =>
        rw [Source.fromFragment_some, Option.map_some, Option.toList_some, List.flatMap_singleton]
        exact (reported _ (from_mem_sources hf)).bind_nil fun _ => .ok _
  have joined : Reports ((q.joins.map Join.source).flatMap Source.faults)
      (q.joins.mapM (Join.written (q.scope Source.table?))) := by
    rw [List.flatMap_map]
    refine Reports.mapM fun j mem => ?_
    have clause : Reports [] (Criterion.clause? (q.scope Source.table?) j.criteria) :=
      Criterion.reports_clause? fun site hsite => converts site <|
        List.mem_append_left _ <| List.mem_append_right _ <|
          List.mem_flatMap.mpr ⟨j, mem, List.mem_append_right _ hsite⟩
    exact (reported _ (join_mem_sources mem)).bind_nil fun _ => clause.bind fun _ => .ok _
  have tail : Reports q.orderFaults (q.tailFragment (q.scope Source.table?)) :=
    q.reports_tailFragment _ fun site hsite => converts site (List.mem_append_right _ hsite)
  rw [faults_eq, Select.sources, List.flatMap_append, fragment_eq, List.append_assoc,
    List.append_assoc]
  exact q.reports_check.bind fun _ => drawn.bind fun _ => joined.bind fun _ =>
    tail.bind_nil fun _ => .ok _

/-- **A select statement reports the first of its faults**, on all of its levels.  The induction is
over the nesting. -/
theorem reports_fragment (q : Query) : q.IsReported := by
  induction q using nesting_induction with
  | level q nested => exact reports_level nested

/-! ### Malformed levels -/

/-- The ways in which one level of a select statement can be malformed. -/
inductive Malformed (q : Query) : Prop
  | emptySelectList : q.columns = [] → Malformed q
  | missingFrom : q.from? = none → Malformed q
  | joinWithoutCriterion {join : Join Source} : join ∈ q.joins → join.criteria = [] → Malformed q
  | joinedSubqueryWithoutAlias {join : Join Source} : join ∈ q.joins →
      join.source.isSelect = true → nonempty? join.alias? = none → Malformed q
  | negativeLimit {v : Value} {n : Int} : q.limit? = some v → v.number? = some n → n < 0 →
      Malformed q
  | negativeOffset {v : Value} {n : Int} : q.offset? = some v → v.number? = some n → n < 0 →
      Malformed q
  | notOrderable {e : Expression} : e ∈ q.orderBy → (∀ c, e ≠ .column c) →
      nonempty? e.alias? = none → Malformed q

/-- The limit and the offset are numbers wherever they are given, on all levels. -/
def HasNumbers (q : Query) : Prop :=
  ∀ p ∈ q.levels, ∀ v, p.limit? = some v ∨ p.offset? = some v → ∃ n, v.number? = some n

end Select

/-- A number that limits the rows is at fault with a build error exactly if it is negative. -/
theorem build_mem_boundFaults_iff {negative : BuildProblem} {kind : StatementKind}
    {bound? : Option Value} :
    (∃ b, .build b ∈ boundFaults negative kind bound?) ↔
      ∃ v n, bound? = some v ∧ v.number? = some n ∧ n < 0 := by
  cases bound? with
  | none => simp [boundFaults]
  | some v =>
      unfold boundFaults
      cases hv : v.number? with
      | none => simp [hv]
      | some n =>
          by_cases sign : n < 0
          · simp [hv, sign]
          · simp [hv, sign]

/-- A number that limits the rows has no fault but that it is negative. -/
theorem eq_of_mem_boundFaults {negative : BuildProblem} {kind : StatementKind}
    {bound? : Option Value} (numbers : ∀ v, bound? = some v → ∃ n, v.number? = some n) {e : Error}
    (mem : e ∈ boundFaults negative kind bound?) : e = .build ⟨negative, kind⟩ := by
  cases bound? with
  | none => cases mem
  | some v =>
      obtain ⟨n, hn⟩ := numbers v rfl
      simp only [boundFaults, hn] at mem
      split at mem
      · exact List.mem_singleton.mp mem
      · cases mem

/-- A join has a problem if it has no criterion, or joins a select statement that has no name. -/
theorem Join.mem_problems_iff {join : Join Source} :
    (∃ p, p ∈ join.problems) ↔
      join.criteria = [] ∨ (join.source.isSelect = true ∧ nonempty? join.alias? = none) := by
  unfold Join.problems
  rw [← List.isEmpty_iff, ← Option.isNone_iff_eq_none, ← Bool.and_eq_true]
  cases join.criteria.isEmpty <;>
    cases join.source.isSelect && (nonempty? join.alias?).isNone <;> simp

/-- Only a column or an expression with an alias has a name to sort by. -/
theorem Expression.orderName?_eq_none_iff {e : Expression} :
    e.orderName? = none ↔ (∀ c, e ≠ .column c) ∧ nonempty? e.alias? = none := by
  cases e <;> simp [Expression.orderName?]

namespace Select

/-- A statement has a problem if it selects nothing, draws from nothing, or has a join with a
problem. -/
theorem mem_problems_iff {q : Query} :
    (∃ p, p ∈ q.problems) ↔
      q.columns = [] ∨ q.from? = none ∨ ∃ join ∈ q.joins, ∃ p, p ∈ join.problems := by
  unfold problems
  rw [← List.isEmpty_iff, ← Option.isNone_iff_eq_none]
  cases q.columns.isEmpty <;> cases q.from?.isNone <;> simp [List.mem_flatMap, exists_comm]

/-- The sort order is at fault for an item without a name to sort by, and always with the same
error. -/
theorem mem_orderFaults_iff {q : Query} {e : Error} :
    e ∈ q.orderFaults ↔ e = .build ⟨.notOrderable, .select⟩ ∧
      ∃ item ∈ q.orderBy, item.orderName? = none := by
  simp only [orderFaults, Expression.orderFaults, List.mem_flatMap]
  constructor
  · rintro ⟨item, mem, fault⟩
    split at fault
    case isTrue unnamed =>
      exact ⟨List.mem_singleton.mp fault, item, mem, Option.isNone_iff_eq_none.mp unnamed⟩
    case isFalse => cases fault
  · rintro ⟨rfl, item, mem, unnamed⟩
    refine ⟨item, mem, ?_⟩
    rw [unnamed]
    exact List.mem_singleton_self _

/-- A level has a fault of its own exactly if it is malformed.  There is one way of being malformed
for each kind of fault. -/
theorem build_mem_own_iff {q : Query} :
    (∃ b, .build b ∈ q.ownFaults ∨ .build b ∈ q.orderFaults) ↔ q.Malformed := by
  constructor
  · rintro ⟨b, own | order⟩
    · rw [ownFaults, List.mem_append, List.mem_append] at own
      rcases own with (own | limit) | offset
      · obtain ⟨p, problem, -⟩ := List.mem_map.mp own
        rcases mem_problems_iff.mp ⟨p, problem⟩ with columns | drawn | ⟨join, mem, wrong⟩
        · exact .emptySelectList columns
        · exact .missingFrom drawn
        · rcases Join.mem_problems_iff.mp wrong with none | ⟨select, unnamed⟩
          · exact .joinWithoutCriterion mem none
          · exact .joinedSubqueryWithoutAlias mem select unnamed
      · obtain ⟨v, n, given, number, sign⟩ := build_mem_boundFaults_iff.mp ⟨b, limit⟩
        exact .negativeLimit given number sign
      · obtain ⟨v, n, given, number, sign⟩ := build_mem_boundFaults_iff.mp ⟨b, offset⟩
        exact .negativeOffset given number sign
    · obtain ⟨-, item, mem, unnamed⟩ := mem_orderFaults_iff.mp order
      obtain ⟨noColumn, noAlias⟩ := Expression.orderName?_eq_none_iff.mp unnamed
      exact .notOrderable mem noColumn noAlias
  · have problem (h : ∃ p, p ∈ q.problems) :
        ∃ b, .build b ∈ q.ownFaults ∨ .build b ∈ q.orderFaults := by
      obtain ⟨p, mem⟩ := h
      exact ⟨⟨p, q.kind⟩, .inl <| List.mem_append_left _ <| List.mem_append_left _ <|
        List.mem_map_of_mem mem⟩
    intro malformed
    cases malformed with
    | emptySelectList columns => exact problem (mem_problems_iff.mpr (.inl columns))
    | missingFrom drawn => exact problem (mem_problems_iff.mpr (.inr (.inl drawn)))
    | joinWithoutCriterion mem none =>
        refine problem (mem_problems_iff.mpr (.inr (.inr ⟨_, mem, ?_⟩)))
        exact Join.mem_problems_iff.mpr (.inl none)
    | joinedSubqueryWithoutAlias mem select unnamed =>
        refine problem (mem_problems_iff.mpr (.inr (.inr ⟨_, mem, ?_⟩)))
        exact Join.mem_problems_iff.mpr (.inr ⟨select, unnamed⟩)
    | negativeLimit given number sign =>
        obtain ⟨b, mem⟩ : ∃ b, .build b ∈ boundFaults .negativeLimit q.kind q.limit? :=
          build_mem_boundFaults_iff.mpr ⟨_, _, given, number, sign⟩
        exact ⟨b, .inl (List.mem_append_left _ (List.mem_append_right _ mem))⟩
    | negativeOffset given number sign =>
        obtain ⟨b, mem⟩ : ∃ b, .build b ∈ boundFaults .negativeOffset q.kind q.offset? :=
          build_mem_boundFaults_iff.mpr ⟨_, _, given, number, sign⟩
        exact ⟨b, .inl (List.mem_append_right _ mem)⟩
    | notOrderable mem noColumn noAlias =>
        have unnamed := Expression.orderName?_eq_none_iff.mpr ⟨noColumn, noAlias⟩
        exact ⟨_, .inr (mem_orderFaults_iff.mpr ⟨rfl, _, mem, unnamed⟩)⟩

/-- A statement whose limits are numbers has no faults but build errors. -/
theorem exists_build_of_mem_faults {q : Query} (numbers : q.HasNumbers) {e : Error}
    (mem : e ∈ q.faults) : ∃ b, e = .build b := by
  obtain ⟨p, level, own | order⟩ := (mem_faults_iff q).mp mem
  · rw [ownFaults, List.mem_append, List.mem_append] at own
    rcases own with (own | limit) | offset
    · obtain ⟨problem, -, same⟩ := List.mem_map.mp own
      exact ⟨_, same.symm⟩
    · exact ⟨_, eq_of_mem_boundFaults (fun v given => numbers p level v (.inl given)) limit⟩
    · exact ⟨_, eq_of_mem_boundFaults (fun v given => numbers p level v (.inr given)) offset⟩
  · exact ⟨_, (mem_orderFaults_iff.mp order).1⟩

/-- A statement has a build error among its faults exactly if one of its levels is malformed. -/
theorem build_mem_faults_iff {q : Query} :
    (∃ b, .build b ∈ q.faults) ↔ ∃ p ∈ q.levels, p.Malformed := by
  simp only [mem_faults_iff, ← build_mem_own_iff]
  constructor
  · rintro ⟨b, p, level, fault⟩
    exact ⟨p, level, b, fault⟩
  · rintro ⟨p, level, b, fault⟩
    exact ⟨b, p, level, fault⟩

/-! ### Main result -/

/-- **Exactly the malformed select statements are refused.**  A statement whose sources are
tables and select statements, and whose conversions raise nothing, is rendered if it has no
fault, and otherwise refused for the first one: the levels are looked through in the order of
`Select.faults_eq`.  If its limits are numbers, it is refused with a build error, whatever the
dialect, exactly if one of its levels is malformed. -/
theorem first_fault (q : Query) (nested : q.IsNested)
    (converts : ∀ site ∈ q.sites, site.Converts) (dialect : Dialect) :
    (∀ e, q.render dialect = .error e ↔ q.faults.head? = some e) ∧
    ((∃ r, q.render dialect = .ok r) ↔ q.faults = []) ∧
    (q.HasNumbers →
      ((∃ b, q.render dialect = .error (.build b)) ↔ ∃ p ∈ q.levels, p.Malformed)) := by
  have reports : Reports q.faults (q.render dialect) :=
    (q.reports_fragment nested converts).bind_nil fun _ => .ok _
  refine ⟨fun e => reports.eq_error_iff, reports.exists_eq_ok_iff, fun numbers => ?_⟩
  rw [← build_mem_faults_iff]
  constructor
  · rintro ⟨b, refused⟩
    exact ⟨b, List.mem_of_mem_head? (reports.eq_error_iff.mp refused)⟩
  · rintro ⟨b, mem⟩
    obtain ⟨e, first⟩ := Option.isSome_iff_exists.mp
      (List.isSome_head?.mpr (List.ne_nil_of_mem mem))
    obtain ⟨b', rfl⟩ := exists_build_of_mem_faults numbers (List.mem_of_mem_head? first)
    exact ⟨b', reports.eq_error_iff.mpr first⟩

/-- A statement that leaves out more rows than there can be. -/
def backwards : Query :=
  let users : Table := ⟨0, "users", none⟩
  { kind := .select
    distinct := false
    columns := [.column (.plain "id" users none)]
    from? := some ⟨.table users, none⟩
    offset? := some (.int (-1)) }

/-- A statement without columns. -/
def columnless : Query :=
  let users : Table := ⟨0, "users", none⟩
  { kind := .selectDistinct, distinct := true, columns := [], from? := some ⟨.table users, none⟩ }

/-- A statement whose sources are malformed, and which is sorted by a count without a name. -/
def aroundMalformed : Query :=
  let users : Table := ⟨0, "users", none⟩
  let id : Expression := .column (.plain "id" users (some .ok))
  { kind := .count
    distinct := false
    columns := [.count id false none]
    from? := some ⟨.subquery backwards, none⟩
    joins := [⟨.left, .subquery columnless, some "c",
      [.mk .and id (.compare .equal (.int 5) false) []]⟩]
    orderBy := [.countAll none]
    limit? := some (.int 3) }

/-- The sample is refused for the first of its three faults. -/
theorem first_fault_sample :
    aroundMalformed.faults = [.build ⟨.negativeOffset, .select⟩,
      .build ⟨.emptySelectList, .selectDistinct⟩, .build ⟨.notOrderable, .select⟩] ∧
    aroundMalformed.render .mysql = .error (.build ⟨.negativeOffset, .select⟩) ∧
    ∃ p ∈ aroundMalformed.levels, p.Malformed := by
  have levels : aroundMalformed.levels = [aroundMalformed, backwards, columnless] := rfl
  have nested : aroundMalformed.IsNested := by
    intro p level source mem
    rw [levels] at level
    rcases level with _ | ⟨-, _ | ⟨-, _ | ⟨-, ⟨⟩⟩⟩⟩
    · rcases mem with _ | ⟨-, _ | ⟨-, ⟨⟩⟩⟩
      · exact .inr ⟨backwards, rfl⟩
      · exact .inr ⟨columnless, rfl⟩
    · rcases mem with _ | ⟨-, ⟨⟩⟩
      exact .inl ⟨_, rfl⟩
    · rcases mem with _ | ⟨-, ⟨⟩⟩
      exact .inl ⟨_, rfl⟩
  have converts : ∀ site ∈ aroundMalformed.sites, site.Converts := by
    intro site mem f given _
    rcases mem with _ | ⟨-, _ | ⟨-, _ | ⟨-, ⟨⟩⟩⟩⟩ <;> cases given
    exact ⟨_, rfl⟩
  have numbers : aroundMalformed.HasNumbers := by
    intro p level v given
    rw [levels] at level
    rcases level with _ | ⟨-, _ | ⟨-, _ | ⟨-, ⟨⟩⟩⟩⟩ <;> rcases given with given | given <;>
      cases given
    · exact ⟨3, rfl⟩
    · exact ⟨-1, rfl⟩
  obtain ⟨first, -, malformed⟩ := first_fault aroundMalformed nested converts .mysql
  have refused := (first (.build ⟨.negativeOffset, .select⟩)).mpr rfl
  exact ⟨rfl, refused, (malformed numbers).mp ⟨_, refused⟩⟩

end Select

end BoundSql
