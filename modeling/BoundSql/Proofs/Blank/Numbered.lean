import Mathlib.Data.Option.Basic
import BoundSql.Proofs.Blank.Builder
import BoundSql.Proofs.Blank.Follows

/-!
# Numbered statements without their data

Writing a statement follows writing the blank one: at every step a value is bound and not looked at,
except where the blank statement has what is seen of it.  The steps are the conversion of a value
(`Expression.convert_follows`), a condition, a criterion with its group, a level of a select
statement, and the statements; the main result is `NumberedBuilder.fragment_follows`.

There is one lemma for each function that writes something, and it says of the function what the
relation says of computations.  The places where a builder looks at data show up as equations
instead: whether a condition is written (`Condition.renders_blank`), whether a mapping declines
(`Mapping.declines_blank`), whether a number may limit the rows (`Select.checkBound_blank`).  At
these the blank builder has to take the same way, and following would be too little.
-/

namespace BoundSql

open Fragment (Alike)

/-! ### Conditions and criteria -/

/-- A conversion gives some value, or the caller's code raises.  The values on the two sides have
nothing to do with each other. -/
theorem Expression.convert_follows (e : Expression) (v w : Value) :
    Follows (fun _ _ => True) (e.convert v) (e.unconverted.convert w) := by
  rw [e.convert_unconverted w]
  induction e with
  | column c =>
      show Follows _ (c.convert v) _
      unfold Column.convert
      split
      · exact .ok trivial
      · cases c.converter? with
        | none => exact .ok trivial
        | some f =>
            show Follows _ ((f v).mapError Error.raised) _
            cases f v with
            | error e => exact .raised e _
            | ok v => exact .ok trivial
  | all table => exact .ok trivial
  | apply f argument alias? ih => exact ih
  | substring argument offset length alias? ih => exact ih
  | count argument distinct alias? ih => exact .ok trivial
  | countAll alias? => exact .ok trivial

/-- A condition is written as the blank one is. -/
theorem Condition.fragment_follows (scope : Scope) (e : Expression) (condition : Condition) :
    Follows Alike (condition.fragment scope e) (condition.blank.fragment scope e.unconverted) := by
  have left : Alike (e.fragment scope) (e.unconverted.fragment scope) := by
    rw [e.fragment_unconverted]
    exact Alike.refl _
  cases condition with
  | null negated => exact .ok (left.append (Alike.refl _))
  | compare comparison value whenPresent =>
      refine (e.convert_follows value value.blank).bind fun v w _ => ?_
      exact .ok (left.append ((Alike.value v w).cons _))
  | between negated low high =>
      refine (e.convert_follows low low.blank).bind fun v w _ => ?_
      refine (e.convert_follows high high.blank).bind fun v' w' _ => ?_
      have bounds := (Alike.value v w).append ((Alike.value v' w').cons (.sql " AND "))
      exact .ok (left.append (bounds.cons _))
  | member negated values =>
      have items : Follows (List.Forall₂ fun _ _ => True) (values.mapM e.convert)
          ((values.map fun _ => Value.null).mapM e.unconverted.convert) :=
        Follows.mapM fun v _ => e.convert_follows v .null
      refine items.bind fun vs ws related => ?_
      have bound : List.Forall₂ Alike (vs.map fun v => [.value v])
          (ws.map fun w => [.value w]) := by
        rw [List.forall₂_map_left_iff, List.forall₂_map_right_iff]
        exact related.imp fun v w _ => Alike.value v w
      exact .ok ((left.append ((Alike.joined "," bound).cons _)).append (Alike.refl _))
  | equalTo right => exact .ok (left.append (Alike.refl _))

namespace Criterion

/-- Lists of terms with the same connectors and texts that are alike. -/
def TermsAlike : List (Connector × Fragment) → List (Connector × Fragment) → Prop :=
  List.Forall₂ fun t u => t.1 = u.1 ∧ Alike t.2 u.2

theorem chain_alike {terms others : List (Connector × Fragment)} (h : TermsAlike terms others) :
    Alike (chain terms) (chain others) := by
  cases h with
  | nil => exact Alike.refl _
  | @cons t u rest rest' first behind =>
      refine Alike.append first.2 ?_
      rw [List.flatMap_def, List.flatMap_def]
      refine Alike.flatten ?_
      rw [List.forall₂_map_left_iff, List.forall₂_map_right_iff]
      refine behind.imp fun t u same => ?_
      rw [same.1]
      exact same.2.cons _

theorem enclose?_alike {terms others : List (Connector × Fragment)} (h : TermsAlike terms others) :
    Option.Rel Alike (enclose? terms) (enclose? others) := by
  have chained := chain_alike h
  cases h with
  | nil => exact .none
  | cons first rest =>
      cases rest with
      | nil => exact .some first.2
      | cons second rest => exact .some chained.parenthesized

mutual

/-- A criterion is written as the blank one is. -/
theorem fragment?_follows (scope : Scope) : ∀ c : Criterion,
    Follows (Option.Rel Alike) (fragment? scope c) (fragment? scope c.blank)
  | .mk connector column condition group => by
    rw [blank, fragment?, fragment?, condition.renders_blank]
    have group_follows := survivors_follows scope group
    cases condition.renders with
    | true =>
        simp only [if_true]
        refine Follows.bind (R := TermsAlike) ?_ fun head head' heads => ?_
        · exact (condition.fragment_follows scope column).map fun f g alike =>
            .cons ⟨rfl, alike⟩ .nil
        · exact group_follows.bind fun rest rest' rests =>
            .ok (enclose?_alike (List.rel_append heads rests))
    | false =>
        simp only [Bool.false_eq_true, if_false, pure_bind]
        exact group_follows.bind fun rest rest' rests => .ok (enclose?_alike rests)

/-- What is written of a list of criteria is written of the blank ones. -/
theorem survivors_follows (scope : Scope) : ∀ cs : List Criterion,
    Follows TermsAlike (survivors scope cs) (survivors scope (blankList cs))
  | [] => by
    rw [blankList]
    exact .ok .nil
  | c :: cs => by
    rw [blankList, survivors, survivors]
    refine (fragment?_follows scope c).bind fun f? g? related => ?_
    refine (survivors_follows scope cs).bind fun rest rest' rests => .ok ?_
    have connector : c.blank.connector = c.connector := by
      obtain ⟨connector, column, condition, group⟩ := c
      rw [blank, Criterion.connector, Criterion.connector]
    rw [connector]
    cases related with
    | none => exact rests
    | some alike => exact .cons ⟨rfl, alike⟩ rests

end

/-- A clause is missing in one statement just when it is missing in the other. -/
theorem clause?_follows (scope : Scope) (criteria : List Criterion) :
    Follows (Option.Rel Alike) (clause? scope criteria) (clause? scope (blankList criteria)) := by
  refine (survivors_follows scope criteria).bind fun terms others h => .ok ?_
  have chained := chain_alike h
  cases h with
  | nil => exact .none
  | cons first rest => exact .some chained

theorem whereFragment_follows (scope : Scope) (criteria : List Criterion) :
    Follows Alike (whereFragment scope criteria) (whereFragment scope (blankList criteria)) := by
  refine (clause?_follows scope criteria).bind fun f? g? related => .ok ?_
  cases related with
  | none => exact Alike.refl _
  | some alike => exact alike.cons _

end Criterion

/-! ### Select statements -/

/-- A number that limits the rows is checked as the blank one is. -/
theorem Select.checkBound_blank (negative : BuildProblem) (kind : StatementKind)
    (bound? : Option Value) :
    checkBound negative kind (bound?.map Value.blankBound) = checkBound negative kind bound? := by
  have sign : ∀ n : Int, ((if n < 0 then (-1 : Int) else 0) < 0) ↔ n < 0 := by
    intro n
    split <;> omega
  cases bound? with
  | none => rfl
  | some v =>
      rw [Option.map_some, checkBound, checkBound]
      cases v with
      | int n => simp only [Value.blankBound, Value.number?, sign]
      | bool b => simp only [Value.blankBound, Value.number?, sign]
      | _ => rfl

theorem boundFragment_alike (keyword : String) (bound? : Option Value) :
    Alike (boundFragment keyword bound?) (boundFragment keyword (bound?.map Value.blankBound)) := by
  cases bound? with
  | none => exact Alike.refl _
  | some v => exact (Alike.value v _).cons _

theorem Source.isSelect_blank (source : Source) : source.blank.isSelect = source.isSelect := by
  cases source with
  | subquery q => rw [Source.blank_subquery]; rfl
  | _ => rw [Source.blank]

/-- What is known under an alias is known without data. -/
theorem Source.table?_blank (source : Source) : source.blank.table? = source.table? := by
  cases source with
  | subquery q => rw [Source.blank_subquery]; rfl
  | _ => rw [Source.blank]

namespace Select

/-- A statement is checked as the blank one is: the checks are about columns, sources and the
numbers that limit the rows. -/
theorem check_blank (q : Query) : q.blank.check Source.isSelect = q.check Source.isSelect := by
  have joins : ∀ joins : List (Join Source),
      (joins.map Join.blank).findSome? (joinProblem? Source.isSelect) =
        joins.findSome? (joinProblem? Source.isSelect) := by
    intro joins
    rw [List.findSome?_map]
    refine congrArg (List.findSome? · joins) (funext fun join => ?_)
    show joinProblem? Source.isSelect join.blank = joinProblem? Source.isSelect join
    rw [joinProblem?, joinProblem?, Join.blank, Criterion.blankList_eq_map, List.isEmpty_map,
      Source.isSelect_blank]
  rw [check, check, blank_eq]
  simp only [joins, checkBound_blank, Option.isNone_map]

/-- The data of a statement makes no difference to the aliases in scope. -/
theorem scope_blank (q : Query) : q.blank.scope Source.table? = q.scope Source.table? := by
  have sources : (q.blank.from?.map fun f => (f.source, f.alias?)).toList ++
        (q.blank.joins.map fun j => (j.source, j.alias?)) =
      ((q.from?.map fun f => (f.source, f.alias?)).toList ++
        q.joins.map fun j => (j.source, j.alias?)).map fun s => (s.1.blank, s.2) := by
    rw [blank_eq, List.map_append, List.map_map, List.map_map, Option.map_map]
    cases q.from? with
    | none => rfl
    | some f => rfl
  rw [scope, sources, List.foldl_map]
  simp only [Source.table?_blank]
  rfl

theorem tailFragment_follows (q : Query) (scope : Scope) :
    Follows Alike (q.tailFragment scope) (q.blank.tailFragment scope) := by
  rw [tailFragment, tailFragment, blank_eq]
  refine (Criterion.whereFragment_follows scope q.criteria).bind fun f g restriction => ?_
  refine (Follows.ofEq rfl).bind fun order order' same => .ok ?_
  rw [same]
  exact (((restriction.append (Alike.refl _)).append (Alike.refl _)).append
    (boundFragment_alike _ _)).append (boundFragment_alike _ _)

end Select

/-- A source is written as the blank one is, if the select statement that it is has this
property. -/
theorem Source.fragment_follows {source : Source}
    (nested : ∀ p : Query, source = .subquery p → Follows Alike p.fragment p.blank.fragment) :
    Follows Alike source.fragment source.blank.fragment := by
  cases source with
  | subquery p =>
      rw [Source.blank_subquery, Source.fragment_subquery, Source.fragment_subquery]
      exact (nested p rfl).map fun f g alike => alike.parenthesized
  | _ =>
      rw [Source.blank]
      exact Follows.refl (fun f => Alike.refl f) _

/-- A join is written as the blank one is. -/
theorem Join.written_follows {join : Join Source} (scope : Scope)
    (nested : ∀ p : Query, join.source = .subquery p → Follows Alike p.fragment p.blank.fragment) :
    Follows Alike (join.written scope) (join.blank.written scope) := by
  refine (Source.fragment_follows nested).bind fun f g source => ?_
  refine (Criterion.clause?_follows scope join.criteria).bind fun f? g? clause => .ok ?_
  refine ((source.withAlias _ _).cons _).append (Alike.cons _ ?_)
  cases clause with
  | none => exact Alike.refl _
  | some alike => exact alike

namespace Select

/-- **One level of a select statement** is written as the blank one is, if the statements among
its sources are. -/
theorem level_follows (q : Query)
    (nested : ∀ p : Query, Source.subquery p ∈ q.sources →
      Follows Alike p.fragment p.blank.fragment) :
    Follows Alike q.fragment q.blank.fragment := by
  rw [fragment_eq, fragment_eq, check_blank, scope_blank]
  refine (Follows.ofEq rfl).bind fun _ _ _ => ?_
  have source_follows : Follows Alike (Source.fromFragment q.from?)
      (Source.fromFragment q.blank.from?) := by
    rw [blank_eq]
    cases hfrom : q.from? with
    | none => exact Follows.refl (fun f => Alike.refl f) _
    | some f =>
        rw [Option.map_some, Source.fromFragment_some, Source.fromFragment_some]
        have mem := from_mem_sources hfrom
        exact (Source.fragment_follows fun p hp => nested p (hp ▸ mem)).bind fun f g alike =>
          .ok (alike.withAlias _ _)
  have joins_follow : Follows (List.Forall₂ Alike)
      (q.joins.mapM (Join.written (q.scope Source.table?)))
      (q.blank.joins.mapM (Join.written (q.scope Source.table?))) := by
    rw [blank_eq]
    exact Follows.mapM fun j mem =>
      Join.written_follows _ fun p hp => nested p (hp ▸ join_mem_sources mem)
  refine source_follows.bind fun source source' source_alike => ?_
  refine joins_follow.bind fun joined joined' joined_alike => ?_
  refine (q.tailFragment_follows _).bind fun tail tail' tail_alike => .ok ?_
  -- the selected list binds no value, so the head is the same text in both
  have head : q.blank.headFragment (q.scope Source.table?) =
      q.headFragment (q.scope Source.table?) := by
    rw [headFragment, headFragment, blank_eq]
  rw [head]
  exact (((Alike.refl _).append source_alike).append (Alike.flatten joined_alike)).append
    tail_alike

/-- A select statement is written as the blank one is. -/
theorem fragment_follows (q : Query) : Follows Alike q.fragment q.blank.fragment := by
  induction q using nesting_induction with
  | level q nested => exact level_follows q nested

end Select

/-! ### Statements -/

/-- A mapped column has the same name without its conversion. -/
theorem Mapping.named_follows (m : Mapping) :
    Follows (fun c d => c.name = d.name) m.named m.blank.named := by
  show Follows _ (m.column.asColumn "name") (m.column.unconverted.asColumn "name")
  rw [m.column.asColumn_unconverted]
  cases m.column.asColumn "name" with
  | error e => exact .error e
  | ok c => exact .ok rfl

theorem Update.setting?_follows (m : Mapping) :
    Follows (Option.Rel Alike) (setting? m) (setting? m.blank) := by
  have kept : ∀ x : Except Error (Option Fragment), Follows (Option.Rel Alike) x x :=
    Follows.refl fun f? => by cases f? with
      | none => exact .none
      | some f => exact .some (Alike.refl f)
  obtain ⟨column, origin⟩ := m
  cases origin with
  | value v =>
      exact (column.convert_follows v v.blank).bind fun v w _ => .ok (.some (Alike.value v w))
  | valueWhenPresent v =>
      cases v with
      | null => exact kept _
      | _ =>
          exact (column.convert_follows _ (.int 0)).bind fun v w _ =>
            .ok (.some (Alike.value v w))
  | _ => exact kept _

theorem Update.assignment?_follows (m : Mapping) :
    Follows (Option.Rel Alike) (assignment? m) (assignment? m.blank) := by
  refine (Update.setting?_follows m).bind fun f? g? related => ?_
  cases related with
  | none => exact .ok .none
  | some alike =>
      refine m.named_follows.bind fun c d name => ?_
      rw [name]
      exact .ok (.some ((alike.cons _).cons _))

/-- Lists that are related member by member are both empty or neither is. -/
theorem isEmpty_eq_of_forall₂ {α β : Type} {R : α → β → Prop} {xs : List α} {ys : List β}
    (h : List.Forall₂ R xs ys) : xs.isEmpty = ys.isEmpty := by
  cases h <;> rfl

/-- What is set is listed alike. -/
private theorem filterMap_alike {fs? gs? : List (Option Fragment)}
    (h : List.Forall₂ (Option.Rel Alike) fs? gs?) :
    List.Forall₂ Alike (fs?.filterMap id) (gs?.filterMap id) := by
  induction h with
  | nil => exact .nil
  | cons first _ ih =>
      cases first with
      | none => exact ih
      | some alike => exact .cons alike ih

theorem Update.fragment_follows (u : Update) :
    Follows Alike u.fragment
      (Update.fragment
        ⟨u.table, u.mappings.map Mapping.blank, Criterion.blankList u.criteria⟩) := by
  refine (Follows.mapM fun m _ => Update.assignment?_follows m).bind fun fs? gs? related => ?_
  have items := filterMap_alike related
  simp only [isEmpty_eq_of_forall₂ items]
  split
  · exact .error _
  · refine (Criterion.whereFragment_follows [] u.criteria).bind fun f g restriction => .ok ?_
    exact ((Alike.refl _).append ((Alike.joined ", " items).cons _)).append restriction

theorem InsertValues.expression_follows (m : Mapping) :
    Follows Alike (expression m) (expression m.blank) := by
  obtain ⟨column, origin⟩ := m
  cases origin with
  | value v =>
      exact (column.convert_follows v v.blank).bind fun v w _ => .ok (Alike.value v w)
  | valueWhenPresent v =>
      exact (column.convert_follows v v.blank).bind fun v w _ => .ok (Alike.value v w)
  | _ => exact Follows.refl (fun f => Alike.refl f) _

/-- Columns with the same names, and value expressions that are alike. -/
def EntriesAlike : List (String × Fragment) → List (String × Fragment) → Prop :=
  List.Forall₂ fun e e' => e.1 = e'.1 ∧ Alike e.2 e'.2

theorem EntriesAlike.names {entries others : List (String × Fragment)}
    (h : EntriesAlike entries others) : entries.map (·.1) = others.map (·.1) := by
  induction h with
  | nil => rfl
  | cons first _ ih => rw [List.map_cons, List.map_cons, first.1, ih]

theorem EntriesAlike.values {entries others : List (String × Fragment)}
    (h : EntriesAlike entries others) :
    List.Forall₂ Alike (entries.map (·.2)) (others.map (·.2)) := by
  rw [List.forall₂_map_left_iff, List.forall₂_map_right_iff]
  exact h.imp fun e e' same => same.2

theorem Mapping.declines_blank (m : Mapping) : m.blank.declines = m.declines := by
  obtain ⟨column, origin⟩ := m
  cases origin with
  | valueWhenPresent v => exact v.isNull_blank
  | _ => rfl

/-- An insert of values has the entries of the mappings that do not decline, and these are the same
ones in the blank insert. -/
theorem InsertValues.fragment_follows (i : InsertValues) :
    Follows Alike i.fragment (InsertValues.fragment ⟨i.table, i.mappings.map Mapping.blank⟩) := by
  -- whether a mapping declines can be seen without its value
  have present : (i.mappings.map Mapping.blank).filter (!·.declines) =
      (i.mappings.filter (!·.declines)).map Mapping.blank := by
    rw [List.filter_map]
    simp only [Function.comp_def, Mapping.declines_blank]
  have entries : Follows EntriesAlike ((i.mappings.filter (!·.declines)).mapM entry)
      (((i.mappings.filter (!·.declines)).map Mapping.blank).mapM entry) := by
    refine Follows.mapM fun m _ => ?_
    refine (InsertValues.expression_follows m).bind fun f g alike => ?_
    exact m.named_follows.bind fun c d name => .ok ⟨name, alike⟩
  rw [fragment, fragment, present]
  refine entries.bind fun given blank related => ?_
  simp only [isEmpty_eq_of_forall₂ related]
  split
  · exact .error _
  · rw [related.names]
    refine .ok ((Alike.refl _).append (Alike.cons _ ?_))
    exact Alike.joined ", " (.cons (Alike.joined ", " related.values).parenthesized .nil)

theorem InsertSelect.fragment_follows (i : InsertSelect Query) :
    Follows Alike i.fragment
      (InsertSelect.fragment ⟨i.table, i.columns, i.query?.map Select.blank⟩) := by
  rw [fragment, fragment]
  cases i.query? with
  | none => exact .error _
  | some q =>
      refine q.fragment_follows.bind fun f g alike => ?_
      refine (Follows.ofEq rfl).bind fun columns columns' same => .ok ?_
      rw [same]
      exact (Alike.refl _).append (alike.cons _)

/-- **A statement is written as the blank one is.** -/
theorem NumberedBuilder.fragment_follows (b : NumberedBuilder) :
    Follows Alike b.fragment b.blank.fragment := by
  cases b with
  | select q => exact q.fragment_follows
  | delete d =>
      exact (Criterion.whereFragment_follows [] d.criteria).bind fun f g alike =>
        .ok ((Alike.refl _).append alike)
  | update u => exact u.fragment_follows
  | insertValues i => exact i.fragment_follows
  | insertSelect i => exact i.fragment_follows

end BoundSql
