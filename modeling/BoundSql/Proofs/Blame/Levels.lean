import BoundSql.Proofs.Blame.Builders
import BoundSql.Proofs.Joins

/-!
# The level at fault

A select statement is refused on account of one of its levels: the statement itself, if its own
check refuses it; or else the level at fault in the first of its sources that cannot be written; and
the statement itself again, if all sources are written, for an expression that cannot be sorted by.

A check names the kind of the level that is checked.  An expression that cannot be sorted by is said
to be one of a plain selection, whatever the kind of the level is.

`Select.atFault` finds the level by looking at which statements can be written, not at errors.  So
it is defined for statements that are not refused as well, where it means nothing, and it does not
presuppose what it is used to show.  What ties it to errors is `Select.atFault_of_build`, by the
induction on the nesting: a build error of one level either is raised by the level itself or comes
unchanged from the first source that cannot be written (`Select.isAtFault_or_unwritten?`).

A source can also fail to be written for another reason than a build error, such as a value that has
no conversion.  Then the statement is not refused with a build error, and there is nothing to show.

* `Select.atFault` : the level on whose account a statement is refused.
* `Select.IsAtFault` : a level that raises a build error itself.
* `Select.atFault_of_build` : the level at fault raises the build error of the statement.
* `Select.IsAtFault.kind_eq` : the kind that the error names.
-/

namespace BoundSql

/-! ### Sources -/

/-- The select statement that the source is, if it cannot be written. -/
def Source.unwritten? : Source → Option Query
  | .subquery p =>
    match p.fragment with
    | .ok _ => none
    | .error _ => some p
  | _ => none

namespace Source

variable {source : Source} {p : Query} {b : BuildError}

theorem unwritten?_eq_some (h : source.unwritten? = some p) : source = .subquery p := by
  cases source with
  | subquery q =>
      rw [unwritten?] at h
      split at h
      · cases h
      · rw [Option.some.inj h]
  | _ => cases h

/-- A source that is written is not among those that are not. -/
theorem unwritten?_of_ok {f : Fragment} (h : source.fragment = .ok f) :
    source.unwritten? = none := by
  cases source with
  | subquery q =>
      rw [fragment_subquery] at h
      obtain ⟨g, written, -⟩ := map_eq_ok_iff.mp h
      rw [unwritten?, written]
  | _ => rfl

theorem findSome?_unwritten?_of_ok {sources : List Source}
    (h : ∀ s ∈ sources, ∃ f, s.fragment = .ok f) : sources.findSome? unwritten? = none := by
  refine List.findSome?_eq_none_iff.mpr fun s mem => ?_
  obtain ⟨f, written⟩ := h s mem
  exact unwritten?_of_ok written

/-- Only a select statement raises a build error where a source is written. -/
theorem exists_unwritten?_of_build (h : source.fragment = .error (.build b)) :
    ∃ p, source.unwritten? = some p ∧ p.fragment = .error (.build b) := by
  cases source with
  | subquery q =>
      rw [fragment_subquery] at h
      have refused := map_eq_error_iff.mp h
      exact ⟨q, by rw [unwritten?, refused], refused⟩
  | table | named | recurring | foreign =>
      rw [fragment] at h
      cases h

end Source

namespace Join

variable {scope : Scope} {join : Join Source} {b : BuildError}

/-- The criteria of a join raise no build errors, so such an error of a join is that of its
source. -/
theorem source_of_written_build (h : join.written scope = .error (.build b)) :
    join.source.fragment = .error (.build b) := by
  rcases bind_eq_error_iff.mp h with source | ⟨f, -, criteria⟩
  · exact source
  · rcases bind_eq_error_iff.mp criteria with clause | ⟨clause?, -, ⟨⟩⟩
    exact absurd ⟨b, rfl⟩ (Criterion.failsWith_clause? scope join.criteria _ clause)

theorem source_of_written {f : Fragment} (h : join.written scope = .ok f) :
    ∃ g, join.source.fragment = .ok g := by
  obtain ⟨g, written, -⟩ := bind_eq_ok_iff.mp h
  exact ⟨g, written⟩

/-- A build error in the course of the joins is that of the first source that cannot be written. -/
theorem exists_unwritten?_of_build {joins : List (Join Source)}
    (h : joins.mapM (written scope) = .error (.build b)) :
    ∃ p, (joins.map Join.source).findSome? Source.unwritten? = some p ∧
      p.fragment = .error (.build b) := by
  induction joins with
  | nil => cases h
  | cons j joins ih =>
      rw [List.mapM_cons] at h
      rw [List.map_cons, List.findSome?_cons]
      rcases bind_eq_error_iff.mp h with here | ⟨f, written, others⟩
      · obtain ⟨p, unwritten, refused⟩ :=
          Source.exists_unwritten?_of_build (source_of_written_build here)
        exact ⟨p, by rw [unwritten], refused⟩
      · obtain ⟨g, source⟩ := source_of_written written
        rw [Source.unwritten?_of_ok source]
        rcases bind_eq_error_iff.mp others with later | ⟨fs, -, ⟨⟩⟩
        exact ih later

end Join

namespace From

variable {from? : Option (From Source)} {b : BuildError}

theorem source_of_written {f : Fragment} (h : Source.fromFragment from? = .ok f) :
    ∀ source ∈ (from?.map From.source).toList, ∃ g, source.fragment = .ok g := by
  cases from? with
  | none => exact nofun
  | some drawn =>
      rw [Source.fromFragment_some] at h
      obtain ⟨g, written, -⟩ := bind_eq_ok_iff.mp h
      rintro source (_ | ⟨_, ⟨⟩⟩)
      exact ⟨g, written⟩

theorem exists_unwritten?_of_build (h : Source.fromFragment from? = .error (.build b)) :
    ∃ p, (from?.map From.source).toList.findSome? Source.unwritten? = some p ∧
      p.fragment = .error (.build b) := by
  cases from? with
  | none =>
      rw [Source.fromFragment] at h
      cases h
  | some drawn =>
      rw [Source.fromFragment_some] at h
      rcases bind_eq_error_iff.mp h with source | ⟨g, -, ⟨⟩⟩
      obtain ⟨p, unwritten, refused⟩ := Source.exists_unwritten?_of_build source
      refine ⟨p, ?_, refused⟩
      rw [Option.map_some, Option.toList_some, List.findSome?_singleton, unwritten]

end From

namespace Select

variable {q : Query} {b : BuildError}

/-! ### One level -/

/-- The first select statement among the sources that cannot be written. -/
def unwritten? (q : Query) : Option Query := q.sources.findSome? Source.unwritten?

theorem mem_sources_of_unwritten? {p : Query} (h : q.unwritten? = some p) :
    .subquery p ∈ q.sources := by
  obtain ⟨source, mem, unwritten⟩ := List.exists_of_findSome?_eq_some h
  rwa [← Source.unwritten?_eq_some unwritten]

/-- What raises a build error behind the sources is the sort order: restriction, groups and bounds
can fail with conversions only. -/
theorem orderBy_of_tail_build {scope : Scope} (h : q.tailFragment scope = .error (.build b)) :
    q.orderBy.mapM Expression.orderFragment = .error (.build b) := by
  rcases bind_eq_error_iff.mp h with restriction | ⟨f, -, h⟩
  · exact absurd ⟨b, rfl⟩ (Criterion.failsWith_whereFragment scope q.criteria _ restriction)
  · rcases bind_eq_error_iff.mp h with order | ⟨fs, -, ⟨⟩⟩
    exact order

/-- The statement raises the build error itself: its check does, or its sort order after all of its
sources have been written. -/
inductive IsAtFault (q : Query) (b : BuildError) : Prop
  | check : q.check Source.isSelect = .error (.build b) → IsAtFault q b
  | order : q.check Source.isSelect = .ok () → (∀ s ∈ q.sources, ∃ f, s.fragment = .ok f) →
      q.orderBy.mapM Expression.orderFragment = .error (.build b) → IsAtFault q b

/-- **A build error of one level** is raised by the level itself, or else it is that of the first
source that cannot be written.  The text is put together from left to right and the first error ends
it, so the proof goes through the parts in this order. -/
theorem isAtFault_or_unwritten? (refused : q.fragment = .error (.build b)) :
    q.IsAtFault b ∨ q.check Source.isSelect = .ok () ∧
      ∃ p, q.unwritten? = some p ∧ p.fragment = .error (.build b) := by
  rw [fragment_eq] at refused
  rw [unwritten?, sources, List.findSome?_append]
  -- In the order of writing: the check, the source drawn from, the joins and last the clauses
  -- behind them.  A level below is to blame only in the second and the third.
  rcases bind_eq_error_iff.mp refused with check | ⟨⟨⟩, checked, refused⟩
  · exact .inl (.check check)
  rcases bind_eq_error_iff.mp refused with source | ⟨source, drawn, refused⟩
  · obtain ⟨p, unwritten, refused⟩ := From.exists_unwritten?_of_build source
    exact .inr ⟨checked, p, by rw [unwritten, Option.some_or], refused⟩
  replace drawn := From.source_of_written drawn
  rcases bind_eq_error_iff.mp refused with joins | ⟨joined, written, refused⟩
  · obtain ⟨p, unwritten, refused⟩ := Join.exists_unwritten?_of_build joins
    refine .inr ⟨checked, p, ?_, refused⟩
    rw [Source.findSome?_unwritten?_of_ok drawn, Option.none_or, unwritten]
  rcases bind_eq_error_iff.mp refused with tail | ⟨f, -, ⟨⟩⟩
  refine .inl (.order checked (fun s mem => ?_) (orderBy_of_tail_build tail))
  rcases List.mem_append.mp mem with mem | mem
  · exact drawn s mem
  · obtain ⟨join, hjoin, rfl⟩ := List.mem_map.mp mem
    obtain ⟨f, -, here⟩ := exists_result_of_mem written hjoin
    exact Join.source_of_written here

/-- What can be wrong with a join has nothing to do with sort orders. -/
theorem joinProblem?_ne_notOrderable {isSelect : Source → Bool} {join : Join Source}
    {problem : BuildProblem} (h : joinProblem? isSelect join = some problem) :
    problem ≠ .notOrderable := by
  unfold joinProblem? at h
  split at h
  · cases h
    exact nofun
  · split at h <;> cases h
    exact nofun

/-- A limit or offset that is refused is refused under the kind of the statement. -/
theorem failsWith_checkBound {negative : BuildProblem} (other : negative ≠ .notOrderable)
    (kind : StatementKind) (bound? : Option Value) :
    FailsWith (Error.Names kind) (checkBound negative kind bound?) := by
  unfold checkBound
  split
  · exact .ok ()
  · split
    · exact .error nofun
    · split
      · exact .fail (Error.names_build other kind)
      · exact .ok ()

/-- **A check names the kind of the statement that is checked.** -/
theorem failsWith_check (q : Query) :
    FailsWith (Error.Names q.kind) (q.check Source.isSelect) := by
  unfold check
  refine .guard (Error.names_build (by decide) _) fun _ => ?_
  refine .guard (Error.names_build (by decide) _) fun _ => ?_
  cases found : q.joins.findSome? (joinProblem? Source.isSelect) with
  | some problem =>
      obtain ⟨join, -, wrong⟩ := List.exists_of_findSome?_eq_some found
      exact .fail (Error.names_build (joinProblem?_ne_notOrderable wrong) _)
  | none =>
      exact (failsWith_checkBound (by decide) _ _).bind fun _ _ =>
        failsWith_checkBound (by decide) _ _

/-- An expression that cannot be sorted by is said to be one of a plain selection. -/
theorem failsWith_orderBy (items : List Expression) :
    FailsWith (· = .build ⟨.notOrderable, .select⟩) (items.mapM Expression.orderFragment) := by
  refine .mapM fun e _ => ?_
  unfold Expression.orderFragment
  split
  · exact .ok _
  · exact .fail rfl

/-- **The kind that the error of a level names** is that of the level, unless the sort order is at
fault. -/
theorem IsAtFault.kind_eq (h : q.IsAtFault b) :
    b.kind = if b.problem = .notOrderable then .select else q.kind := by
  cases h with
  | check check =>
      obtain ⟨own, other⟩ := q.failsWith_check _ check b rfl
      rw [if_neg other, own]
  | order _ _ order =>
      have unnamed := Error.build.inj (failsWith_orderBy q.orderBy _ order)
      rw [unnamed, if_pos rfl]

/-! ### All levels -/

/-- The level on whose account a statement is refused: the statement itself, unless it passes its
check and one of its sources cannot be written. -/
def atFault (q : Query) : Query :=
  match q.check Source.isSelect, _h : q.unwritten? with
  | .ok (), some p => p.atFault
  | _, _ => q
termination_by sizeOf q
decreasing_by exact sizeOf_lt_of_mem_sources (mem_sources_of_unwritten? ‹_›)

/-- With a source that cannot be written, the level at fault is looked for in that source. -/
theorem atFault_of_unwritten? {p : Query} (checked : q.check Source.isSelect = .ok ())
    (h : q.unwritten? = some p) : q.atFault = p.atFault := by
  rw [atFault.eq_def]
  split
  case h_1 p' _ h' => rw [Option.some.inj (h.symm.trans h')]
  case h_2 other => exact absurd h (other p checked)

/-- A level that raises an error itself is the level at fault. -/
theorem IsAtFault.atFault_eq (h : q.IsAtFault b) : q.atFault = q := by
  rw [atFault.eq_def]
  split
  case h_1 p checked unwritten =>
    cases h with
    | check check => cases check.symm.trans checked
    | order _ written _ =>
        cases (Source.findSome?_unwritten?_of_ok written).symm.trans unwritten
  case h_2 => rfl

/-- **The level at fault** raises the build error of the statement itself.  It is a level of the
statement, at whatever depth, and the error that the caller sees is the one that it raises. -/
theorem atFault_of_build (refused : q.fragment = .error (.build b)) :
    q.atFault ∈ q.levels ∧ q.atFault.IsAtFault b := by
  induction q using nesting_induction with
  | level q nested =>
      rcases isAtFault_or_unwritten? refused with own | ⟨checked, p, unwritten, refused⟩
      · rw [own.atFault_eq]
        exact ⟨mem_levels_iff.mpr (.inl rfl), own⟩
      · have source := mem_sources_of_unwritten? unwritten
        obtain ⟨level, own⟩ := nested p source refused
        rw [atFault_of_unwritten? checked unwritten]
        exact ⟨mem_levels_iff.mpr (.inr ⟨p, source, level⟩), own⟩

end Select

end BoundSql
