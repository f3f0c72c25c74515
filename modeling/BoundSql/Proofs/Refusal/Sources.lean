import Mathlib.Data.List.Perm.Subperm
import Mathlib.Logic.Relation
import BoundSql.Proofs.Refusal.Mappings
import BoundSql.Proofs.Rejection
import BoundSql.Workbench

/-!
# Select drafts with finitely nested sources

A select draft is rendered with its sources taken from the workbench, down to a depth that is the
number of drafts, and no draft is opened again within itself.  When drafts are nested finitely,
neither limit is ever reached: the drafts that are open are different ones, and each of them draws
from the next.

Finite nesting is accessibility in the relation of drawing from (`Workbench.IsFinite`): from a draft
one cannot go to one that it draws from, from there to the next, and so on for ever.  Of the drafts
that can be reached in this way, none draws from itself, not even through others.

The recursion over sources carries the drafts that are open.  The invariant is that they are
different and that the current draft is below all of them (`Workbench.Opened`); a draft that it
draws from is then not among them, because it would be below itself.  As there are no more different
drafts than there are drafts, the depth is never used up.

* `Select.IsSound` : one level of a select statement whose calls had proper arguments.
* `Select.orderly_fragment` : a statement all of whose levels are sound is written or refused.
* `Workbench.parts`, `Workbench.IsFinite` : what a draft draws from, and when that ends.
* `Workbench.sound_query` : a finitely nested select draft is sound on all of its levels.
-/

namespace BoundSql

/-! ### Sound levels -/

namespace Select

variable {σ τ : Type}

/-- What is said of one level of a select statement when its calls had proper arguments: the values
in its criteria are converted without an error, its limits are numbers, and its sources are
proper. -/
structure IsSound (proper : σ → Prop) (q : Select σ) : Prop where
  restriction : ∀ site ∈ Criterion.listSites q.criteria, site.Converts
  joins : ∀ j ∈ q.joins, ∀ site ∈ Criterion.listSites j.criteria, site.Converts
  numbers : ∀ v, q.limit? = some v ∨ q.offset? = some v → ∃ n, v.number? = some n
  sources : ∀ source ∈ q.sources, proper source

/-- Taking sources from somewhere else keeps their order and number. -/
theorem sources_mapSources (f : σ → τ) (q : Select σ) :
    (q.mapSources f).sources = q.sources.map f := by
  cases hf : q.from? <;> simp [sources, mapSources, hf]

/-- A level over other sources is sound if these are proper. -/
theorem IsSound.mapSources {proper : σ → Prop} {proper' : τ → Prop} {q : Select σ}
    (sound : q.IsSound proper) {f : σ → τ} (h : ∀ source ∈ q.sources, proper' (f source)) :
    (q.mapSources f).IsSound proper' where
  restriction := sound.restriction
  joins := by
    intro j mem
    obtain ⟨j', mem', rfl⟩ := List.mem_map.mp mem
    exact sound.joins j' mem'
  numbers := sound.numbers
  sources := by
    intro source mem
    rw [sources_mapSources] at mem
    obtain ⟨source', mem', rfl⟩ := List.mem_map.mp mem
    exact h source' mem'

end Select

/-- The source is a table or a select statement. -/
def Source.IsProper (source : Source) : Prop :=
  (∃ t, source = .table t) ∨ ∃ s, source = .subquery s

namespace Select

/-- The values supplied to a statement are converted if those of every level are. -/
theorem converts_of_levels (q : Query) (sound : ∀ p ∈ q.levels, p.IsSound Source.IsProper) :
    ∀ site ∈ q.sites, site.Converts := by
  -- a number that limits the rows is supplied for no expression
  have bound (bound? : Option Value) : ∀ site ∈ boundSites bound?, site.Converts := by
    intro site mem
    obtain ⟨v, -, rfl⟩ := List.mem_map.mp mem
    exact nofun
  intro site mem
  obtain ⟨p, level, head | ⟨j, hj, joined⟩ | tail⟩ := (mem_visit_iff (fun _ => rfl) q).mp mem
  · cases head
  · exact (sound p level).joins j hj site joined
  · rcases List.mem_append.mp tail with tail | offset
    · rcases List.mem_append.mp tail with restriction | limit
      · exact (sound p level).restriction site restriction
      · exact bound _ site limit
    · exact bound _ site offset

/-- What can be wrong with a select statement are problems that calls lead to. -/
theorem arises_of_mem_problems {q : Query} {problem : BuildProblem} (mem : problem ∈ q.problems) :
    problem.Arises := by
  rw [problems, List.mem_append, List.mem_append, List.mem_flatMap] at mem
  rcases mem with (mem | mem) | ⟨j, -, mem⟩
  · split at mem <;> cases mem <;> trivial
  · split at mem <;> cases mem <;> trivial
  · rcases List.mem_append.mp mem with mem | mem
    · split at mem <;> cases mem <;> trivial
    · split at mem <;> cases mem <;> trivial

/-- Where limits are numbers, all faults of a statement are refusals. -/
theorem isRefusal_of_mem_faults {q : Query} (numbers : q.HasNumbers) {e : Error}
    (mem : e ∈ q.faults) : e.IsRefusal := by
  obtain ⟨p, level, own | order⟩ := (mem_faults_iff q).mp mem
  · rw [ownFaults, List.mem_append, List.mem_append] at own
    rcases own with (own | limit) | offset
    · obtain ⟨problem, problems, rfl⟩ := List.mem_map.mp own
      exact arises_of_mem_problems problems
    · rw [eq_of_mem_boundFaults (fun v given => numbers p level v (.inl given)) limit]
      trivial
    · rw [eq_of_mem_boundFaults (fun v given => numbers p level v (.inr given)) offset]
      trivial
  · rw [(mem_orderFaults_iff.mp order).1]
    trivial

/-- **A select statement all of whose levels are sound** is written, or it is refused.  It reports
the first of its faults, and all of them are refusals. -/
theorem orderly_fragment {q : Query} (sound : ∀ p ∈ q.levels, p.IsSound Source.IsProper) :
    Orderly q.fragment := by
  have reports : Reports q.faults q.fragment :=
    q.reports_fragment (fun p level => (sound p level).sources) (q.converts_of_levels sound)
  exact .of_reports reports fun e =>
    isRefusal_of_mem_faults fun p level => (sound p level).numbers

theorem orderly_render {q : Query} {dialect : Dialect}
    (sound : ∀ p ∈ q.levels, p.IsSound Source.IsProper) : Orderly (q.render dialect) :=
  (orderly_fragment sound).bind fun _ _ => .ok _

end Select

/-! ### Finite nesting -/

/-- The source is a table or a draft. -/
def SourceRef.IsProper (source : SourceRef) : Prop :=
  (∃ t, source = .table t) ∨ ∃ id, source = .draft id

namespace Workbench

open Relation

variable {w : Workbench} {records : Records}

/-- The drafts that a draft draws from: the sources of a select statement, and the select statement
of an insert. -/
def parts (w : Workbench) (id : DraftId) : List DraftId :=
  match w.draft id with
  | .select q => q.sources.filterMap fun
    | .draft part => some part
    | _ => none
  | .insertSelect i => i.query?.toList
  | _ => []

/-- The draft at a place is nested finitely: one that it draws from draws from another one, and so
on, but not for ever. -/
def IsFinite (w : Workbench) (id : DraftId) : Prop :=
  Acc (fun part whole => part ∈ w.parts whole) id

/-- What a draft of finite nesting draws from is nested finitely. -/
theorem IsFinite.part {id part : DraftId} (finite : w.IsFinite id) (drawn : part ∈ w.parts id) :
    w.IsFinite part := finite.inv drawn

/-- A draft that is nested finitely does not draw from itself, not even through others. -/
theorem IsFinite.not_transGen {id : DraftId} (finite : w.IsFinite id) :
    ¬ TransGen (fun part whole => part ∈ w.parts whole) id id := by
  have below := Acc.transGen finite
  clear finite
  induction below with
  | intro id _ ih => exact fun self => ih id self self

/-- A draft among the sources of a select draft is one that it draws from. -/
theorem mem_parts_of_source {id part : DraftId} (h : .draft part ∈ (w.select id).sources) :
    part ∈ w.parts id := by
  cases hq : w.draft id with
  | select q =>
      rw [Workbench.select, hq] at h
      rw [parts, hq]
      exact List.mem_filterMap.mpr ⟨_, h, rfl⟩
  | _ => rw [Workbench.select, hq] at h; cases h

/-- A place without a draft stands for a statement without sources. -/
theorem lt_of_source {id : DraftId} {source : SourceRef} (h : source ∈ (w.select id).sources) :
    id < w.drafts.length := by
  by_contra outside
  rw [Workbench.select, draft, List.getElem?_eq_none (Nat.le_of_not_lt outside)] at h
  cases h

/-- Only a draft that exists draws from something. -/
theorem lt_of_mem_parts {id part : DraftId} (h : part ∈ w.parts id) : id < w.drafts.length := by
  by_contra outside
  rw [parts, draft, List.getElem?_eq_none (Nat.le_of_not_lt outside)] at h
  cases h

/-- The drafts that are open while the sources of one of them are taken from the workbench: they
are different, and all of them draw from that one, if only through others. -/
structure Opened (w : Workbench) (opened : List DraftId) (id : DraftId) : Prop where
  nodup : opened.Nodup
  below : ∀ whole ∈ opened, ReflTransGen (fun part whole => part ∈ w.parts whole) id whole

namespace Opened

variable {opened : List DraftId} {id part : DraftId}

/-- In the beginning the draft that is rendered is the only one that is open. -/
theorem single (w : Workbench) (id : DraftId) : Opened w [id] id where
  nodup := List.nodup_singleton id
  below := by
    intro whole mem
    rw [List.mem_singleton.mp mem]

/-- What an open draft draws from is not open yet: otherwise it would draw from itself through those
that are open. -/
theorem notMem (h : Opened w opened id) (finite : w.IsFinite id) (source : part ∈ w.parts id) :
    part ∉ opened :=
  fun mem => (finite.part source).not_transGen (.head' source (h.below part mem))

/-- A draft is opened within the one that draws from it. -/
theorem cons (h : Opened w opened id) (finite : w.IsFinite id) (source : part ∈ w.parts id) :
    Opened w (part :: opened) part where
  nodup := List.nodup_cons.mpr ⟨h.notMem finite source, h.nodup⟩
  below := by
    rintro whole (_ | ⟨_, mem⟩)
    · exact .refl
    · exact .head source (h.below whole mem)

/-- There are no more open drafts than there are drafts, if the innermost of them is one.  The
others draw from it, and are drafts for that reason. -/
theorem length_le (h : Opened w opened id) (inside : id < w.drafts.length) :
    opened.length ≤ w.drafts.length := by
  have all : opened ⊆ List.range w.drafts.length := by
    intro whole mem
    rw [List.mem_range]
    rcases ReflTransGen.cases_tail (h.below whole mem) with rfl | ⟨part, -, source⟩
    · exact inside
    · exact lt_of_mem_parts source
  simpa using (List.subperm_of_subset h.nodup all).length_le

end Opened

/-! ### Taking sources from the workbench -/

/-- **A select draft that is nested finitely is sound on all of its levels**, when all drafts are:
it is taken from the workbench whole.  The induction is over the depth that is left; together with
the number of open drafts it stays above the number of drafts. -/
theorem sound_queryWithin (sound : ∀ id, (w.select id).IsSound SourceRef.IsProper) (depth : Nat)
    {opened : List DraftId} {id : DraftId} (finite : w.IsFinite id) (h : Opened w opened id)
    (room : w.drafts.length < depth + opened.length) :
    ∀ p ∈ (w.queryWithin records depth opened (w.select id)).levels,
      p.IsSound Source.IsProper := by
  induction depth generalizing opened id with
  | zero =>
      -- there is no room for a source
      have none : (w.select id).sources = [] := by
        by_contra some
        obtain ⟨source, mem⟩ := List.exists_mem_of_ne_nil _ some
        have := h.length_le (lt_of_source mem)
        omega
      have noSource {s : Query} : Source.subquery s ∉
          (w.queryWithin records 0 opened (w.select id)).sources := by
        rw [queryWithin, Select.sources_mapSources, none]
        exact List.not_mem_nil
      intro p level
      rcases Select.mem_levels_iff.mp level with rfl | ⟨s, source, -⟩
      · refine (sound id).mapSources fun source mem => ?_
        rw [none] at mem
        cases mem
      · exact absurd source noSource
  | succ depth ih =>
      have notOpen {part : DraftId} (mem : .draft part ∈ (w.select id).sources) :
          opened.contains part = false := by
        rw [List.contains_eq_mem, decide_eq_false_iff_not]
        exact h.notMem finite (mem_parts_of_source mem)
      intro p level
      rcases Select.mem_levels_iff.mp level with rfl | ⟨s, source, level⟩
      · refine (sound id).mapSources fun source mem => ?_
        rcases (sound id).sources source mem with ⟨t, rfl⟩ | ⟨part, rfl⟩
        · exact .inl ⟨t, rfl⟩
        · simp only [notOpen mem]
          exact .inr ⟨_, rfl⟩
      · rw [queryWithin, Select.sources_mapSources] at source
        obtain ⟨source, mem, same⟩ := List.mem_map.mp source
        rcases (sound id).sources source mem with ⟨t, rfl⟩ | ⟨part, rfl⟩
        · cases same
        · simp only [notOpen mem] at same
          obtain rfl := Source.subquery.inj same
          have drawn := mem_parts_of_source mem
          refine ih (finite.part drawn) (h.cons finite drawn) ?_ p level
          rw [List.length_cons]
          omega

/-- The depth at which a draft is rendered is enough. -/
theorem sound_query (sound : ∀ id, (w.select id).IsSound SourceRef.IsProper) {id : DraftId}
    (finite : w.IsFinite id) :
    ∀ p ∈ (w.query records id).levels, p.IsSound Source.IsProper :=
  sound_queryWithin sound _ finite (.single w id) (Nat.lt_succ_self _)

end Workbench

end BoundSql
