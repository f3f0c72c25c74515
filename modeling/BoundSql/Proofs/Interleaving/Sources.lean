import Mathlib.Data.Finset.Card
import BoundSql.Proofs.Refusal.Sources

/-!
# Select drafts on different workbenches

A select draft is rendered with its sources taken from the workbench, down to a depth that is the
number of drafts.  A workbench may have got further drafts in the meantime: what is drawn from the
older ones remains the same, although the depth is another one, because a chain of drafts that are
not opened twice ends before it reaches either.

The sources are taken by a recursion with a bound on its depth, and drafts that are open already are
not opened again, so that a draft that draws from itself comes to an end.  On two workbenches the
bounds differ.  The proof is by induction on one of them and keeps both larger than the number of
older drafts that are still to be opened; with every draft that is opened, this number goes down by
one, and so do the bounds.  That the drafts in question draw from older ones only is a hypothesis,
and `Workbench.IsClosed` provides it.

* `Workbench.IsClosed` : no draft draws from one that is not there.
* `Workbench.queryWithin_congr` : the sources of a statement that draws from older drafts alone.
-/

namespace BoundSql

namespace Select

variable {σ τ : Type}

/-- A statement over other sources depends on what its own sources become. -/
theorem mapSources_congr {q : Select σ} {f g : σ → τ}
    (h : ∀ source ∈ q.sources, f source = g source) : q.mapSources f = q.mapSources g := by
  have drawn : (q.from?.map fun s => (⟨f s.source, s.alias?⟩ : From τ)) =
      q.from?.map fun s => ⟨g s.source, s.alias?⟩ := by
    cases hf : q.from? with
    | none => rfl
    | some s =>
      rw [Option.map_some, Option.map_some, h _ (from_mem_sources hf)]
  have joined : (q.joins.map fun j => (⟨j.kind, f j.source, j.alias?, j.criteria⟩ : Join τ)) =
      q.joins.map fun j => ⟨j.kind, g j.source, j.alias?, j.criteria⟩ := by
    apply List.map_congr_left
    intro j hj
    rw [h _ (join_mem_sources hj)]
  rw [mapSources, mapSources, drawn, joined]

end Select

namespace Workbench

variable {w w₁ w₂ : Workbench} {records : Records} {n : Nat}

/-- Every draft draws from drafts on the workbench. -/
def IsClosed (w : Workbench) : Prop :=
  ∀ whole, ∀ part ∈ w.parts whole, part < w.drafts.length

/-- The drafts among the first `n` that have not been opened. -/
def unopened (n : Nat) (opened : List DraftId) : Finset DraftId :=
  {part ∈ Finset.range n | part ∉ opened}

/-- There are never more drafts to open than there are drafts. -/
theorem card_unopened_le (n : Nat) (opened : List DraftId) : (unopened n opened).card ≤ n := by
  have := Finset.card_filter_le (Finset.range n) (· ∉ opened)
  rwa [Finset.card_range] at this

/-- There is one draft less to open when one more has been opened. -/
theorem card_unopened_cons {opened : List DraftId} {part : DraftId} (older : part < n)
    (closed : part ∉ opened) :
    (unopened n (part :: opened)).card + 1 = (unopened n opened).card := by
  have mem : part ∈ unopened n opened := by
    rw [unopened, Finset.mem_filter, Finset.mem_range]
    exact ⟨older, closed⟩
  have erased : unopened n (part :: opened) = (unopened n opened).erase part := by
    ext id
    simp only [unopened, Finset.mem_filter, Finset.mem_range, List.mem_cons, not_or,
      Finset.mem_erase]
    tauto
  rw [erased, Finset.card_erase_add_one mem]

/-- **A statement that draws from older drafts alone** has the same sources on two workbenches that
have these drafts in common, at any depths beyond the number of those that are not open yet. -/
theorem queryWithin_congr (same : ∀ part < n, w₁.select part = w₂.select part)
    (older : ∀ part < n, ∀ source, .draft source ∈ (w₁.select part).sources → source < n)
    {depth₁ depth₂ : Nat} {opened₁ opened₂ : List DraftId}
    (opened : ∀ part < n, part ∈ opened₁ ↔ part ∈ opened₂)
    (room₁ : (unopened n opened₁).card < depth₁) (room₂ : (unopened n opened₁).card < depth₂)
    {q : Select SourceRef} (drawn : ∀ source, .draft source ∈ q.sources → source < n) :
    w₁.queryWithin records depth₁ opened₁ q = w₂.queryWithin records depth₂ opened₂ q := by
  induction depth₁ generalizing depth₂ opened₁ opened₂ q with
  | zero => exact absurd room₁ (Nat.not_lt_zero _)
  | succ depth₁ ih =>
    cases depth₂ with
    | zero => exact absurd room₂ (Nat.not_lt_zero _)
    | succ depth₂ =>
      rw [queryWithin, queryWithin]
      apply Select.mapSources_congr
      intro source mem
      cases source with
      | draft part =>
        have inside := drawn part mem
        simp only [List.contains_eq_mem, opened part inside, decide_eq_true_eq]
        by_cases isOpen : part ∈ opened₂
        · rw [if_pos isOpen, if_pos isOpen]
        · rw [if_neg isOpen, if_neg isOpen, ← same part inside]
          -- opening a draft leaves one less to open, and both depths are still enough for the rest
          have fewer := card_unopened_cons inside (mt (opened part inside).mp isOpen)
          refine congrArg Source.subquery (ih ?_ (by omega) (by omega) (older part inside))
          intro other before
          rw [List.mem_cons, List.mem_cons, opened other before]
      | _ => rfl

end Workbench

end BoundSql
