import BoundSql.Proofs.Drafts
import BoundSql.Proofs.Interleaving.Clauses
import BoundSql.Proofs.Interleaving.Sources
import BoundSql.Proofs.Thinning

/-!
# Interleaved calls

A statement is built by calls, and calls of different clauses may be made in any order: on a select
statement and on the joins that it has returned, where `and` adds a criterion to the one or to the
other; on an update; and on an insert of selected rows and the select statements that it has begun.
The calls of two programs only have to agree clause by clause, and nothing is rendered differently.

## What is assumed of two programs

That two series of calls agree on every clause is said without carrying them out
(`Select.SameClauses`, `Update.SameClauses`, `InsertSelect.SameClauses`): of each clause the calls
that concern it are the same, in the same order.  Interchanging two neighbouring calls of different
clauses preserves this, but so do larger changes, and calls that are overridden later need not agree
at all.  It does not say that the calls are possible.  A call on a join has to come after the one
that adds it, so both programs are assumed to run.

An insert of selected rows may begin a select statement more than once, and the last one counts.  If
two programs agree on this one only, their workbenches are different ones, having different drafts.
Then the insert is rendered alike, provided that its select statement draws from drafts that both
have.

## The shape of the proof

For select statements and updates, the builder after the calls is the builder with their clauses;
what is left is to see that a workbench follows the builder.  For inserts there is an invariant
(`Workbench.Filled`), which describes the whole workbench after some requests: the insert has their
columns, and behind the older drafts lie the select statements that they have begun.  It is
preserved by each request and therefore by a series of them.

* `Workbench.request?`, `Workbench.requests?` : a call on a receiver that exists, and a program.
* `InsertSelect.SameClauses`, `InsertSelect.SameLast` : calls on an insert that agree on every
  clause, and those that agree on the columns and on the last select statement only.
* `Workbench.Filled`, `Workbench.Filled.request?`, `Workbench.Filled.requests?` : what calls on an
  insert make of the workbench, one call and a whole program.
* `Workbench.clause_calls_commute` : programs that agree clause by clause are rendered alike.
-/

namespace BoundSql

/-! ### The calls on an insert of selected rows -/

namespace InsertSelect

/-- A call on an insert of selected rows, or on one of the select statements that it has begun, by
position among these. -/
inductive Request where
  | columns (added : List Expression)
  | select (items : List Expression)
  | within (position : Nat) (r : Select.Request SourceRef)

namespace Request

/-- The columns to be filled in addition. -/
def named : Request → List Expression
  | .columns added => added
  | _ => []

/-- What the select statement that is begun is to list. -/
def begun? : Request → Option (List Expression)
  | .select items => some items
  | _ => none

/-- The request on the select statement at a position. -/
def within? (position : Nat) : Request → Option (Select.Request SourceRef)
  | .within i r => if i = position then some r else none
  | _ => none

/-- The call, on an insert whose select statements lie side by side on the workbench. -/
def call (id first : DraftId) : Request → Receiver × Workbench.Call
  | .columns added => (⟨id, none⟩, .addColumns added)
  | .select items => (⟨id, none⟩, .beginSelect items)
  | .within position r => (⟨first + position, r.join?⟩, .select r.call)

end Request

open Request

/-- The select statements that some requests begin, in order. -/
def begun (rs : List Request) : List (List Expression) := rs.filterMap begun?

/-- Two series of requests agree on the columns to be filled, on the select statements that are
begun, and on every clause of each of these. -/
structure SameClauses (rs rs' : List Request) : Prop where
  columns : rs.flatMap named = rs'.flatMap named
  begun : begun rs = begun rs'
  within : ∀ position columns, (InsertSelect.begun rs)[position]? = some columns →
    (Select.forInsert columns).SameClauses (rs.filterMap (within? position))
      (rs'.filterMap (within? position))

/-- The requests on the select statement that was begun last. -/
def lastWithin (rs : List Request) : List (Select.Request SourceRef) :=
  rs.filterMap (within? ((begun rs).length - 1))

/-- Two series of requests agree on the columns to be filled, and on the select statement that was
begun last and on every clause of it. -/
structure SameLast (rs rs' : List Request) : Prop where
  columns : rs.flatMap named = rs'.flatMap named
  begun : (begun rs).getLast? = (begun rs').getLast?
  within : ∀ columns, (InsertSelect.begun rs).getLast? = some columns →
    (Select.forInsert columns).SameClauses (lastWithin rs) (lastWithin rs')

/-- The insert with the columns of some requests, and with the select statement that the last of
them begins. -/
def complete (i : InsertSelect DraftId) (first : DraftId) (rs : List Request) :
    InsertSelect DraftId :=
  { i with
    columns := i.columns ++ rs.flatMap named
    query? := match (begun rs).length with
      | 0 => i.query?
      | others + 1 => some (first + others) }

section Concat

variable {i : InsertSelect DraftId} {first : DraftId} {rs : List Request} {r : Request}

/-- One more request begins one more select statement at most, behind the others. -/
theorem begun_concat : begun (rs ++ [r]) = begun rs ++ r.begun?.toList := by
  rw [begun, List.filterMap_append, List.filterMap_cons]
  cases r.begun? <;> rfl

theorem within_concat {position : Nat} :
    (rs ++ [r]).filterMap (within? position) =
      rs.filterMap (within? position) ++ (r.within? position).toList := by
  rw [List.filterMap_append, List.filterMap_cons]
  cases r.within? position <;> rfl

theorem complete_concat_columns (added : List Expression) :
    i.complete first (rs ++ [.columns added]) = (i.complete first rs).addColumns added := by
  simp [complete, addColumns, begun_concat, named, begun?]

/-- Beginning a select statement makes the insert take its rows from that one. -/
theorem complete_concat_select (items : List Expression) :
    i.complete first (rs ++ [.select items]) =
      (i.complete first rs).setQuery (first + (begun rs).length) := by
  simp [complete, setQuery, begun_concat, named, begun?]

/-- What is called on a select statement leaves the insert itself as it is. -/
theorem complete_concat_within (position : Nat) (r : Select.Request SourceRef) :
    i.complete first (rs ++ [.within position r]) = i.complete first rs := by
  simp [complete, begun_concat, named, begun?]

end Concat

end InsertSelect

namespace Workbench

open InsertSelect.Request

variable {w w₁ w₂ : Workbench} {id : DraftId}

/-! ### Programs of calls -/

/-- Does the receiver lie on the workbench, a join among those of its draft? -/
def has (w : Workbench) (r : Receiver) : Bool :=
  decide (r.draft < w.drafts.length) && r.join?.all (· < (w.select r.draft).joins.length)

/-- The workbench after a call on a receiver that it has. -/
def request? (w : Workbench) (call : Receiver × Call) : Option Workbench :=
  if w.has call.1 then w.step? (.call call.1 call.2) else none

/-- The workbench after several calls. -/
def requests? (w : Workbench) (calls : List (Receiver × Call)) : Option Workbench :=
  calls.foldlM request? w

/-- A program runs if its first call can be made and the others can be made behind it. -/
theorem requests?_cons {call : Receiver × Call} {calls : List (Receiver × Call)} :
    w.requests? (call :: calls) = some w₂ ↔
      ∃ w₁, w.request? call = some w₁ ∧ w₁.requests? calls = some w₂ := by
  rw [requests?, List.foldlM_cons, Option.bind_eq_bind, Option.bind_eq_some_iff]
  rfl

/-- A call is made exactly if its receiver exists and accepts it. -/
theorem request?_eq_some_iff {r : Receiver} {c : Call} :
    w.request? (r, c) = some w₁ ↔
      (r.draft < w.drafts.length ∧ r.join?.all (· < (w.select r.draft).joins.length)) ∧
        ∃ r₁, Called w r c r₁ w₁ := by
  rw [request?, Option.ite_none_right_eq_some, has, Bool.and_eq_true, decide_eq_true_eq, step?_call]

/-- A draft that is put in a place is found there. -/
theorem draft_replace (inside : id < w.drafts.length) (d : Draft) :
    (w.replace id d).draft id = d := by
  rw [draft, replace, List.getElem?_set_self inside, Option.getD_some]

theorem replace_replace (w : Workbench) (id : DraftId) (d d' : Draft) :
    (w.replace id d).replace id d' = w.replace id d' := by
  rw [replace, replace, replace, List.set_set]

/-- What a request makes of a select draft.  The join that it is made on is one of the draft's, so
the receiver exists exactly if the request is possible on the builder. -/
theorem request?_select {q : Select SourceRef} (atDraft : w.draft id = .select q)
    {r : Select.Request SourceRef} (h : w.request? (⟨id, r.join?⟩, .select r.call) = some w₁) :
    id < w.drafts.length ∧ ∃ q₁, q.request? r = some q₁ ∧ w₁ = w.replace id (.select q₁) := by
  obtain ⟨⟨inside, join⟩, r₁, called⟩ := request?_eq_some_iff.mp h
  have own : w.select id = q := by rw [select, atDraft]
  rw [own] at join
  cases called with
  | @select _ p chain hp hchain =>
    obtain rfl : q = p := Draft.select.inj (atDraft.symm.trans hp)
    refine ⟨inside, chain.query, ?_, rfl⟩
    rw [Select.request?, if_pos join, hchain, Option.map_some]
  | draft _ changed =>
    rw [atDraft] at changed
    cases changed

/-- What a call makes of an update draft. -/
theorem request?_update {u : Update} (atDraft : w.draft id = .update u) {c : Update.Call}
    (h : w.request? (⟨id, none⟩, .update c) = some w₁) :
    id < w.drafts.length ∧ w₁ = w.replace id (.update (u.call c)) := by
  obtain ⟨⟨inside, -⟩, r₁, called⟩ := request?_eq_some_iff.mp h
  cases called with
  | draft _ changed =>
    rw [atDraft] at changed
    cases changed
    exact ⟨inside, rfl⟩

/-- **Calls on a select draft and its joins** change this draft alone, as they change the builder.
Other drafts that draw from it refer to it by its place and are not changed themselves. -/
theorem requests?_select {q : Select SourceRef} (atDraft : w.draft id = .select q)
    {rs : List (Select.Request SourceRef)}
    (h : w.requests? (rs.map fun r => (⟨id, r.join?⟩, .select r.call)) = some w₁) :
    ∃ q₁, q.requests? rs = some q₁ ∧ w₁ = w.replace id (.select q₁) := by
  induction rs generalizing w q with
  | nil =>
    cases h
    refine ⟨q, rfl, ?_⟩
    rw [← atDraft, replace_draft]
  | cons r rs ih =>
    obtain ⟨w₂, first, others⟩ := requests?_cons.mp h
    obtain ⟨inside, q₂, step, rfl⟩ := request?_select atDraft first
    obtain ⟨q₁, run, rfl⟩ := ih (draft_replace inside _) others
    refine ⟨q₁, ?_, replace_replace ..⟩
    rw [Select.requests?, List.foldlM_cons, step]
    exact run

/-- **Calls on an update draft** change this draft alone, as they change the update. -/
theorem requests?_update {u : Update} (atDraft : w.draft id = .update u) {cs : List Update.Call}
    (h : w.requests? (cs.map fun c => (⟨id, none⟩, .update c)) = some w₁) :
    w₁ = w.replace id (.update (cs.foldl Update.call u)) := by
  induction cs generalizing w u with
  | nil =>
    cases h
    rw [List.foldl_nil, ← atDraft, replace_draft]
  | cons c cs ih =>
    obtain ⟨w₂, first, others⟩ := requests?_cons.mp h
    obtain ⟨inside, rfl⟩ := request?_update atDraft first
    rw [ih (draft_replace inside _) others, replace_replace, List.foldl_cons]

/-! ### Calls on an insert of selected rows -/

/-- What some requests on an insert have made of the workbench: the insert has their columns, and
its select statements lie behind the older drafts, each as the requests on it have left it.
Everything about the workbench is determined by this. -/
structure Filled (w : Workbench) (id : DraftId) (i : InsertSelect DraftId)
    (rs : List InsertSelect.Request) (selects : List (Select SourceRef)) (w' : Workbench) :
    Prop where
  workbench : w' =
    { w with
      drafts := w.drafts.set id (.insertSelect (i.complete w.drafts.length rs)) ++
        selects.map .select }
  length : selects.length = (InsertSelect.begun rs).length
  completed : ∀ position q, selects[position]? = some q →
    ∃ columns, (InsertSelect.begun rs)[position]? = some columns ∧
      (Select.forInsert columns).requests? (rs.filterMap (within? position)) = some q
  /-- No request was on a select statement that was not begun. -/
  known : ∀ position, selects.length ≤ position → rs.filterMap (within? position) = []

namespace Filled

variable {i : InsertSelect DraftId} {rs : List InsertSelect.Request}
  {selects : List (Select SourceRef)}

/-- Before the first request no select statement has been begun. -/
theorem nil (atDraft : w.draft id = .insertSelect i) : Filled w id i [] [] w where
  workbench := by
    have whole : i.complete w.drafts.length [] = i := by
      rw [InsertSelect.complete, List.flatMap_nil, List.append_nil]
      rfl
    rw [whole, ← atDraft, List.map_nil, List.append_nil]
    exact (replace_draft w id).symm
  length := rfl
  completed := nofun
  known := fun _ _ => rfl

/-- The select statements that have been begun are all that has been added. -/
theorem length_drafts (h : Filled w id i rs selects w₁) :
    w₁.drafts.length = w.drafts.length + selects.length := by
  rw [h.workbench, List.length_append, List.length_set, List.length_map]

/-- The insert is in its place, with the columns of the requests. -/
theorem draft_insert (h : Filled w id i rs selects w₁) (inside : id < w.drafts.length) :
    w₁.draft id = .insertSelect (i.complete w.drafts.length rs) := by
  rw [draft, h.workbench, List.getElem?_append_left (by rwa [List.length_set]),
    List.getElem?_set_self inside, Option.getD_some]

/-- A select statement is found behind the older drafts, in the order in which it was begun. -/
theorem draft_select (h : Filled w id i rs selects w₁) {position : Nat} {q : Select SourceRef}
    (here : selects[position]? = some q) :
    w₁.draft (w.drafts.length + position) = .select q := by
  have behind : (w.drafts.set id (.insertSelect (i.complete w.drafts.length rs))).length ≤
      w.drafts.length + position := by
    rw [List.length_set]
    exact Nat.le_add_right _ _
  rw [draft, h.workbench, List.getElem?_append_right behind, List.length_set,
    Nat.add_sub_cancel_left, List.getElem?_map, here, Option.map_some, Option.getD_some]

/-- A draft that takes the place of the insert. -/
theorem drafts_set_insert (h : Filled w id i rs selects w₁) (inside : id < w.drafts.length)
    (d : Draft) : w₁.drafts.set id d = w.drafts.set id d ++ selects.map .select := by
  rw [h.workbench, List.set_append_left _ _ (by rwa [List.length_set]), List.set_set]

/-- A draft that takes the place of one of the select statements. -/
theorem drafts_set_select (h : Filled w id i rs selects w₁) (position : Nat)
    (q : Select SourceRef) :
    w₁.drafts.set (w.drafts.length + position) (.select q) =
      w.drafts.set id (.insertSelect (i.complete w.drafts.length rs)) ++
        (selects.set position q).map .select := by
  have behind : (w.drafts.set id (.insertSelect (i.complete w.drafts.length rs))).length ≤
      w.drafts.length + position := by
    rw [List.length_set]
    exact Nat.le_add_right _ _
  rw [h.workbench, List.set_append_right _ _ behind, List.length_set, Nat.add_sub_cancel_left,
    List.map_set]

/-- Further columns fill the insert further and leave the select statements as they are. -/
theorem addColumns (inside : id < w.drafts.length) (h : Filled w id i rs selects w₁)
    (added : List Expression) :
    Filled w id i (rs ++ [.columns added]) selects
      (w₁.replace id (.insertSelect ((i.complete w.drafts.length rs).addColumns added))) where
  workbench := by
    rw [replace, h.drafts_set_insert inside, InsertSelect.complete_concat_columns, h.workbench]
  length := by simp [h.length, InsertSelect.begun_concat, begun?]
  completed := by
    simp only [InsertSelect.begun_concat, InsertSelect.within_concat, begun?, within?,
      Option.toList_none, List.append_nil]
    exact h.completed
  known := by simpa [InsertSelect.within_concat, within?] using h.known

/-- A select statement that is begun lies behind those begun before, and no request has been made on
it yet. -/
theorem beginSelect (inside : id < w.drafts.length) (h : Filled w id i rs selects w₁)
    (items : List Expression) :
    Filled w id i (rs ++ [.select items]) (selects ++ [.forInsert items])
      ((w₁.add (.select (.forInsert items))).2.replace id (.insertSelect
        ((i.complete w.drafts.length rs).setQuery w₁.drafts.length))) where
  workbench := by
    have place : w₁.drafts.length = w.drafts.length + (InsertSelect.begun rs).length := by
      rw [h.length_drafts, h.length]
    have inside₁ : id < w₁.drafts.length := by
      rw [place]
      exact Nat.lt_add_right _ inside
    rw [replace, add, List.set_append_left _ _ inside₁, h.drafts_set_insert inside,
      InsertSelect.complete_concat_select, place, List.append_assoc, List.map_append, h.workbench]
    rfl
  length := by simp [h.length, InsertSelect.begun, begun?]
  completed := by
    intro position q here
    simp only [InsertSelect.begun_concat, InsertSelect.within_concat, begun?, within?,
      Option.toList_some, Option.toList_none, List.append_nil]
    by_cases before : position < selects.length
    · rw [List.getElem?_append_left before] at here
      rw [List.getElem?_append_left (h.length ▸ before)]
      exact h.completed position q here
    · -- nothing has been asked of the select statement that is new
      have behind := Nat.le_of_not_lt before
      rw [List.getElem?_append_right behind, h.length] at here
      rw [List.getElem?_append_right (h.length ▸ behind), h.known position behind]
      cases offset : position - (InsertSelect.begun rs).length with
      | zero =>
        rw [offset] at here
        exact ⟨items, rfl, here⟩
      | succ =>
        rw [offset] at here
        cases here
  known := by
    intro position behind
    rw [List.length_append] at behind
    simpa [InsertSelect.within_concat, within?] using
      h.known position (Nat.le_of_add_right_le behind)

/-- A request on one of the select statements changes that one. -/
theorem within (h : Filled w id i rs selects w₁) {position : Nat} {q q' : Select SourceRef}
    (here : selects[position]? = some q) {r : Select.Request SourceRef}
    (step : q.request? r = some q') :
    Filled w id i (rs ++ [.within position r]) (selects.set position q')
      (w₁.replace (w.drafts.length + position) (.select q')) where
  workbench := by
    rw [replace, h.drafts_set_select, InsertSelect.complete_concat_within, h.workbench]
  length := by simp [h.length, InsertSelect.begun_concat, begun?]
  completed := by
    intro other p there
    have begun : position < selects.length := (List.getElem?_eq_some_iff.mp here).1
    simp only [InsertSelect.begun_concat, InsertSelect.within_concat, begun?, within?,
      Option.toList_none, List.append_nil]
    by_cases same : position = other
    · subst same
      rw [List.getElem?_set_self begun] at there
      cases there
      obtain ⟨columns, given, run⟩ := h.completed position q here
      refine ⟨columns, given, ?_⟩
      rw [if_pos rfl, Option.toList_some]
      exact Select.requests?_concat run step
    · rw [List.getElem?_set_ne same] at there
      rw [if_neg same, Option.toList_none, List.append_nil]
      exact h.completed other p there
  known := by
    intro other behind
    have begun : position < selects.length := (List.getElem?_eq_some_iff.mp here).1
    rw [List.length_set] at behind
    have same : position ≠ other := by omega
    simpa [InsertSelect.within_concat, within?, same] using h.known other behind

/-- **One more request** fills an insert further.  There is one case for each kind of request; that
one on a select statement is on one that has been begun follows from the call having been made. -/
theorem request? (inside : id < w.drafts.length) (h : Filled w id i rs selects w₁)
    {r : InsertSelect.Request} (called : w₁.request? (r.call id w.drafts.length) = some w₂) :
    ∃ selects', Filled w id i (rs ++ [r]) selects' w₂ := by
  have own := h.draft_insert inside
  cases r with
  | columns added =>
    obtain ⟨-, r₁, called⟩ := request?_eq_some_iff.mp called
    cases called with
    | draft _ changed =>
      rw [own] at changed
      cases changed
      exact ⟨selects, h.addColumns inside added⟩
  | select items =>
    obtain ⟨-, r₁, called⟩ := request?_eq_some_iff.mp called
    cases called with
    | @beginSelect _ j _ hj =>
      obtain rfl := Draft.insertSelect.inj (own.symm.trans hj)
      exact ⟨_, h.beginSelect inside items⟩
    | draft _ changed =>
      rw [own] at changed
      cases changed
  | within position r =>
    have there : w.drafts.length + position < w₁.drafts.length :=
      (request?_eq_some_iff.mp called).1.1
    rw [h.length_drafts] at there
    have begun : position < selects.length := Nat.lt_of_add_lt_add_left there
    have here : selects[position]? = some selects[position] := List.getElem?_eq_getElem begun
    obtain ⟨-, q, step, rfl⟩ := request?_select (h.draft_select here) called
    exact ⟨_, h.within here step⟩

/-- **A series of requests** fills an insert. -/
theorem requests? (atDraft : w.draft id = .insertSelect i) (inside : id < w.drafts.length)
    (called : w.requests? (rs.map (·.call id w.drafts.length)) = some w₁) :
    ∃ selects, Filled w id i rs selects w₁ := by
  suffices further : ∀ done selects w', Filled w id i done selects w' →
      w'.requests? (rs.map (·.call id w.drafts.length)) = some w₁ →
      ∃ selects', Filled w id i (done ++ rs) selects' w₁ from
    further [] [] w (nil atDraft) called
  clear called
  induction rs with
  | nil =>
    intro done selects w' h called
    cases called
    exact ⟨selects, (List.append_nil done).symm ▸ h⟩
  | cons r rs ih =>
    intro done selects w' h called
    obtain ⟨w₂, first, others⟩ := requests?_cons.mp called
    obtain ⟨selects', h'⟩ := h.request? inside first
    obtain ⟨selects'', h''⟩ := ih (done ++ [r]) selects' w₂ h' others
    rw [List.append_assoc, List.singleton_append] at h''
    exact ⟨selects'', h''⟩

/-- Requests that agree on every clause make the same workbench: the insert has the same columns,
and each select statement has been completed alike. -/
theorem eq_of_sameClauses {rs' : List InsertSelect.Request} {selects' : List (Select SourceRef)}
    (same : InsertSelect.SameClauses rs rs') (h₁ : Filled w id i rs selects w₁)
    (h₂ : Filled w id i rs' selects' w₂) : w₂ = w₁ := by
  have length : selects'.length = selects.length := by rw [h₁.length, h₂.length, same.begun]
  have selects_eq : selects' = selects := by
    apply List.ext_getElem length
    intro position before' before
    obtain ⟨columns, given, run⟩ := h₁.completed position _ (List.getElem?_eq_getElem before)
    obtain ⟨columns', given', run'⟩ := h₂.completed position _ (List.getElem?_eq_getElem before')
    obtain rfl : columns' = columns := by
      rw [← same.begun, given] at given'
      exact (Option.some.inj given').symm
    exact (same.within position columns' given).eq_of_requests? run run'
  have insert_eq : i.complete w.drafts.length rs' = i.complete w.drafts.length rs := by
    rw [InsertSelect.complete, InsertSelect.complete, same.columns, same.begun]
  rw [h₂.workbench, h₁.workbench, selects_eq, insert_eq]

/-- The select drafts that are older than the requests remain as they are.  The insert is older,
too, but it is no select draft. -/
theorem select_older (atDraft : w.draft id = .insertSelect i) (h : Filled w id i rs selects w₁)
    {part : DraftId} (older : part < w.drafts.length) : w₁.select part = w.select part := by
  by_cases own : part = id
  · subst own
    rw [select, select, h.draft_insert older, atDraft]
  · have same : w₁.draft part = w.draft part := by
      rw [draft, h.workbench, List.getElem?_append_left (by rwa [List.length_set]),
        List.getElem?_set_ne (Ne.symm own), draft]
    rw [select, select, same]

/-- The insert as it is rendered: with the columns of the requests, and with the select statement
that was begun last. -/
theorem render_insert (inside : id < w.drafts.length) (h : Filled w id i rs selects w₁)
    (records : Records) (dialect : Dialect) :
    w₁.render records id dialect =
      (InsertSelect.render ⟨i.table, i.columns ++ rs.flatMap named,
        (i.complete w.drafts.length rs).query?.map (w₁.query records)⟩ dialect).map
          fun r => .statement (.insertSelect r) := by
  rw [render, h.draft_insert inside]
  exact (map_eq_pure_bind ..).symm

/-- The select statement that was begun last is the one whose rows are inserted. -/
theorem last (h : Filled w id i rs selects w₁) {columns : List Expression}
    (given : (InsertSelect.begun rs).getLast? = some columns) :
    ∃ place q, (i.complete w.drafts.length rs).query? = some place ∧ w.drafts.length ≤ place ∧
      place < w₁.drafts.length ∧ w₁.select place = q ∧
      (Select.forInsert columns).requests? (InsertSelect.lastWithin rs) = some q := by
  rw [List.getLast?_eq_getElem?] at given
  have last := (List.getElem?_eq_some_iff.mp given).1
  obtain ⟨others, length⟩ : ∃ others, (InsertSelect.begun rs).length = others + 1 :=
    Nat.exists_eq_succ_of_ne_zero (by omega)
  have before : others < selects.length := by
    rw [h.length, length]
    exact Nat.lt_succ_self others
  have here : selects[others]? = some selects[others] := List.getElem?_eq_getElem before
  obtain ⟨columns', given', run⟩ := h.completed others _ here
  rw [length, Nat.add_sub_cancel] at given
  obtain rfl : columns = columns' := Option.some.inj (given.symm.trans given')
  refine ⟨w.drafts.length + others, selects[others], ?_, Nat.le_add_right _ _, ?_, ?_, ?_⟩
  · simp only [InsertSelect.complete, length]
  · rw [h.length_drafts]
    exact Nat.add_lt_add_left before _
  · rw [select, h.draft_select here]
  · rw [InsertSelect.lastWithin, length, Nat.add_sub_cancel]
    exact run

/-- Requests that agree on the columns and on the select statement that was begun last render the
insert alike, if this statement draws from drafts that are older.  The workbench has to be closed,
so that what is drawn from indirectly is older as well. -/
theorem render_eq_of_sameLast (atDraft : w.draft id = .insertSelect i)
    (inside : id < w.drafts.length) (closed : w.IsClosed) {rs' : List InsertSelect.Request}
    {selects' : List (Select SourceRef)} (same : InsertSelect.SameLast rs rs')
    (older : ∀ r ∈ InsertSelect.lastWithin rs, ∀ part,
      r.drawn? = some (.draft part) → part < w.drafts.length)
    (h₁ : Filled w id i rs selects w₁) (h₂ : Filled w id i rs' selects' w₂) (records : Records)
    (dialect : Dialect) : w₂.render records id dialect = w₁.render records id dialect := by
  cases last : (InsertSelect.begun rs).getLast? with
  | none =>
    have last' := same.begun.symm.trans last
    rw [List.getLast?_eq_none_iff] at last last'
    have all : InsertSelect.SameClauses rs rs' :=
      ⟨same.columns, last.trans last'.symm, fun position columns given => by
        rw [last] at given
        cases given⟩
    rw [eq_of_sameClauses all h₁ h₂]
  | some columns =>
    obtain ⟨place₁, q, query₁, behind₁, room₁, select₁, run₁⟩ := h₁.last last
    obtain ⟨place₂, q₂, query₂, behind₂, room₂, select₂, run₂⟩ :=
      h₂.last (same.begun.symm.trans last)
    obtain rfl : q₂ = q := (same.within columns last).eq_of_requests? run₁ run₂
    -- The select statement of the insert draws from drafts that were there before the calls.  These
    -- are the same in both workbenches, however many select statements were begun since, so the
    -- query read for it is the same.
    have drawn (part : DraftId) (source : .draft part ∈ q₂.sources) : part < w.drafts.length := by
      rw [Select.eq_complete_of_requests? run₁] at source
      rcases Select.mem_sources_complete source with none | ⟨r, hr, given⟩
      · cases none
      · exact older r hr part given
    have below (part : DraftId) (before : part < w.drafts.length) (source : DraftId)
        (mem : .draft source ∈ (w₁.select part).sources) : source < w.drafts.length := by
      rw [h₁.select_older atDraft before] at mem
      exact closed part source (mem_parts_of_source mem)
    have same_query : w₂.query records place₂ = w₁.query records place₁ := by
      have few := card_unopened_le w.drafts.length [place₁]
      rw [query, query, select₁, select₂]
      refine (queryWithin_congr (fun part before => ?_) below (fun part before => ?_) ?_ ?_
        drawn).symm
      · rw [h₁.select_older atDraft before, h₂.select_older atDraft before]
      · rw [List.mem_singleton, List.mem_singleton]
        omega
      · exact lt_of_le_of_lt (few.trans behind₁) room₁
      · exact lt_of_le_of_lt (few.trans behind₂) room₂
    rw [h₁.render_insert inside, h₂.render_insert inside, query₁, query₂, same.columns,
      Option.map_some, Option.map_some, same_query]

end Filled

/-! ### Calls of different clauses commute -/

/-- **Calls of different clauses commute.**  Two series of calls on a select draft, made on the
draft or on joins that it has returned, that agree on every clause lead to workbenches on which
every draft is rendered alike, whether it is written or refused: they agree on the source that was
given last, on the joins and the criteria of each, on the criteria of the restriction, on the
expressions of the grouping and of the sort order, and on the limit and the offset that were given
last.  So do two series of calls on an update draft that agree on what is set and on the criteria,
and two on an insert of selected rows, and on the select drafts that it begins, that agree on the
columns and on every clause of these select drafts.  If those agree only on the columns and on the
select draft that was begun last, the insert at least is rendered alike, provided that this draft
draws from drafts that were there before. -/
theorem clause_calls_commute :
    (∀ (w w₁ w₂ : Workbench) (id : DraftId) (q : Select SourceRef)
      (rs rs' : List (Select.Request SourceRef)),
      w.draft id = .select q → q.SameClauses rs rs' →
      w.requests? (rs.map fun r => (⟨id, r.join?⟩, .select r.call)) = some w₁ →
      w.requests? (rs'.map fun r => (⟨id, r.join?⟩, .select r.call)) = some w₂ →
      ∀ records other dialect,
        w₂.render records other dialect = w₁.render records other dialect) ∧
    (∀ (w w₁ w₂ : Workbench) (id : DraftId) (u : Update) (cs cs' : List Update.Call),
      w.draft id = .update u → Update.SameClauses cs cs' →
      w.requests? (cs.map fun c => (⟨id, none⟩, .update c)) = some w₁ →
      w.requests? (cs'.map fun c => (⟨id, none⟩, .update c)) = some w₂ →
      ∀ records other dialect,
        w₂.render records other dialect = w₁.render records other dialect) ∧
    ∀ (w w₁ w₂ : Workbench) (id : DraftId) (i : InsertSelect DraftId)
      (rs rs' : List InsertSelect.Request),
      w.draft id = .insertSelect i →
      w.requests? (rs.map (·.call id w.drafts.length)) = some w₁ →
      w.requests? (rs'.map (·.call id w.drafts.length)) = some w₂ →
      (InsertSelect.SameClauses rs rs' → ∀ records other dialect,
        w₂.render records other dialect = w₁.render records other dialect) ∧
      (InsertSelect.SameLast rs rs' → w.IsClosed →
        (∀ r ∈ InsertSelect.lastWithin rs, ∀ part,
          r.drawn? = some (.draft part) → part < w.drafts.length) →
        ∀ records dialect, w₂.render records id dialect = w₁.render records id dialect) := by
  refine ⟨?_, ?_, ?_⟩
  · intro w w₁ w₂ id q rs rs' atDraft same called₁ called₂ records other dialect
    obtain ⟨q₁, run₁, rfl⟩ := requests?_select atDraft called₁
    obtain ⟨q₂, run₂, rfl⟩ := requests?_select atDraft called₂
    rw [same.eq_of_requests? run₁ run₂]
  · intro w w₁ w₂ id u cs cs' atDraft same called₁ called₂ records other dialect
    rw [requests?_update atDraft called₁, requests?_update atDraft called₂, same.foldl_call]
  · intro w w₁ w₂ id i rs rs' atDraft called₁ called₂
    obtain ⟨inside, -⟩ := List.getElem?_eq_some_iff.mp (getElem?_of_draft atDraft)
    obtain ⟨selects₁, h₁⟩ := Filled.requests? atDraft inside called₁
    obtain ⟨selects₂, h₂⟩ := Filled.requests? atDraft inside called₂
    constructor
    · intro same records other dialect
      rw [Filled.eq_of_sameClauses same h₁ h₂]
    · intro same closed older records dialect
      exact Filled.render_eq_of_sameLast atDraft inside closed same older h₁ h₂ records dialect

/-- A workbench with a selection of names, an update and an insert of selected rows. -/
def drafting : Workbench :=
  { drafts := [.select (.ofColumns [people.column "name"]), .update ⟨people, [], []⟩,
      .insertSelect ⟨people, [], none⟩] }

/-- A second table. -/
def jobs : Table := ⟨1, "jobs", none⟩

/-- One of its columns. -/
def jobs.column (name : String) : Expression := .column (.plain name jobs none)

/-- A condition on an age. -/
def older (age : Int) : Condition := .compare .greater (.int age) false

/-- The clauses of a selection in the order in which they are written; the join is completed and
left, and the limit is given twice. -/
def inOrder : List (Select.Request SourceRef) :=
  [⟨none, .from (.table people) none⟩, ⟨none, .join .left (.table jobs) (some "j")⟩,
    ⟨some 0, .on (jobs.column "person") (.equalTo (people.column "id"))⟩,
    ⟨some 0, .and (jobs.column "age") (older 2) []⟩,
    ⟨some 0, .restrict (people.column "age") (older 3) []⟩,
    ⟨none, .and (people.column "age") (older 4) []⟩,
    ⟨none, .orderBy [people.column "name"]⟩, ⟨none, .limit (some (.int 7))⟩,
    ⟨none, .limit (some (.int 5))⟩]

/-- The same clauses, with the calls on the join between those on the selection. -/
def interleaved : List (Select.Request SourceRef) :=
  [⟨none, .restrict (people.column "age") (older 3) []⟩, ⟨none, .limit (some (.int 5))⟩,
    ⟨none, .join .left (.table jobs) (some "j")⟩,
    ⟨some 0, .on (jobs.column "person") (.equalTo (people.column "id"))⟩,
    ⟨none, .and (people.column "age") (older 4) []⟩,
    ⟨some 0, .orderBy [people.column "name"]⟩, ⟨none, .from (.table people) none⟩,
    ⟨some 0, .and (jobs.column "age") (older 2) []⟩]

/-- An update that drops the names of some people: what is set, then the restriction. -/
def settingFirst : List Update.Call :=
  [.set (people.column "name") .null, .restrict .and (people.column "age") (older 3) []]

/-- The same clauses, with what is set in the end. -/
def settingLast : List Update.Call :=
  [.restrict .and (people.column "age") (older 3) [], .set (people.column "name") .null]

/-- An insert of the names of some people: its column, then its select statement. -/
def columnFirst : List InsertSelect.Request :=
  [.columns [people.column "name"], .select [people.column "name"],
    .within 0 ⟨none, .from (.table people) none⟩,
    .within 0 ⟨none, .restrict (people.column "age") (older 3) []⟩]

/-- The same clauses, with the column in the end. -/
def columnLast : List InsertSelect.Request :=
  [.select [people.column "name"], .within 0 ⟨none, .restrict (people.column "age") (older 3) []⟩,
    .within 0 ⟨none, .from (.table people) none⟩, .columns [people.column "name"]]

/-- The same insert, after a select statement that is given up. -/
def begunAgain : List InsertSelect.Request :=
  [.select [people.column "age"], .within 0 ⟨none, .from (.draft 0) none⟩,
    .columns [people.column "name"], .select [people.column "name"],
    .within 1 ⟨none, .restrict (people.column "age") (older 3) []⟩,
    .within 1 ⟨none, .from (.table people) none⟩]

/-- The workbench is closed: the drafts on it draw from none. -/
theorem isClosed_drafting : drafting.IsClosed := by
  intro whole part source
  match whole, source with
  | 0, source => cases source
  | 1, source => cases source
  | 2, source => cases source
  | _ + 3, source => cases source

set_option maxRecDepth 2000 in
/-- The clauses of the samples come to the same statement in either order, and the select statement
that is given up leaves no trace. -/
theorem clause_calls_commute_sample :
    (∃ w₁ w₂ : Workbench,
      drafting.requests? (inOrder.map fun r => (⟨0, r.join?⟩, .select r.call)) = some w₁ ∧
      drafting.requests? (interleaved.map fun r => (⟨0, r.join?⟩, .select r.call)) = some w₂ ∧
      w₂.render [] 0 .generic = w₁.render [] 0 .generic ∧
      w₁.render [] 0 .generic = .ok (.statement (.select ⟨"SELECT name FROM people " ++
        "LEFT JOIN jobs j ON j.person = id AND j.age > :p1 WHERE age > :p2 AND age > :p3 " ++
        "ORDER BY name LIMIT :p4",
        [("p1", .int 2), ("p2", .int 3), ("p3", .int 4), ("p4", .int 5)]⟩))) ∧
    (∃ w₁ w₂ : Workbench,
      drafting.requests? (settingFirst.map fun c => (⟨1, none⟩, .update c)) = some w₁ ∧
      drafting.requests? (settingLast.map fun c => (⟨1, none⟩, .update c)) = some w₂ ∧
      w₂.render [] 1 .generic = w₁.render [] 1 .generic ∧
      w₁.render [] 1 .generic = .ok (.statement (.update
        ⟨"UPDATE people SET name = NULL WHERE age > :p1", [("p1", .int 3)]⟩))) ∧
    ∃ w₁ w₂ w₃ : Workbench,
      drafting.requests? (columnFirst.map (·.call 2 drafting.drafts.length)) = some w₁ ∧
      drafting.requests? (columnLast.map (·.call 2 drafting.drafts.length)) = some w₂ ∧
      drafting.requests? (begunAgain.map (·.call 2 drafting.drafts.length)) = some w₃ ∧
      w₂.render [] 2 .generic = w₁.render [] 2 .generic ∧
      w₃.render [] 2 .generic = w₁.render [] 2 .generic ∧
      w₁.render [] 2 .generic = .ok (.statement (.insertSelect
        ⟨"INSERT INTO people (name) SELECT name FROM people WHERE age > :p1",
          [("p1", .int 3)]⟩)) := by
  have clauses : (Select.ofColumns [people.column "name"]).SameClauses inOrder interleaved :=
    ⟨rfl, rfl, fun position => by cases position <;> rfl, rfl, rfl, rfl, rfl, rfl⟩
  have filled : (Select.forInsert [people.column "name"]).SameClauses
      (InsertSelect.lastWithin columnFirst) (InsertSelect.lastWithin columnLast) :=
    ⟨rfl, rfl, fun _ => rfl, rfl, rfl, rfl, rfl, rfl⟩
  have all : InsertSelect.SameClauses columnFirst columnLast := by
    refine ⟨rfl, rfl, ?_⟩
    rintro (_ | position) columns given
    · cases given
      exact filled
    · cases given
  have last : InsertSelect.SameLast columnFirst begunAgain := by
    refine ⟨rfl, rfl, ?_⟩
    rintro columns given
    cases given
    exact ⟨rfl, rfl, fun _ => rfl, rfl, rfl, rfl, rfl, rfl⟩
  have drawn : ∀ r ∈ InsertSelect.lastWithin columnFirst, ∀ part,
      r.drawn? = some (.draft part) → part < drafting.drafts.length := by
    rintro r (_ | ⟨_, _ | ⟨_, _ | _⟩⟩) part ⟨⟩
  obtain ⟨selected, updated, inserted⟩ := clause_calls_commute
  refine ⟨⟨_, _, rfl, rfl, ?_, ?_⟩, ⟨_, _, rfl, rfl, ?_, ?_⟩, _, _, _, rfl, rfl, rfl, ?_, ?_, ?_⟩
  · exact selected drafting _ _ 0 _ inOrder interleaved rfl clauses rfl rfl [] 0 .generic
  · rfl
  · exact updated drafting _ _ 1 _ settingFirst settingLast rfl ⟨rfl, rfl⟩ rfl rfl [] 1 .generic
  · rfl
  · exact (inserted drafting _ _ 2 _ columnFirst columnLast rfl rfl rfl).1 all [] 2 .generic
  · exact (inserted drafting _ _ 2 _ columnFirst begunAgain rfl rfl rfl).2 last
      isClosed_drafting drawn [] .generic
  · rfl

end Workbench

end BoundSql
