import BoundSql.Proofs.Results
import BoundSql.Workbench

/-!
# What calls make of drafts

Calls complete the drafts on a workbench.  They leave every draft in its place, and they make no
other kind of draft of it: it is about the same records, and it stands for a statement of the same
kind.

A draft is known by its place, and a call can change more than one place.  One that is made on a
select statement within an insert changes the draft of the select statement, and one that begins
such a statement adds a draft and changes the insert.  So what calls do is said for all drafts of
the workbench (`Workbench.exists_continues_call?`), also for those that the call is not made on.

Both the subject and the kind are kept: the kind of a select draft says whether it was begun for an
insert, for a count or by itself, and is not part of its subject.

Few calls can be refused.  What is refused is a mapping in an insert of records, since only these
decide what they accept before they are rendered.

* `Draft.subject`, `Draft.kind` : what a draft is about, and the kind of its statement.
* `Draft.Continues` : what a draft is to the one that calls have made of it.
* `Workbench.exists_continues_call?` : what a call makes of the drafts.
* `Workbench.exists_call_of_call?` : what calls are refused.
-/

namespace BoundSql

/-! ### A single draft -/

namespace Draft

/-- The records that a draft inserts. -/
def records : Draft → List RecordId
  | .insertRow i => [i.row]
  | .insertBatch i => i.records
  | .insertMultiple i => i.records
  | _ => []

/-- Does a draft stand for a batch? -/
def isBatch : Draft → Bool
  | .insertBatch _ => true
  | _ => false

/-- What a draft is about: its kind and its records. -/
def subject (d : Draft) : String × List RecordId := (d.kindName, d.records)

/-- The kind of statement that a draft stands for. -/
def kind : Draft → StatementKind
  | .select q => q.kind
  | .delete _ => .delete
  | .update _ => .update
  | .insertRow _ => .insert
  | .insertBatch _ => .insertBatch
  | .insertMultiple _ => .insertMultiple
  | .insertValues _ => .insertInto
  | .insertSelect _ => .insertSelect

/-- Whether a draft stands for a batch is seen from its subject. -/
theorem isBatch_of_subject {d d' : Draft} (same : d.subject = d'.subject) :
    d.isBatch = d'.isBatch := by
  have named : ∀ d : Draft, d.isBatch = decide (d.kindName = "BatchInsertDSL") := by
    intro d
    cases d <;> rfl
  rw [named, named, show d.kindName = d'.kindName from congrArg Prod.fst same]

/-- The first draft is one that calls can have made of the second. -/
structure Continues (d' d : Draft) : Prop where
  subject : d'.subject = d.subject
  kind : d'.kind = d.kind

namespace Continues

variable {d d' d'' : Draft}

theorem refl (d : Draft) : d.Continues d := ⟨rfl, rfl⟩

theorem trans (h' : d''.Continues d') (h : d'.Continues d) : d''.Continues d :=
  ⟨h'.subject.trans h.subject, h'.kind.trans h.kind⟩

/-- Calls make a select draft of a select draft only, and one of the same kind. -/
theorem exists_select {q : Select SourceRef} (h : d'.Continues (.select q)) :
    ∃ q', d' = .select q' ∧ q'.kind = q.kind := by
  have named := congrArg Prod.fst h.subject
  cases d' with
  | select q' => exact ⟨q', rfl, h.kind⟩
  | _ => simp [Draft.subject, kindName] at named

end Continues

end Draft

/-- A call on a select statement leaves its kind alone, wherever in the statement it is made. -/
theorem Select.Chain.kind_call? {σ : Type} {chain chain' : Chain σ} {c : Call σ}
    (h : chain.call? c = some chain') : chain'.query.kind = chain.query.kind := by
  obtain ⟨q, join?⟩ := chain
  cases c <;> cases join? <;> cases h <;> rfl

/-! ### The drafts of a workbench -/

namespace Workbench

variable {w w' : Workbench}

/-- A further draft makes no difference to those that are there. -/
theorem getElem?_add {place : DraftId} {d : Draft} (present : w.drafts[place]? = some d)
    (further : Draft) : (w.add further).2.drafts[place]? = some d := by
  obtain ⟨bound, -⟩ := List.getElem?_eq_some_iff.mp present
  rw [add, List.getElem?_append_left bound, present]

/-- Where there is no draft a selection stands in its place, and no insert. -/
theorem getElem?_of_draft {place : DraftId} {i : InsertSelect DraftId}
    (h : w.draft place = .insertSelect i) : w.drafts[place]? = some (.insertSelect i) := by
  rw [draft] at h
  cases present : w.drafts[place]? with
  | none => rw [present] at h; cases h
  | some d => rw [present] at h; exact congrArg some h

/-- A draft that is replaced by one that continues it is the only one that changes.  All places are
as they were, also where there was no draft. -/
theorem exists_continues_replace {place : DraftId} {d : Draft}
    (continues : d.Continues (w.draft place)) {id : DraftId} {d₀ : Draft}
    (present : w.drafts[id]? = some d₀) :
    ∃ d', (w.replace place d).drafts[id]? = some d' ∧ d'.Continues d₀ := by
  by_cases here : place = id
  · subst here
    obtain ⟨bound, -⟩ := List.getElem?_eq_some_iff.mp present
    rw [draft, present] at continues
    exact ⟨d, List.getElem?_set_self bound, continues⟩
  · exact ⟨d₀, (List.getElem?_set_ne here).trans present, .refl d₀⟩

/-- A further mapping is no change of the subject. -/
theorem continues_addMapping? {m : Mapping} {d d' : Draft} (h : addMapping? m d = some d') :
    d'.Continues d := by
  cases d <;> cases h <;> exact ⟨rfl, rfl⟩

/-- A call that concerns one draft alone makes no other kind of draft of it.  There is one case for
each call, and in each the draft has to be of the kind that the call is for. -/
theorem continues_callDraft? {c : Call} {d d' : Draft} (h : callDraft? c d = some (.ok d')) :
    d'.Continues d := by
  unfold callDraft? at h
  split at h
  case h_3 | h_4 | h_5 =>
    -- a mapping may be refused, and then there is no draft
    obtain ⟨target, -, made⟩ := map_eq_ok_iff.mp (Option.some.inj h)
    rw [← made]
    exact ⟨rfl, rfl⟩
  case h_8 =>
    obtain ⟨d'', added, same⟩ := Option.map_eq_some_iff.mp h
    rw [← Except.ok.inj same]
    exact continues_addMapping? added
  case h_9 => cases h
  all_goals
    rw [← Except.ok.inj (Option.some.inj h)]
    exact ⟨rfl, rfl⟩

/-- **Every call leaves all drafts in their places**, and makes no other kind of draft of any, also
of those that it is not made on. -/
theorem exists_continues_call? {r r' : Receiver} {c : Call}
    (h : w.call? r c = some (.ok (r', w'))) {id : DraftId} {d : Draft}
    (present : w.drafts[id]? = some d) :
    ∃ d', w'.drafts[id]? = some d' ∧ d'.Continues d := by
  unfold call? at h
  split at h
  case h_1 q hq =>
    obtain ⟨chain, called, same⟩ := Option.map_eq_some_iff.mp h
    cases same
    have continues : (Draft.select chain.query).Continues (w.draft r.draft) := by
      rw [hq]
      exact ⟨rfl, Select.Chain.kind_call? called⟩
    exact exists_continues_replace continues present
  case h_2 columns i _ hi =>
    rw [← (Prod.mk.inj (Except.ok.inj (Option.some.inj h))).2]
    -- the select statement is begun behind the drafts that are there
    have continues : (Draft.insertSelect (i.setQuery w.drafts.length)).Continues
        ((w.add (.select (.forInsert columns))).2.draft r.draft) := by
      rw [draft, getElem?_add (getElem?_of_draft hi)]
      exact ⟨rfl, rfl⟩
    exact exists_continues_replace continues (getElem?_add present _)
  case h_3 =>
    obtain ⟨result, called, same⟩ := Option.map_eq_some_iff.mp h
    obtain ⟨d', rfl, same⟩ := map_eq_ok_iff.mp same
    cases same
    exact exists_continues_replace (continues_callDraft? called) present
  case h_4 => cases h

/-- What is refused of a draft alone is a mapping, in an insert of records.  The error names the
kind of that insert. -/
theorem exists_call_of_callDraft? {c : Call} {d : Draft} {e : Error}
    (h : callDraft? c d = some (.error e)) :
    ∃ (t : RowTarget) (c : RowTarget.Call), t.call d.kind c = .error e := by
  unfold callDraft? at h
  split at h
  case h_3 c i | h_4 c i | h_5 c i =>
    exact ⟨i.target, c, map_eq_error_iff.mp (Option.some.inj h)⟩
  case h_8 m =>
    obtain ⟨d', -, same⟩ := Option.map_eq_some_iff.mp h
    cases same
  all_goals cases h

/-- **Every call that is refused** is one on an insert of records. -/
theorem exists_call_of_call? {r : Receiver} {c : Call} {e : Error}
    (h : w.call? r c = some (.error e)) :
    ∃ (t : RowTarget) (c : RowTarget.Call), t.call (w.draft r.draft).kind c = .error e := by
  unfold call? at h
  split at h
  case h_1 =>
    obtain ⟨chain, -, same⟩ := Option.map_eq_some_iff.mp h
    cases same
  case h_2 => cases h
  case h_3 d _ _ =>
    obtain ⟨result, hresult, same⟩ := Option.map_eq_some_iff.mp h
    rw [map_eq_error_iff.mp same] at hresult
    exact exists_call_of_callDraft? hresult
  case h_4 => cases h

end Workbench

end BoundSql
