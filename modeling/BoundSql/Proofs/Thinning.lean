import BoundSql.Proofs.Thinning.Row
import BoundSql.Proofs.Thinning.Select
import BoundSql.Workbench

/-!
# Declining calls

A call that adds a criterion or a setting which declines is without effect, and one that counts only
when its value is present is the plain one when it is.  Calls are made on drafts that may be sources
of each other, so the statement is about a whole program of calls: leaving out any declining calls,
and making any present ones plain, no draft is rendered differently.  A call names what it is made
on, so that leaving one out does not redirect those behind it.

## Why programs

Of a single statement it would be enough to say that its text does not change when a criterion is
left out.  But a draft is rendered with what its sources are at that moment, and calls on a source
can come before or behind those on the draft.  A declining call is without effect if no draft can
ever tell whether it was made, whatever is called afterwards.

So the workbench with the call and the one without it are related, and the relation is shown to be
kept by every step that both programs make (`Workbench.Thins.step?`), and by a declining step that
only the first one makes (`Workbench.Thins.step?_declines`).  A run preserves it by induction over
the relation between the programs (`Workbench.Thins.run?`).  That related workbenches render alike
is a statement about one moment, and the induction there is over the depth to which drafts are
sources of each other (`Workbench.Thins.render`).

## What is assumed

The first program has to go through.  A program that stops at a call that is refused has no drafts
to compare, and a declining call may be refused as well as any other, for example because it is made
on a draft of another kind.

* `Workbench.Step`, `Workbench.run?` : a program that builds statements.
* `Workbench.Program.Thins` : the programs that a program is thinned to.
* `Workbench.Thins.step?`, `Workbench.Thins.run?` : what one step preserves, and a whole program.
* `Workbench.declining_calls` : a thinned program builds drafts that are rendered as before; the
  insert of one record is rendered as if a mapping whose property is null were absent.
-/

namespace BoundSql

/-! ### Drafts -/

/-- The other draft is the first one thinned.  Inserts of records and of selected rows are thinned
to themselves only: their calls have no values that could be absent. -/
inductive Draft.Thins : Draft → Draft → Prop
  | select {q q' : Select SourceRef} : q.Thins q' → Thins (.select q) (.select q')
  | delete {d d' : Delete} : d.Thins d' → Thins (.delete d) (.delete d')
  | update {u u' : Update} : u.Thins u' → Thins (.update u) (.update u')
  | insertValues {i i' : InsertValues} : i.Thins i' → Thins (.insertValues i) (.insertValues i')
  | insertRow (i : InsertRow RecordId) : Thins (.insertRow i) (.insertRow i)
  | insertBatch (i : InsertBatch RecordId) : Thins (.insertBatch i) (.insertBatch i)
  | insertMultiple (i : InsertMultiple RecordId) : Thins (.insertMultiple i) (.insertMultiple i)
  | insertSelect (i : InsertSelect DraftId) : Thins (.insertSelect i) (.insertSelect i)

/-- Every draft may be left as it is. -/
theorem Draft.Thins.refl (d : Draft) : d.Thins d := by
  cases d with
  | select q => exact .select (.refl q)
  | delete d => exact .delete ⟨rfl, .refl _⟩
  | update u => exact .update ⟨rfl, .refl _, .refl _⟩
  | insertValues i => exact .insertValues ⟨rfl, .refl _⟩
  | insertRow i => exact .insertRow i
  | insertBatch i => exact .insertBatch i
  | insertMultiple i => exact .insertMultiple i
  | insertSelect i => exact .insertSelect i

namespace Workbench

/-- The other workbench is the first one with some drafts thinned. -/
structure Thins (w w' : Workbench) : Prop where
  others : w' = { w with drafts := w'.drafts }
  drafts : List.Forall₂ Draft.Thins w.drafts w'.drafts

/-- A draft that takes its own place changes nothing. -/
theorem replace_draft (w : Workbench) (id : DraftId) : w.replace id (w.draft id) = w := by
  by_cases inside : id < w.drafts.length
  · have own : w.draft id = w.drafts[id] := by
      rw [draft, List.getElem?_eq_getElem inside, Option.getD_some]
    show ({ w with drafts := w.drafts.set id (w.draft id) } : Workbench) = w
    rw [own, List.set_getElem_self]
  · show ({ w with drafts := w.drafts.set id (w.draft id) } : Workbench) = w
    rw [List.set_eq_of_length_le (Nat.le_of_not_lt inside)]

namespace Thins

variable {w w' : Workbench}

theorem refl (w : Workbench) : w.Thins w := ⟨rfl, List.forall₂_same.mpr fun d _ => .refl d⟩

theorem draft (h : w.Thins w') (id : DraftId) : (w.draft id).Thins (w'.draft id) := by
  unfold Workbench.draft
  have length := h.drafts.length_eq
  by_cases inside : id < w.drafts.length
  · rw [List.getElem?_eq_getElem inside, List.getElem?_eq_getElem (length ▸ inside)]
    exact (List.forall₂_iff_get.mp h.drafts).2 id inside (length ▸ inside)
  · rw [List.getElem?_eq_none (Nat.le_of_not_lt inside),
      List.getElem?_eq_none (length ▸ Nat.le_of_not_lt inside)]
    exact .refl _

theorem add (h : w.Thins w') (d : Draft) :
    (w'.add d).1 = (w.add d).1 ∧ (w.add d).2.Thins (w'.add d).2 := by
  refine ⟨h.drafts.length_eq.symm, ?_, ?_⟩
  · show ({ w' with drafts := w'.drafts ++ [d] } : Workbench) =
      { w with drafts := w'.drafts ++ [d] }
    rw [h.others]
  · exact List.rel_append h.drafts (.cons (.refl d) .nil)

theorem replace (h : w.Thins w') (id : DraftId) {d d' : Draft} (thin : d.Thins d') :
    (w.replace id d).Thins (w'.replace id d') := by
  constructor
  · show ({ w' with drafts := w'.drafts.set id d' } : Workbench) =
      { w with drafts := w'.drafts.set id d' }
    rw [h.others]
  · show List.Forall₂ Draft.Thins (w.drafts.set id d) (w'.drafts.set id d')
    rw [List.set_eq_modify, List.set_eq_modify]
    exact forall₂_modify h.drafts id fun _ _ _ => thin

end Thins

/-! ### Calls -/

/-- The other call is the same, or its criterion or setting is made plain.  Nothing of its receiver
is said here; both calls are made on the same one. -/
inductive Call.Plain : Call → Call → Prop
  | select {c c' : Select.Call SourceRef} : c.Plain c' → Plain (.select c) (.select c')
  | delete {connector : Connector} {column : Expression} {condition condition' : Condition}
      {group group' : List Criterion} : condition.Plain condition' → Criterion.Thins group group' →
      Plain (.delete (.restrict connector column condition group))
        (.delete (.restrict connector column condition' group'))
  | update {connector : Connector} {column : Expression} {condition condition' : Condition}
      {group group' : List Criterion} : condition.Plain condition' → Criterion.Thins group group' →
      Plain (.update (.restrict connector column condition group))
        (.update (.restrict connector column condition' group'))
  | updateSet {column : Expression} {s s' : Update.Setting} : s.origin.Plain s'.origin →
      Plain (.update (.set column s)) (.update (.set column s'))
  | insertSet {column : Expression} {s s' : InsertValues.Setting} : s.origin.Plain s'.origin →
      Plain (.insertValues (.set column s)) (.insertValues (.set column s'))
  | insertRecords (c : RowTarget.Call) : Plain (.insertRecords c) (.insertRecords c)
  | addColumns (columns : List Expression) : Plain (.addColumns columns) (.addColumns columns)
  | beginSelect (columns : List Expression) : Plain (.beginSelect columns) (.beginSelect columns)
  | addMapping (m : Mapping) : Plain (.addMapping m) (.addMapping m)

/-- The call, made on a draft or on one of its joins, is without effect: it adds a criterion of
which nothing is written, or a setting for a value that is absent. -/
inductive Call.Declines (join? : Option Nat) : Call → Prop
  | select {c : Select.Call SourceRef} : c.Declines join? → Declines join? (.select c)
  | delete {connector : Connector} {column : Expression} {condition : Condition}
      {group : List Criterion} : condition.renders = false → Criterion.Thins group [] →
      Declines join? (.delete (.restrict connector column condition group))
  | update {connector : Connector} {column : Expression} {condition : Condition}
      {group : List Criterion} : condition.renders = false → Criterion.Thins group [] →
      Declines join? (.update (.restrict connector column condition group))
  | updateSet {column : Expression} :
      Declines join? (.update (.set column (.valueWhenPresent .null)))
  | insertSet {column : Expression} :
      Declines join? (.insertValues (.set column (.valueWhenPresent .null)))

/-- A call that concerns one draft alone leads from the draft and a thinned one to such a pair
again.  The cases are those of drafts and of the calls that they know; on a draft of another kind
there is no call, and nothing to show. -/
theorem callDraft?_thins {d d' d₁ : Draft} (h : d.Thins d') {c c' : Call} (plain : c.Plain c')
    (called : callDraft? c d = some (.ok d₁)) :
    ∃ d₁', callDraft? c' d' = some (.ok d₁') ∧ d₁.Thins d₁' := by
  cases plain with
  | select => cases d <;> cases called
  | beginSelect columns => cases d <;> cases called
  | delete condition members =>
      cases h with
      | delete thin =>
          cases called
          exact ⟨_, rfl, .delete ⟨thin.table, thin.criteria.concat _ _ condition members⟩⟩
      | _ => cases called
  | update condition members =>
      cases h with
      | update thin =>
          cases called
          exact ⟨_, rfl, .update
            ⟨thin.table, thin.mappings, thin.criteria.concat _ _ condition members⟩⟩
      | _ => cases called
  | updateSet origin =>
      cases h with
      | update thin =>
          cases called
          exact ⟨_, rfl, .update ⟨thin.table, thin.mappings.concat _ origin, thin.criteria⟩⟩
      | _ => cases called
  | insertSet origin =>
      cases h with
      | insertValues thin =>
          cases called
          exact ⟨_, rfl, .insertValues ⟨thin.table, thin.mappings.concat _ origin⟩⟩
      | _ => cases called
  | insertRecords c =>
      cases h with
      | insertRow i => exact ⟨d₁, called, .refl d₁⟩
      | insertBatch i => exact ⟨d₁, called, .refl d₁⟩
      | insertMultiple i => exact ⟨d₁, called, .refl d₁⟩
      | _ => cases called
  | addColumns columns =>
      cases h with
      | insertSelect i => exact ⟨d₁, called, .refl d₁⟩
      | _ => cases called
  | addMapping m =>
      cases h with
      | update thin =>
          cases called
          exact ⟨_, rfl, .update
            ⟨thin.table, thin.mappings.concat m.column (.same m.origin), thin.criteria⟩⟩
      | insertValues thin =>
          cases called
          exact ⟨_, rfl, .insertValues
            ⟨thin.table, thin.mappings.concat m.column (.same m.origin)⟩⟩
      | insertRow i => exact ⟨d₁, called, .refl d₁⟩
      | insertBatch i => exact ⟨d₁, called, .refl d₁⟩
      | insertMultiple i => exact ⟨d₁, called, .refl d₁⟩
      | _ => cases called

/-- A call that declines and concerns one draft alone leaves it a thinned one. -/
theorem callDraft?_declines {d d' d₁ : Draft} (h : d.Thins d') {c : Call} {join? : Option Nat}
    (declines : c.Declines join?) (called : callDraft? c d = some (.ok d₁)) : d₁.Thins d' := by
  cases declines with
  | select => cases d <;> cases called
  | delete declines members =>
      cases h with
      | delete thin =>
          cases called
          exact .delete ⟨thin.table, thin.criteria.concat_declining _ _ declines members⟩
      | _ => cases called
  | update declines members =>
      cases h with
      | update thin =>
          cases called
          exact .update
            ⟨thin.table, thin.mappings, thin.criteria.concat_declining _ _ declines members⟩
      | _ => cases called
  | updateSet =>
      cases h with
      | update thin =>
          cases called
          exact .update ⟨thin.table, thin.mappings.concat_absent _, thin.criteria⟩
      | _ => cases called
  | insertSet =>
      cases h with
      | insertValues thin =>
          cases called
          exact .insertValues ⟨thin.table, thin.mappings.concat_absent _⟩
      | _ => cases called

/-- What a call that is made can do: go on with a select statement or one of its joins, begin the
select statement of an insert, or change one draft alone.  Each case says what has to be the case
for the call to be made, and what the workbench is afterwards. -/
inductive Called (w : Workbench) (r : Receiver) : Call → Receiver → Workbench → Prop
  | select {c : Select.Call SourceRef} {q : Select SourceRef} {chain : Select.Chain SourceRef} :
      w.draft r.draft = .select q → Select.Chain.call? ⟨q, r.join?⟩ c = some chain →
      Called w r (.select c) ⟨r.draft, chain.join?⟩ (w.replace r.draft (.select chain.query))
  | beginSelect {columns : List Expression} {i : InsertSelect DraftId} : r.join? = none →
      w.draft r.draft = .insertSelect i →
      Called w r (.beginSelect columns) ⟨(w.add (.select (.forInsert columns))).1, none⟩
        ((w.add (.select (.forInsert columns))).2.replace r.draft
          (.insertSelect (i.setQuery (w.add (.select (.forInsert columns))).1)))
  | draft {c : Call} {d : Draft} : r.join? = none → callDraft? c (w.draft r.draft) = some (.ok d) →
      Called w r c r (w.replace r.draft d)

/-- **What a call does.**  This is the one place where the function that makes calls is taken apart;
the lemmas about steps go by the three cases of the relation. -/
theorem call?_eq_ok_iff {w w₁ : Workbench} {r r₁ : Receiver} {c : Call} :
    w.call? r c = some (.ok (r₁, w₁)) ↔ Called w r c r₁ w₁ := by
  obtain ⟨id, join?⟩ := r
  constructor
  · intro called
    unfold call? at called
    split at called
    case h_1 c join? q hq =>
      obtain ⟨chain, hchain, same⟩ := Option.map_eq_some_iff.mp called
      obtain ⟨rfl, rfl⟩ := Prod.mk.inj (Except.ok.inj same)
      exact .select hq hchain
    case h_2 columns i atDraft hi =>
      obtain ⟨rfl, rfl⟩ := Prod.mk.inj (Except.ok.inj (Option.some.inj called))
      exact .beginSelect atDraft hi
    case h_3 atDraft _ _ =>
      obtain ⟨result, hresult, same⟩ := Option.map_eq_some_iff.mp called
      obtain ⟨d, hd, pair⟩ := map_eq_ok_iff.mp same
      obtain ⟨rfl, rfl⟩ := Prod.mk.inj pair
      rw [hd] at hresult
      exact .draft atDraft hresult
    case h_4 => cases called
  · intro called
    cases called with
    | select hq hchain =>
        simp only [call?, hq, hchain]
        rfl
    | beginSelect atDraft hi =>
        obtain rfl : join? = none := atDraft
        simp only [call?, hi]
    | @draft _ d atDraft hd =>
        obtain rfl : join? = none := atDraft
        have changed : (callDraft? c (w.draft id)).map (fun result => result.map fun d =>
            ((⟨id, none⟩ : Receiver), w.replace id d)) =
              some (.ok ((⟨id, none⟩ : Receiver), w.replace id d)) := by
          rw [hd]
          rfl
        rw [← changed]
        -- a call on a select statement concerns more than one draft alone, and so does a new one
        unfold call?
        split
        case h_1 c q hq => rw [hq] at hd; cases hd
        case h_2 columns i hi => rw [hi] at hd; cases hd
        case h_3 => rfl
        case h_4 place _ => cases place

/-! ### Programs -/

/-- A step of a program that builds statements: a new draft, or a call on a draft or a join. -/
inductive Step where
  | start (d : Draft)
  | call (r : Receiver) (c : Call)

/-- The workbench after a step.  There is none if a call is refused, or if there is no such call. -/
def step? (w : Workbench) : Step → Option Workbench
  | .start d => some (w.add d).2
  | .call r c =>
    match w.call? r c with
    | some (.ok (_, w)) => some w
    | _ => none

/-- The workbench after a program, if no step of it fails. -/
def run? (w : Workbench) (steps : List Step) : Option Workbench := steps.foldlM step? w

/-- The other step is the same, or its call is made plain. -/
inductive Step.Plain : Step → Step → Prop
  | start (d : Draft) : Plain (.start d) (.start d)
  | call (r : Receiver) {c c' : Call} : c.Plain c' → Plain (.call r c) (.call r c')

/-- The second program is the first one without some of the calls that decline, and with some of
the present ones made plain. -/
inductive Program.Thins : List Step → List Step → Prop
  | nil : Thins [] []
  | drop {r : Receiver} {c : Call} {steps steps' : List Step} : c.Declines r.join? →
      Thins steps steps' → Thins (.call r c :: steps) steps'
  | keep {s s' : Step} {steps steps' : List Step} : s.Plain s' → Thins steps steps' →
      Thins (s :: steps) (s' :: steps')

/-- A step that is a call leads to what the call does. -/
theorem step?_call {w w₁ : Workbench} {r : Receiver} {c : Call} :
    w.step? (.call r c) = some w₁ ↔ ∃ r₁, Called w r c r₁ w₁ := by
  simp only [← call?_eq_ok_iff]
  show (match w.call? r c with
    | some (.ok (_, w)) => some w
    | _ => none) = some w₁ ↔ _
  split
  case h_1 r₁ w₂ called =>
    rw [called, Option.some.injEq]
    constructor
    · rintro rfl
      exact ⟨r₁, rfl⟩
    · rintro ⟨r₂, same⟩
      exact (Prod.mk.inj (Except.ok.inj (Option.some.inj same))).2
  case h_2 other =>
    refine iff_of_false (by simp) ?_
    rintro ⟨r₁, called⟩
    exact other r₁ w₁ called

namespace Thins

variable {w w' w₁ : Workbench}

/-- **A step** leads from a workbench and a thinned one to such a pair again. -/
theorem step? (h : w.Thins w') {s s' : Step} (plain : s.Plain s') (stepped : w.step? s = some w₁) :
    ∃ w₁', w'.step? s' = some w₁' ∧ w₁.Thins w₁' := by
  cases plain with
  | start d =>
      obtain rfl := Option.some.inj stepped
      exact ⟨_, rfl, (h.add d).2⟩
  | call r plain =>
      obtain ⟨r₁, called⟩ := step?_call.mp stepped
      have thin := h.draft r.draft
      cases called with
      | @select c q chain hq hchain =>
          rw [hq] at thin
          -- a thinner draft is of the same kind, so the call finds the draft it needs there as well
          cases hq' : w'.draft r.draft with
          | select q' =>
              rw [hq'] at thin
              cases thin with
              | select thin =>
                  cases plain with
                  | select plain =>
                      obtain ⟨chain', hchain', -, thin'⟩ := thin.call? plain hchain
                      exact ⟨_, step?_call.mpr ⟨_, .select hq' hchain'⟩,
                        h.replace r.draft (.select thin')⟩
          | _ => rw [hq'] at thin; cases thin
      | @beginSelect columns i atDraft hi =>
          rw [hi] at thin
          cases plain
          cases hi' : w'.draft r.draft with
          | insertSelect i' =>
              rw [hi'] at thin
              cases thin
              obtain ⟨place, thin'⟩ := h.add (.select (.forInsert columns))
              refine ⟨_, step?_call.mpr ⟨_, .beginSelect atDraft hi'⟩, ?_⟩
              rw [place]
              exact thin'.replace r.draft (.insertSelect _)
          | _ => rw [hi'] at thin; cases thin
      | draft atDraft changed =>
          obtain ⟨d', changed', thin'⟩ := callDraft?_thins thin plain changed
          exact ⟨_, step?_call.mpr ⟨_, .draft atDraft changed'⟩, h.replace r.draft thin'⟩

theorem replace_left (h : w.Thins w') {id : DraftId} {d : Draft} (thin : d.Thins (w'.draft id)) :
    (w.replace id d).Thins w' := by
  have both := h.replace id thin
  rwa [replace_draft] at both

/-- **A call that declines** leaves a workbench that the thinned one is still thinned from. -/
theorem step?_declines (h : w.Thins w') {r : Receiver} {c : Call} (declines : c.Declines r.join?)
    (stepped : w.step? (.call r c) = some w₁) : w₁.Thins w' := by
  obtain ⟨r₁, called⟩ := step?_call.mp stepped
  have thin := h.draft r.draft
  cases called with
  | @select c q chain hq hchain =>
      refine h.replace_left ?_
      rw [hq] at thin
      cases hq' : w'.draft r.draft with
      | select q' =>
          rw [hq'] at thin
          cases thin with
          | select thin =>
              cases declines with
              | select declines => exact .select (thin.call?_declines declines hchain)
      | _ => rw [hq'] at thin; cases thin
  | beginSelect => cases declines
  | draft atDraft changed => exact h.replace_left (callDraft?_declines thin declines changed)

/-- **A program** leads from a workbench and a thinned one to such a pair again, when it is thinned
itself. -/
theorem run? (h : w.Thins w') {steps steps' : List Step} (thins : Program.Thins steps steps')
    (built : w.run? steps = some w₁) : ∃ w₁', w'.run? steps' = some w₁' ∧ w₁.Thins w₁' := by
  induction thins generalizing w w' with
  | nil =>
      obtain rfl := Option.some.inj built
      exact ⟨w', rfl, h⟩
  | drop declines _ ih =>
      rw [Workbench.run?, List.foldlM_cons] at built
      obtain ⟨w₂, stepped, built⟩ := Option.bind_eq_some_iff.mp built
      exact ih (h.step?_declines declines stepped) built
  | keep plain _ ih =>
      rw [Workbench.run?, List.foldlM_cons] at built
      obtain ⟨w₂, stepped, built⟩ := Option.bind_eq_some_iff.mp built
      obtain ⟨w₂', stepped', h'⟩ := h.step? plain stepped
      obtain ⟨w₁', built', h''⟩ := ih h' built
      refine ⟨w₁', ?_, h''⟩
      rw [Workbench.run?, List.foldlM_cons]
      exact Option.bind_eq_some_iff.mpr ⟨w₂', stepped', built'⟩

end Thins

/-! ### Rendering -/

namespace Thins

variable {w w' : Workbench}

theorem select (h : w.Thins w') (id : DraftId) : (w.select id).Thins (w'.select id) := by
  have thin := h.draft id
  unfold Workbench.select
  generalize w.draft id = d at thin
  generalize w'.draft id = d' at thin
  cases thin with
  | select thin => exact thin
  | _ => exact .refl _

/-- **A select draft** of a thinned workbench is written as before, down to any depth.  The drafts
that are being opened are the same on both sides, so that a draft that is its own source is found to
be so in both. -/
theorem fragment_queryWithin (h : w.Thins w') (records : Records) (depth : Nat)
    (opened : List DraftId) {q q' : Select SourceRef} (thin : q.Thins q') :
    (w'.queryWithin records depth opened q').fragment =
      (w.queryWithin records depth opened q).fragment := by
  induction depth generalizing opened q q' with
  | zero => exact thin.fragment_mapSources fun _ => .refl _
  | succ depth ih =>
      refine thin.fragment_mapSources fun source => ?_
      cases source with
      | draft id =>
          by_cases cyclic : opened.contains id
          · simp only [cyclic, if_true]
            exact .refl _
          · simp only [cyclic]
            exact .subquery (ih (id :: opened) (h.select id))
      | _ => exact .refl _

/-- At the depth that is used for rendering, too. -/
theorem fragment_query (h : w.Thins w') (records : Records) (id : DraftId) :
    (w'.query records id).fragment = (w.query records id).fragment := by
  rw [query, query, ← h.drafts.length_eq]
  exact h.fragment_queryWithin records _ [id] (h.select id)

/-- **A draft** of a thinned workbench is rendered as before. -/
theorem render (h : w.Thins w') (records : Records) (id : DraftId) (dialect : Dialect) :
    w'.render records id dialect = w.render records id dialect := by
  have catalog : w'.catalog = w.catalog := by rw [h.others]
  have thin := h.draft id
  unfold Workbench.render
  -- the two drafts in place of the two workbenches, for the cases are those of one thinner draft
  generalize w.draft id = d at thin
  generalize w'.draft id = d' at thin
  cases thin with
  | select _ => simp only [Select.render, h.fragment_query records id]
  | delete thin => simp only [Delete.render, thin.fragment_eq]
  | update thin => simp only [Update.render, thin.fragment_eq]
  | insertValues thin => simp only [InsertValues.render, thin.fragment_eq]
  | insertRow _ | insertBatch _ | insertMultiple _ => simp only [catalog]
  | insertSelect i =>
      have written : InsertSelect.fragment ⟨i.table, i.columns, i.query?.map (w'.query records)⟩ =
          InsertSelect.fragment ⟨i.table, i.columns, i.query?.map (w.query records)⟩ := by
        cases query : i.query? with
        | none => rfl
        | some part =>
            simp only [InsertSelect.fragment, Option.map_some, h.fragment_query records part]
      simp only [InsertSelect.render, written]

end Thins

/-- **Declining calls are without effect, and present ones are plain.**  When a program builds its
statements without a call failing, the program without any of its declining calls, and with any of
its present ones made plain, does so too, and every draft renders as before: to the same text with
the same parameters, or to the same error.  For the insert of one record, a mapping whose property
is null in the record may be left out as long as another one is given, and one whose property is
not null may be made plain; where only mappings with null properties are given, the insert is
refused, and its columns are not inferred.

The criteria of a join are no restrictions, and none is left out: a join without a criterion is
refused. -/
theorem declining_calls :
    (∀ (w w₁ : Workbench) (steps thinned : List Step), Program.Thins steps thinned →
      w.run? steps = some w₁ →
      ∃ w₂, w.run? thinned = some w₂ ∧
        ∀ records id dialect, w₂.render records id dialect = w₁.render records id dialect) ∧
    ∀ (row : Record) (mappings thinned : List Mapping), RowTarget.Thins row mappings thinned →
      ∀ table? catalog dialect,
        (thinned ≠ [] →
          InsertRow.render catalog ⟨⟨table?, thinned⟩, row⟩ dialect =
            InsertRow.render catalog ⟨⟨table?, mappings⟩, row⟩ dialect) ∧
        (thinned = [] → mappings ≠ [] →
          InsertRow.render catalog ⟨⟨table?, mappings⟩, row⟩ dialect =
            fail (if table?.isNone then .missingTable else .nothingToInsert) .insert) := by
  constructor
  · intro w w₁ steps thinned thins built
    obtain ⟨w₂, built', h⟩ := (Thins.refl w).run? thins built
    exact ⟨w₂, built', h.render⟩
  · intro row mappings thinned thins table? catalog dialect
    constructor
    · intro left
      exact thins.render_eq left table? catalog dialect
    · rintro rfl given
      exact thins.render_eq_fail given table? catalog dialect

/-- A table with two columns. -/
def people : Table := ⟨0, "people", none⟩

/-- One of its columns. -/
def people.column (name : String) : Expression := .column (.plain name people none)

/-- A selection by a name, and in between by a list that has no members and by an age that is
absent, the second in a group of its own. -/
def searching : List Step :=
  [.start (.select (.ofColumns [people.column "name"])),
    .call ⟨0, none⟩ (.select (.from (.table people) none)),
    .call ⟨0, none⟩ (.select (.restrict (people.column "age") (.member true []) [])),
    .call ⟨0, none⟩ (.select (.and (people.column "name") (.compare .equal (.text "Ada") true)
      [.mk .or (people.column "age") (.compare .less .null true) []]))]

/-- The selection by the name alone. -/
def searchingByName : List Step :=
  [.start (.select (.ofColumns [people.column "name"])),
    .call ⟨0, none⟩ (.select (.from (.table people) none)),
    .call ⟨0, none⟩
      (.select (.and (people.column "name") (.compare .equal (.text "Ada") false) []))]

/-- A record of a name without an age. -/
def ageless : Record := .mapping [(.text "name", .text "Ada"), (.text "age", .null)]

/-- The mapping of a column to the property of its name. -/
def people.mapping (origin : String → Origin) (name : String) : Mapping :=
  ⟨people.column name, origin name⟩

/-- The selections are rendered alike, and so are the inserts that say and leave out that a name is
to be present; an insert of the age alone is refused. -/
theorem declining_calls_sample :
    (Condition.member true [.null]).filter (fun v => .ok !v.isNull) = .ok (.member true []) ∧
    (∃ w₁ w₂ : Workbench, ({} : Workbench).run? searching = some w₁ ∧
      ({} : Workbench).run? searchingByName = some w₂ ∧
      w₂.render [] 0 .generic = w₁.render [] 0 .generic ∧
      w₁.render [] 0 .generic = .ok (.statement (.select
        ⟨"SELECT name FROM people WHERE name = :p1", [("p1", .text "Ada")]⟩))) ∧
    InsertRow.render {} ⟨⟨some people, [people.mapping .property "name"]⟩, ageless⟩ .generic =
      InsertRow.render {} ⟨⟨some people, ["age", "name"].map (people.mapping
        .propertyWhenPresent)⟩, ageless⟩ .generic ∧
    InsertRow.render {} ⟨⟨some people, [people.mapping .propertyWhenPresent "age"]⟩, ageless⟩
      .generic = fail .nothingToInsert .insert := by
  have thins : Program.Thins searching searchingByName := by
    refine .keep (.start _) (.keep (.call _ (.select (.from _ _))) (.drop ?_ (.keep ?_ .nil)))
    · exact .select (.restrict rfl .nil)
    · exact .call _ (.select (.and (.present nofun) (.drop rfl .nil .nil)))
  obtain ⟨w₂, built', same⟩ := declining_calls.1 {} _ searching searchingByName thins rfl
  have named : RowTarget.Thins ageless (["age", "name"].map (people.mapping .propertyWhenPresent))
      [people.mapping .property "name"] :=
    .drop rfl rfl (.present (v := .text "Ada") rfl nofun .nil)
  have unnamed : RowTarget.Thins ageless [people.mapping .propertyWhenPresent "age"] [] :=
    .drop rfl rfl .nil
  exact ⟨rfl, ⟨_, w₂, rfl, built', same [] 0 .generic, rfl⟩,
    (declining_calls.2 _ _ _ named (some people) {} .generic).1 (by decide),
    (declining_calls.2 _ _ _ unnamed (some people) {} .generic).2 rfl (by decide)⟩

end Workbench

end BoundSql
