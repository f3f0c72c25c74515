import BoundSql.Proofs.Action
import BoundSql.Proofs.Drafts
import BoundSql.Proofs.Refusal.Sources
import BoundSql.Proofs.Thinning
import BoundSql.World

/-!
# Builders fail only with build errors

A builder that was made and changed by proper calls never fails but with a build error when it is
rendered, and its batch never but with a build error when it is expanded.  What proper calls leave
behind is an invariant of the workbench: every mapping fits its statement, every value of a
criterion is converted, and every source is a table or a draft.

## What is assumed, and why

A caller's own code can raise anything, so converters that raise something are excluded, those of
declared columns and those of the columns that are named in calls.  Arguments have to be what a call
asks for; a limit that is no number, for instance, cannot be compared.  A mapping that is added past
the calls for it (`addMapping`) may be of any sort, and is no public call.  Records have to be
mappings or objects, because nothing can be read from anything else.

Drafts can be sources of each other.  A draft that draws from itself, through however many others,
would have a text without end, and writing it fails in another way; so the draft that is rendered
has to be nested finitely (`Workbench.IsFinite`).  It may be completed after it has been used as a
source, which is why this is asked of the workbench as it is when the draft is rendered.

## The shape of the proof

The invariant is preserved by every step, refused or not (`Workbench.IsSound.attempt`), and holds of
a program by induction.  For each builder there is one lemma which says that a sound one is rendered
or refused.  Those for inserts and updates rest on mappings that fit, those for select statements on
the fact that exactly the listed faults of a statement are reported (`Select.reports_fragment`).

* `Workbench.Step.IsProper` : a new draft, or a public call with arguments as it asks for them.
* `Workbench.attempt` : the workbench after a step; one that is refused leaves it as it is.
* `Draft.IsSound`, `Workbench.IsSound` : the invariant.
* `Workbench.IsSound.attempt`, `Workbench.IsSound.foldl_attempt` : what one step preserves, and a
  whole program.
* `Workbench.only_build_errors` : rendering, expanding and calling fail with build errors only.
-/

namespace BoundSql

/-! ### Proper calls -/

/-- The expression is a column whose converter raises nothing. -/
def Expression.IsTameColumn (e : Expression) : Prop := ∃ c, e = .column c ∧ c.IsTame

/-- The arguments of a call on a select statement are as it asks for them: the values of a criterion
are converted without an error, a source is a table or a draft, and a limit is a number. -/
def Select.Call.IsProper : Select.Call SourceRef → Prop
  | .restrict column condition group | .and column condition group | .or column condition group =>
    ∀ site ∈ (Criterion.mk .and column condition group).sites, site.Converts
  | .on column condition => ∀ site ∈ (Criterion.mk .and column condition []).sites, site.Converts
  | .from source _ | .join _ source _ => source.IsProper
  | .groupBy _ | .orderBy _ => True
  | .limit count? | .offset count? => ∀ v, count? = some v → ∃ n, v.number? = some n

namespace Workbench

/-- The call is a public one and its arguments are as it asks for them.  What is mapped or set is a
column. -/
def Call.IsProper : Call → Prop
  | .select c => c.IsProper
  | .delete (.restrict connector column condition group)
  | .update (.restrict connector column condition group) =>
    ∀ site ∈ (Criterion.mk connector column condition group).sites, site.Converts
  | .update (.set column _) => column.IsTameColumn
  | .insertRecords (.into _) => True
  | .insertRecords (.map column _) => column.IsTameColumn
  | .insertValues (.set column _) => column.IsTameColumn
  | .addColumns columns => ∀ e ∈ columns, ∃ c, e = .column c
  | .beginSelect _ => True
  | .addMapping _ => False

end Workbench

/-- The draft is as its constructor makes it. -/
inductive Draft.IsNew : Draft → Prop
  | ofColumns (columns : List Expression) : IsNew (.select (.ofColumns columns))
  | distinctColumns (columns : List Expression) : IsNew (.select (.distinctColumns columns))
  | countColumn (column : Expression) : IsNew (.select (.countColumn column))
  | countDistinct (column : Expression) : IsNew (.select (.countDistinct column))
  | countAll (table : Table) : IsNew (.select (.countAll (.table table)))
  | delete (table : Table) : IsNew (.delete { table })
  | update (table : Table) : IsNew (.update { table })
  | insertRow (row : RecordId) : IsNew (.insertRow { row })
  | insertBatch (records : List RecordId) : IsNew (.insertBatch { records })
  | insertMultiple (records : List RecordId) : IsNew (.insertMultiple { records })
  | insertValues (table : Table) : IsNew (.insertValues { table })
  | insertSelect (table : Table) : IsNew (.insertSelect { table })

/-- The step makes a new draft, or it is a proper call. -/
def Workbench.Step.IsProper : Workbench.Step → Prop
  | .start d => d.IsNew
  | .call _ c => c.IsProper

/-! ### Sound drafts -/

/-- What proper calls leave behind in a draft.  That a source is a draft which exists is not asked:
a place without one stands for a statement that is refused. -/
def Draft.IsSound : Draft → Prop
  | .select q => q.IsSound SourceRef.IsProper
  | .delete d => ∀ site ∈ Criterion.listSites d.criteria, site.Converts
  | .update u => (∀ m ∈ u.mappings, m.IsFit .update) ∧
    ∀ site ∈ Criterion.listSites u.criteria, site.Converts
  | .insertRow i => ∀ m ∈ i.target.mappings, m.IsFit .insert
  | .insertBatch i => ∀ m ∈ i.target.mappings, m.IsFit .insertBatch
  | .insertMultiple i => ∀ m ∈ i.target.mappings, m.IsFit .insertMultiple
  | .insertValues i => ∀ m ∈ i.mappings, m.IsFit .insertInto
  | .insertSelect i => ∀ e ∈ i.columns, ∃ c, e = .column c

/-- A further criterion is written if its values are converted. -/
theorem Criterion.converts_concat {criteria : List Criterion} {criterion : Criterion}
    (all : ∀ site ∈ listSites criteria, site.Converts)
    (own : ∀ site ∈ criterion.sites, site.Converts) :
    ∀ site ∈ listSites (criteria ++ [criterion]), site.Converts := by
  induction criteria with
  | nil =>
      intro site mem
      rw [List.nil_append, listSites, listSites, List.append_nil] at mem
      exact own site mem
  | cons first rest ih =>
      intro site mem
      rw [List.cons_append, listSites] at mem
      rw [listSites] at all
      rcases List.mem_append.mp mem with mem | mem
      · exact all site (List.mem_append_left _ mem)
      · exact ih (fun site mem => all site (List.mem_append_right _ mem)) site mem

namespace Select

variable {q : Select SourceRef}

/-- A statement that has nothing but columns is sound. -/
theorem IsSound.of_columns {kind : StatementKind} {distinct : Bool} {columns : List Expression} :
    IsSound SourceRef.IsProper { kind, distinct, columns } where
  restriction := by
    rw [Criterion.listSites]
    exact nofun
  joins := nofun
  numbers := by
    rintro v (given | given) <;> cases given
  sources := nofun

/-- A proper source may be drawn from. -/
theorem IsSound.draw (sound : q.IsSound SourceRef.IsProper) {source : SourceRef}
    (proper : source.IsProper) (alias? : Option String) :
    (q.draw source alias?).IsSound SourceRef.IsProper where
  restriction := sound.restriction
  joins := sound.joins
  numbers := sound.numbers
  sources := by
    rintro s (_ | ⟨_, mem⟩)
    · exact proper
    · exact sound.sources s (List.mem_append_right _ mem)

/-- A criterion whose values are converted may be added. -/
theorem IsSound.addCriterion (sound : q.IsSound SourceRef.IsProper) {criterion : Criterion}
    (converts : ∀ site ∈ criterion.sites, site.Converts) :
    (q.addCriterion criterion).IsSound SourceRef.IsProper where
  restriction := Criterion.converts_concat sound.restriction converts
  joins := sound.joins
  numbers := sound.numbers
  sources := sound.sources

/-- A join that has been given a further criterion has the source it had. -/
theorem exists_of_mem_addJoinCriterion {position : Nat} {criterion : Criterion}
    {j : Join SourceRef} (mem : j ∈ (q.addJoinCriterion position criterion).joins) :
    ∃ j' ∈ q.joins, j.source = j'.source ∧
      (j.criteria = j'.criteria ∨ j.criteria = j'.criteria ++ [criterion]) := by
  obtain ⟨k, at?⟩ := List.mem_iff_getElem?.mp mem
  rw [Select.addJoinCriterion, List.getElem?_modify] at at?
  obtain ⟨j', there, rfl⟩ := Option.map_eq_some_iff.mp at?
  refine ⟨j', List.mem_of_getElem? there, ?_⟩
  split
  · exact ⟨rfl, .inr rfl⟩
  · exact ⟨rfl, .inl rfl⟩

/-- So may one to a join, whichever it is. -/
theorem IsSound.addJoinCriterion (sound : q.IsSound SourceRef.IsProper) {criterion : Criterion}
    (converts : ∀ site ∈ criterion.sites, site.Converts) (position : Nat) :
    (q.addJoinCriterion position criterion).IsSound SourceRef.IsProper where
  restriction := sound.restriction
  joins := by
    intro j mem
    obtain ⟨j', mem', -, same | more⟩ := exists_of_mem_addJoinCriterion mem
    · rw [same]
      exact sound.joins j' mem'
    · rw [more]
      exact Criterion.converts_concat (sound.joins j' mem') converts
  numbers := sound.numbers
  sources := by
    intro source mem
    rcases List.mem_append.mp mem with drawn | joined
    · exact sound.sources source (List.mem_append_left _ drawn)
    · obtain ⟨j, hj, rfl⟩ := List.mem_map.mp joined
      obtain ⟨j', mem', same, -⟩ := exists_of_mem_addJoinCriterion hj
      rw [same]
      exact sound.sources j'.source (join_mem_sources mem')

/-- A proper source may be joined; the new join has no criteria yet. -/
theorem IsSound.join (sound : q.IsSound SourceRef.IsProper) {source : SourceRef}
    (proper : source.IsProper) (kind : JoinKind) (alias? : Option String) :
    (Chain.joining q kind source alias?).query.IsSound SourceRef.IsProper where
  restriction := sound.restriction
  joins := by
    intro j mem
    rcases List.mem_append.mp mem with mem | mem
    · exact sound.joins j mem
    · rw [List.mem_singleton.mp mem, Criterion.listSites]
      exact nofun
  numbers := sound.numbers
  sources := by
    intro s mem
    rcases List.mem_append.mp mem with drawn | joined
    · exact sound.sources s (List.mem_append_left _ drawn)
    · obtain ⟨j, hj, rfl⟩ := List.mem_map.mp joined
      rcases List.mem_append.mp hj with hj | hj
      · exact sound.sources j.source (join_mem_sources hj)
      · rw [List.mem_singleton.mp hj]
        exact proper

/-- **A proper call** leaves a select statement sound.  There is one case for each call, on the
builder or on a join of it. -/
theorem IsSound.call? (sound : q.IsSound SourceRef.IsProper) {c : Call SourceRef}
    (proper : c.IsProper) {join? : Option Nat} {chain : Chain SourceRef}
    (called : Chain.call? ⟨q, join?⟩ c = some chain) :
    chain.query.IsSound SourceRef.IsProper := by
  cases c with
  | restrict column condition group =>
      obtain rfl := Option.some.inj called
      exact sound.addCriterion proper
  | and column condition group =>
      cases join? with
      | none =>
          obtain rfl := Option.some.inj called
          exact sound.addCriterion proper
      | some position =>
          obtain rfl := Option.some.inj called
          exact sound.addJoinCriterion proper position
  | or column condition group =>
      cases join? with
      | none =>
          obtain rfl := Option.some.inj called
          exact sound.addCriterion proper
      | some position => cases called
  | on column condition =>
      cases join? with
      | none => cases called
      | some position =>
          obtain rfl := Option.some.inj called
          exact sound.addJoinCriterion proper position
  | «from» source alias? =>
      cases join? with
      | none =>
          obtain rfl := Option.some.inj called
          exact sound.draw proper alias?
      | some position => cases called
  | join kind source alias? =>
      obtain rfl := Option.some.inj called
      exact sound.join proper kind alias?
  | groupBy columns | orderBy columns =>
      obtain rfl := Option.some.inj called
      exact ⟨sound.restriction, sound.joins, sound.numbers, sound.sources⟩
  | limit count? =>
      obtain rfl := Option.some.inj called
      refine ⟨sound.restriction, sound.joins, ?_, sound.sources⟩
      rintro v (given | given)
      · exact proper v given
      · exact sound.numbers v (.inr given)
  | offset count? =>
      obtain rfl := Option.some.inj called
      refine ⟨sound.restriction, sound.joins, ?_, sound.sources⟩
      rintro v (given | given)
      · exact sound.numbers v (.inl given)
      · exact proper v given

end Select

/-- A new draft has nothing in it that could be unsound. -/
theorem Draft.IsNew.isSound {d : Draft} (new : d.IsNew) : d.IsSound := by
  cases new with
  | ofColumns | distinctColumns | countColumn | countDistinct => exact Select.IsSound.of_columns
  | countAll table => exact Select.IsSound.of_columns.draw (.inl ⟨table, rfl⟩) none
  | delete table =>
      rw [IsSound, Criterion.listSites]
      exact nofun
  | update table =>
      rw [IsSound, Criterion.listSites]
      exact ⟨nofun, nofun⟩
  | insertRow | insertBatch | insertMultiple | insertValues | insertSelect => exact nofun

/-- A further mapping that fits leaves all fitting. -/
theorem Mapping.isFit_concat {kind : StatementKind} {mappings : List Mapping} {m : Mapping}
    (all : ∀ m ∈ mappings, m.IsFit kind) (own : m.IsFit kind) :
    ∀ m' ∈ mappings ++ [m], m'.IsFit kind := by
  intro m' mem
  rcases List.mem_append.mp mem with mem | mem
  · exact all m' mem
  · rw [List.mem_singleton.mp mem]
    exact own

/-- What a call sets in an update fits it. -/
theorem Update.Setting.fits_origin (s : Update.Setting) : s.origin.Fits .update := by
  cases s with
  | value | valueWhenPresent => exact .inr rfl
  | null | constant | stringConstant => trivial
  | expression => rfl

/-- What a call sets in an insert of given values fits it. -/
theorem InsertValues.Setting.fits_origin (s : InsertValues.Setting) :
    s.origin.Fits .insertInto := by
  cases s with
  | value | valueWhenPresent => exact .inl rfl
  | null | constant | stringConstant => trivial

/-- A call on an insert of records is refused for what it would add. -/
theorem RowTarget.orderly_call {kind : StatementKind} (t : RowTarget) (c : Call) :
    Orderly (t.call kind c) := by
  cases c with
  | into table => exact .ok _
  | map column source =>
      cases source with
      | propertyWhenPresent name =>
          simp only [call]
          split
          · exact .ok _
          · exact .fail trivial
      | _ => exact .ok _

/-- A call on an insert of records adds a mapping that fits it: one that would not is refused. -/
theorem RowTarget.isFit_call {kind : StatementKind} (ofRecords : kind.IsOfRecords)
    {t t' : RowTarget} {c : Call} (proper : (Workbench.Call.insertRecords c).IsProper)
    (fit : ∀ m ∈ t.mappings, m.IsFit kind) (h : t.call kind c = .ok t') :
    ∀ m ∈ t'.mappings, m.IsFit kind := by
  cases c with
  | into table =>
      obtain rfl := Except.ok.inj h
      exact fit
  | map column source =>
      cases source with
      | propertyWhenPresent name =>
          simp only [call] at h
          split at h
          case isTrue single =>
            obtain rfl := Except.ok.inj h
            exact Mapping.isFit_concat fit ⟨proper, single⟩
          case isFalse => exact absurd h fail_ne_ok
      | property name =>
          obtain rfl := Except.ok.inj h
          exact Mapping.isFit_concat fit ⟨proper, ofRecords⟩
      | null | constant | stringConstant =>
          obtain rfl := Except.ok.inj h
          exact Mapping.isFit_concat fit ⟨proper, trivial⟩

namespace Workbench

/-- **A proper call that concerns one draft alone** leaves it sound.  What a call on an insert of
records would add has to be looked at, since a call may be refused for it. -/
theorem isSound_callDraft? {c : Call} (proper : c.IsProper) {d d' : Draft} (sound : d.IsSound)
    (called : callDraft? c d = some (.ok d')) : d'.IsSound := by
  cases c with
  | select | beginSelect => cases d <;> cases called
  | addMapping => exact proper.elim
  | delete c =>
      cases d with
      | delete d =>
          cases called
          exact Criterion.converts_concat sound proper
      | _ => cases called
  | update c =>
      cases d with
      | update u =>
          cases c with
          | set column setting =>
              cases called
              exact ⟨Mapping.isFit_concat sound.1 ⟨proper, setting.fits_origin⟩, sound.2⟩
          | restrict connector column condition group =>
              cases called
              exact ⟨sound.1, Criterion.converts_concat sound.2 proper⟩
      | _ => cases called
  | insertValues c =>
      cases d with
      | insertValues i =>
          cases c
          cases called
          exact Mapping.isFit_concat sound ⟨proper, InsertValues.Setting.fits_origin _⟩
      | _ => cases called
  | insertRecords c =>
      cases d with
      | insertRow i =>
          -- the inserts of records share the call on their target and differ in the kind alone
          obtain ⟨target, changed, rfl⟩ := map_eq_ok_iff.mp (Option.some.inj called)
          exact RowTarget.isFit_call (.inl rfl) proper sound changed
      | insertBatch i =>
          obtain ⟨target, changed, rfl⟩ := map_eq_ok_iff.mp (Option.some.inj called)
          exact RowTarget.isFit_call (.inr (.inl rfl)) proper sound changed
      | insertMultiple i =>
          obtain ⟨target, changed, rfl⟩ := map_eq_ok_iff.mp (Option.some.inj called)
          exact RowTarget.isFit_call (.inr (.inr rfl)) proper sound changed
      | _ => cases called
  | addColumns columns =>
      cases d with
      | insertSelect i =>
          cases called
          intro e mem
          rcases List.mem_append.mp mem with mem | mem
          · exact sound e mem
          · exact proper e mem
      | _ => cases called

/-! ### Programs -/

/-- The workbench after a step.  A step that is refused leaves it as it is, and so does a call that
its receiver does not know. -/
def attempt (w : Workbench) (s : Step) : Workbench := (w.step? s).getD w

/-- What proper calls leave behind on a workbench. -/
structure IsSound (w : Workbench) : Prop where
  catalog : w.catalog.IsTame
  drafts : ∀ d ∈ w.drafts, d.IsSound

namespace IsSound

variable {w : Workbench}

/-- A place without a draft stands for a selection without sources, which is sound. -/
theorem draft (sound : w.IsSound) (id : DraftId) : (w.draft id).IsSound := by
  rw [Workbench.draft]
  cases found : w.drafts[id]? with
  | none => exact Select.IsSound.of_columns
  | some d => exact sound.drafts d (List.mem_of_getElem? found)

/-- So is the select draft at any place. -/
theorem select (sound : w.IsSound) (id : DraftId) :
    (w.select id).IsSound SourceRef.IsProper := by
  have own := sound.draft id
  rw [Workbench.select]
  split
  case h_1 q hq =>
    rw [hq] at own
    exact own
  case h_2 => exact Select.IsSound.of_columns

/-- A sound draft may be added. -/
theorem add (sound : w.IsSound) {d : Draft} (own : d.IsSound) : (w.add d).2.IsSound where
  catalog := sound.catalog
  drafts := by
    intro d' mem
    rcases List.mem_append.mp mem with mem | mem
    · exact sound.drafts d' mem
    · rw [List.mem_singleton.mp mem]
      exact own

/-- A draft may be replaced by one that is sound. -/
theorem replace (sound : w.IsSound) {d : Draft} (own : d.IsSound) (id : DraftId) :
    (w.replace id d).IsSound where
  catalog := sound.catalog
  drafts := by
    intro d' mem
    rcases List.mem_or_eq_of_mem_set mem with mem | rfl
    · exact sound.drafts d' mem
    · exact own

/-- **A step** leaves a workbench sound. -/
theorem attempt (sound : w.IsSound) {s : Step} (proper : s.IsProper) :
    (w.attempt s).IsSound := by
  unfold Workbench.attempt
  cases stepped : w.step? s with
  | none => exact sound
  | some w' =>
      cases s with
      | start d =>
          obtain rfl := Option.some.inj stepped
          exact sound.add (Draft.IsNew.isSound proper)
      | call r c =>
          obtain ⟨r', called⟩ := step?_call.mp stepped
          have own := sound.draft r.draft
          cases called with
          | @select _ q chain hq hchain =>
              rw [hq] at own
              have after : (Draft.select chain.query).IsSound :=
                Select.IsSound.call? own proper hchain
              exact sound.replace after r.draft
          | @beginSelect columns i _ hi =>
              rw [hi] at own
              have inner : (Draft.select (.forInsert columns)).IsSound := Select.IsSound.of_columns
              have outer (id : DraftId) : (Draft.insertSelect (i.setQuery id)).IsSound := own
              exact (sound.add inner).replace (outer _) r.draft
          | draft _ changed => exact sound.replace (isSound_callDraft? proper own changed) r.draft

/-- **A program** leaves a workbench sound, by the induction on its steps. -/
theorem foldl_attempt (sound : w.IsSound) {steps : List Step}
    (proper : ∀ s ∈ steps, s.IsProper) : (steps.foldl Workbench.attempt w).IsSound := by
  induction steps generalizing w with
  | nil => exact sound
  | cons s steps ih =>
      exact ih (sound.attempt (proper s List.mem_cons_self)) fun s' mem => proper s' (.tail _ mem)

end IsSound

/-! ### Rendering -/

end Workbench

/-- A delete has criteria only, so it cannot even be refused. -/
theorem Delete.orderly_render {d : Delete} {dialect : Dialect}
    (converts : ∀ site ∈ Criterion.listSites d.criteria, site.Converts) :
    Orderly (d.render dialect) := by
  have restriction : Orderly (Criterion.whereFragment [] d.criteria) :=
    .of_reports_nil (Criterion.reports_whereFragment converts)
  have written : Orderly d.fragment := restriction.bind fun _ _ => .ok _
  exact written.bind fun _ _ => .ok _

/-- An insert of selected rows is written if its columns are columns and its select statement is
written. -/
theorem InsertSelect.orderly_render {i : InsertSelect Query} {dialect : Dialect}
    (columns : ∀ e ∈ i.columns, ∃ c, e = .column c)
    (sound : ∀ q, i.query? = some q → ∀ p ∈ q.levels, p.IsSound Source.IsProper) :
    Orderly (i.render dialect) := by
  have written : Orderly i.fragment := by
    unfold fragment
    split
    case h_1 => exact .fail trivial
    case h_2 q hq =>
      refine (Select.orderly_fragment (sound q hq)).bind fun select _ => ?_
      refine Orderly.bind (.mapM fun e mem => ?_) fun _ _ => .ok _
      obtain ⟨c, rfl⟩ := columns e mem
      exact .ok c
  exact written.bind fun _ _ => .ok _

/-- A place without a record stands for an empty one. -/
theorem Records.isStructured_at {records : Records} (structured : ∀ r ∈ records, r.IsStructured)
    (id : RecordId) : (records.at id).IsStructured := by
  rw [Records.at]
  cases found : records[id]? with
  | none => exact nofun
  | some r => exact structured r (List.mem_of_getElem? found)

namespace Workbench

variable {w : Workbench} {records : Records}

/-- **A sound workbench** renders a draft that is nested finitely, or refuses it.  There is one case
for each kind of draft. -/
theorem IsSound.orderly_render (sound : w.IsSound) (structured : ∀ r ∈ records, r.IsStructured)
    {id : DraftId} (finite : w.IsFinite id) (dialect : Dialect) :
    Orderly (w.render records id dialect) := by
  have own := sound.draft id
  have at? := Records.isStructured_at structured
  have each (ids : List RecordId) : ∀ r ∈ ids.map records.at, r.IsStructured := by
    intro r mem
    obtain ⟨id, -, rfl⟩ := List.mem_map.mp mem
    exact at? id
  unfold render
  split
  case h_1 => exact (Select.orderly_render (sound_query sound.select finite)).bind fun _ _ => .ok _
  case h_2 d hd =>
    rw [hd] at own
    exact (Delete.orderly_render own).bind fun _ _ => .ok _
  case h_3 u hu =>
    rw [hu] at own
    exact (Update.orderly_render own.1 own.2).bind fun _ _ => .ok _
  case h_4 i hi =>
    rw [hi] at own
    have rendered : Orderly (InsertRow.render w.catalog ⟨i.target, records.at i.row⟩ dialect) :=
      InsertRow.orderly_render sound.catalog own (at? i.row)
    exact rendered.bind fun _ _ => .ok _
  case h_5 i hi =>
    rw [hi] at own
    have rendered : Orderly
        (InsertBatch.render w.catalog ⟨i.target, i.records.map records.at⟩ dialect) :=
      InsertBatch.orderly_render sound.catalog own (each i.records)
    exact rendered.bind fun _ _ => .ok _
  case h_6 i hi =>
    rw [hi] at own
    have rendered : Orderly
        (InsertMultiple.render w.catalog ⟨i.target, i.records.map records.at⟩ dialect) :=
      InsertMultiple.orderly_render sound.catalog own (each i.records)
    exact rendered.bind fun _ _ => .ok _
  case h_7 i hi =>
    rw [hi] at own
    exact (InsertValues.orderly_render own).bind fun _ _ => .ok _
  case h_8 i hi =>
    rw [hi] at own
    -- the nested query is read from the workbench, so the drafts of all its levels have to be sound
    have inner : ∀ q, i.query?.map (w.query records) = some q →
        ∀ p ∈ q.levels, p.IsSound Source.IsProper := by
      intro q hq
      obtain ⟨part, hpart, rfl⟩ := Option.map_eq_some_iff.mp hq
      refine sound_query sound.select (finite.part ?_)
      rw [parts, hi]
      exact Option.mem_toList.mpr hpart
    have rendered : Orderly
        (InsertSelect.render ⟨i.table, i.columns, i.query?.map (w.query records)⟩ dialect) :=
      InsertSelect.orderly_render own inner
    exact rendered.bind fun _ _ => .ok _

/-- **A batch that a sound workbench has rendered** is expanded to its statements, or refused,
whatever has become of the records.  They may be other ones by then, and need not even be mappings
or objects. -/
theorem IsSound.raises_statements (sound : w.IsSound) {id : DraftId} {dialect : Dialect}
    {b : Batch RecordId} (h : w.render records id dialect = .ok (.batch b)) {τ : Type} :
    Action.Raises Error.IsRefusal (World.statements b : Action (World τ) _) := by
  have own := sound.draft id
  unfold render at h
  split at h
  case h_5 i hi =>
    rw [hi] at own
    obtain ⟨rendered, hrendered, h⟩ := bind_eq_ok_iff.mp h
    cases pure_eq_ok_iff.mp h
    have tame : ∀ bound ∈ rendered.bindings, bound.IsTame :=
      InsertBatch.isTame_of_render sound.catalog (fun m mem => own m mem) hrendered
    refine (Action.Raises.look _).bind fun records => .ofExcept ?_
    exact Orderly.mapM fun id _ =>
      (Batch.orderly_statement tame (records.at id)).bind fun _ _ => .ok _
  all_goals
    obtain ⟨rendered, -, h⟩ := bind_eq_ok_iff.mp h
    cases pure_eq_ok_iff.mp h

/-- What a call is refused for is a way in which a statement can be malformed. -/
theorem isRefusal_of_call? {r : Receiver} {c : Call} {e : Error}
    (h : w.call? r c = some (.error e)) : e.IsRefusal := by
  obtain ⟨t, c, refused⟩ := exists_call_of_call? h
  exact t.orderly_call c e refused

/-! ### Main result -/

/-- **Builders fail only with build errors.**  A program makes new drafts and proper calls, of which
any may be refused, on a workbench whose declared columns have converters that raise nothing.  A
draft that is nested finitely is then rendered in every dialect, from records that are mappings or
objects, or it is refused with a build error; when it is a batch, its expansion into statements is
completed or refused likewise, whatever the records are by then; and a call that is refused is
refused with a build error.  None of these errors speaks of a value in an insert of records or of a
mapping that an update does not support.

Calls do not look at the catalog, so that tables and columns may as well be declared between
them. -/
theorem only_build_errors {catalog : Catalog} (tame : catalog.IsTame) {steps : List Step}
    (proper : ∀ s ∈ steps, s.IsProper) (built : steps.foldl attempt { catalog } = w)
    (structured : ∀ r ∈ records, r.IsStructured) {id : DraftId} (finite : w.IsFinite id)
    (dialect : Dialect) :
    Orderly (w.render records id dialect) ∧
    (∀ b, w.render records id dialect = .ok (.batch b) → ∀ τ : Type,
      Action.Raises Error.IsRefusal (World.statements b : Action (World τ) _)) ∧
    ∀ r c e, w.call? r c = some (.error e) → e.IsRefusal := by
  have start : IsSound { catalog } := ⟨tame, List.forall_mem_nil _⟩
  have sound : w.IsSound := built ▸ start.foldl_attempt proper
  refine ⟨sound.orderly_render structured finite dialect, ?_, fun r c e => isRefusal_of_call?⟩
  exact fun b rendered τ => sound.raises_statements rendered

/-- A table of members. -/
def members : Table := ⟨0, "members", none⟩

/-- Its number, as a column. -/
def members.number : Expression := .column (.plain "number" members none)

/-- A select draft around another one that is completed afterwards, and a batch.  The last call but
one is refused: it would leave out a column that is not present in some of the rows. -/
def enrolling : List Step :=
  [.start (.select (.ofColumns [members.number])),
    .start (.select (.distinctColumns [members.number])),
    .call ⟨0, none⟩ (.select (.from (.draft 1) (some "m"))),
    .call ⟨1, none⟩ (.select (.from (.table members) none)),
    .call ⟨1, none⟩ (.select (.restrict members.number (.compare .less (.int 9) false) [])),
    .start (.insertBatch { records := [0, 1] }),
    .call ⟨2, none⟩ (.insertRecords (.into members)),
    .call ⟨2, none⟩ (.insertRecords (.map members.number (.propertyWhenPresent "number"))),
    .call ⟨2, none⟩ (.insertRecords (.map members.number (.property "number")))]

/-- Two records, the second of which has no number. -/
def enrolled : Records := [.mapping [(.text "number", .int 7)], .mapping []]

/-- The select draft of the sample is rendered; the batch is rendered too, and its expansion is
refused for the second record. -/
theorem only_build_errors_sample :
    ∃ w : Workbench, enrolling.foldl attempt {} = w ∧
      w.render enrolled 0 .generic = .ok (.statement (.select
        ⟨"SELECT number FROM (SELECT DISTINCT number FROM members WHERE number < :p1) m",
          [("p1", .int 9)]⟩)) ∧
      Orderly (w.render enrolled 0 .generic) ∧
      ∃ b, w.render enrolled 2 .generic = .ok (.batch b) ∧
        (World.statements b : Action (World Unit) _).outcome { caller := (), records := enrolled } =
          (.error (.build ⟨.missingProperty "number" .key, .insertBatch⟩),
            { caller := (), records := enrolled }) ∧
        Action.Raises Error.IsRefusal (World.statements b : Action (World Unit) _) := by
  have number : members.number.IsTameColumn := ⟨_, rfl, nofun⟩
  have converts : ∀ site ∈ (Criterion.mk .and members.number (.compare .less (.int 9) false)
      []).sites, site.Converts := by
    rintro site (_ | ⟨_, ⟨⟩⟩)
    exact nofun
  have proper : ∀ s ∈ enrolling, s.IsProper := by
    simp only [enrolling, List.forall_mem_cons]
    exact ⟨.ofColumns _, .distinctColumns _, .inr ⟨1, rfl⟩, .inl ⟨members, rfl⟩, converts,
      .insertBatch _, trivial, number, number, List.forall_mem_nil _⟩
  have structured : ∀ r ∈ enrolled, r.IsStructured := by
    rintro r (_ | ⟨_, _ | ⟨_, ⟨⟩⟩⟩) <;> exact nofun
  have leaf (id : DraftId) (none : (enrolling.foldl attempt {}).parts id = []) :
      (enrolling.foldl attempt {}).IsFinite id := by
    refine ⟨id, fun part mem => ?_⟩
    rw [none] at mem
    cases mem
  have whole : (enrolling.foldl attempt {}).IsFinite 0 := by
    refine ⟨0, fun part mem => ?_⟩
    obtain rfl : part = 1 := List.mem_singleton.mp mem
    exact leaf 1 rfl
  have tame : Catalog.IsTame {} := fun table c mem => nomatch mem
  have rendered : (enrolling.foldl attempt {}).render enrolled 2 .generic = .ok (.batch
      ⟨"INSERT INTO members (number) VALUES (:number)", [0, 1],
        [⟨.plain "number" members none, "number", false⟩]⟩) := rfl
  obtain ⟨-, expanded, -⟩ := only_build_errors tame proper rfl structured (leaf 2 rfl) .generic
  exact ⟨_, rfl, rfl, (only_build_errors tame proper rfl structured whole .generic).1, _, rendered,
    rfl, expanded _ rendered Unit⟩

end Workbench

end BoundSql
