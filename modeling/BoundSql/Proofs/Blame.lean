import BoundSql.Proofs.Blame.Levels
import BoundSql.Proofs.Delivery.Rendering
import BoundSql.Proofs.Refusal

/-!
# Build errors name the statement that was built

A build error names the kind of the statement at fault.  When a draft is rendered that is the kind
of its builder, and for a select statement, also for the one of an insert, that of the level at
fault.  There is one exception: an expression that cannot be sorted by is always said to be one of a
plain selection.

Calls do not change the kind of any draft, and the select statement that is begun within an insert
is of the kind of the insert; both hold along every program.

## Over a program

A draft has its kind from the moment at which it is started, and the errors come much later.  What
lies in between is a program, of arbitrary calls on arbitrary drafts.  Two facts are carried along
it.  `Workbench.Continues` relates the workbench to what it was before: every draft is still in its
place, with the kind that it had.  `Workbench.IsBegun` is an invariant: the select statement of
every insert was begun for an insert.  Each of them is shown for one step and then for programs by
induction.

The hypothesis on programs is that they start inserts without a select statement.  This is how an
insert begins, since its select statement is the work of a call.  The type of the drafts allows one
that has a select statement from the start, which could then be any draft, of any kind.

* `Workbench.kindAtFault` : the kind of the statement at fault when a draft is refused.
* `Workbench.Continues`, `Workbench.IsBegun` : what calls keep, step by step and over programs.
* `Workbench.failsWith_render` : what the build error of a rendering names.
* `World.build_errors_name_kind` : the same of the program's own rendering, expanding and calling.
-/

namespace BoundSql

open BoundSql.Action

/-- If the error says that a statement is malformed, it says so of a statement of this kind, or else
because of a sort order, and then of a plain selection.  Of other errors nothing is said, as they
name no statement. -/
def Error.Blames (kind : StatementKind) (e : Error) : Prop :=
  ∀ b, e = .build b → b.kind = if b.problem = .notOrderable then .select else kind

/-- Where no sort order is at fault, the kind that is named is the one to blame. -/
theorem Error.Names.blames {kind : StatementKind} {e : Error} (names : e.Names kind) :
    e.Blames kind := by
  intro b same
  obtain ⟨own, other⟩ := names b same
  rw [if_neg other, own]

/-- The kind that a select statement is refused with is that of the level at fault, unless its sort
order is. -/
theorem Select.failsWith_fragment (q : Query) :
    FailsWith (Error.Blames q.atFault.kind) q.fragment := by
  rintro e refused b rfl
  exact (atFault_of_build refused).2.kind_eq

/-- The kind that an insert of selected rows is refused with is that of its select statement, or its
own if it has none. -/
theorem InsertSelect.failsWith_fragment (i : InsertSelect Query) :
    FailsWith (Error.Blames (i.query?.elim .insertSelect fun q => q.atFault.kind)) i.fragment := by
  obtain ⟨table, columns, _ | q⟩ := i
  · exact FailsWith.imp (.names_fail (by decide)) fun _ => Error.Names.blames
  · refine q.failsWith_fragment.bind fun select _ => ?_
    -- what is wrong with a column to be filled is no build error
    have filled : FailsWith (¬ ·.IsBuild) (columns.mapM (Expression.asColumn "name")) :=
      .mapM fun e _ => e.failsWith_asColumn "name"
    exact ((filled.names _).imp fun _ => Error.Names.blames).bind fun _ _ => .ok _

namespace Workbench

variable {w w₁ w₂ : Workbench} {records : Records} {id : DraftId}

/-! ### Programs -/

/-- Every draft of the second workbench is still in its place on the first, and of the same kind. -/
def Continues (w₁ w : Workbench) : Prop :=
  ∀ (id : DraftId) (d : Draft), w.drafts[id]? = some d →
    ∃ d₁ : Draft, w₁.drafts[id]? = some d₁ ∧ d₁.Continues d

theorem Continues.refl (w : Workbench) : w.Continues w := fun _ d present => ⟨d, present, .refl d⟩

/-- What goes on from what goes on from a workbench goes on from it. -/
theorem Continues.trans (h' : w₂.Continues w₁) (h : w₁.Continues w) : w₂.Continues w := by
  intro id d present
  obtain ⟨d₁, present₁, first⟩ := h id d present
  obtain ⟨d₂, present₂, second⟩ := h' id d₁ present₁
  exact ⟨d₂, present₂, second.trans first⟩

/-- **A step** leaves all drafts in their places and of their kinds.  A step starts a draft at the
end, or replaces one by what a call makes of it; a call can also begin a draft, which is again put
at the end. -/
theorem continues_step? {s : Step} (stepped : w.step? s = some w₁) : w₁.Continues w := by
  intro id d present
  cases s with
  | start further =>
      obtain rfl := Option.some.inj stepped
      exact ⟨d, getElem?_add present further, .refl d⟩
  | call r c =>
      obtain ⟨r₁, called⟩ := step?_call.mp stepped
      exact exists_continues_call? (call?_eq_ok_iff.mpr called) present

/-- A step that is refused leaves everything as it is. -/
theorem continues_attempt (w : Workbench) (s : Step) : (w.attempt s).Continues w := by
  unfold attempt
  cases stepped : w.step? s with
  | none => exact .refl w
  | some w₁ => exact continues_step? stepped

/-- **A program** leaves all drafts in their places and of their kinds, by the induction on its
steps. -/
theorem continues_foldl_attempt (w : Workbench) (steps : List Step) :
    (steps.foldl attempt w).Continues w := by
  induction steps generalizing w with
  | nil => exact .refl w
  | cons s steps ih => exact (ih (w.attempt s)).trans (w.continues_attempt s)

/-- The select statement of every insert is one that was begun for an insert.  It is a draft of the
workbench like others, and the calls that it gets later do not change its kind. -/
def IsBegun (w : Workbench) : Prop :=
  ∀ i part, .insertSelect i ∈ w.drafts → i.query? = some part →
    ∃ q, w.drafts[part]? = some (.select q) ∧ q.kind = .insertSelect

/-- A call that concerns one draft alone does not exchange the select statement of an insert. -/
theorem exists_of_callDraft? {c : Call} {d : Draft} {i : InsertSelect DraftId}
    (h : callDraft? c d = some (.ok (.insertSelect i))) :
    ∃ i₀, d = .insertSelect i₀ ∧ i.query? = i₀.query? := by
  unfold callDraft? at h
  split at h
  case h_7 i₀ =>
    cases h
    exact ⟨i₀, rfl, rfl⟩
  case h_3 | h_4 | h_5 =>
    obtain ⟨target, -, made⟩ := map_eq_ok_iff.mp (Option.some.inj h)
    cases made
  case h_8 m =>
    obtain ⟨d', added, same⟩ := Option.map_eq_some_iff.mp h
    cases same
    cases d <;> cases added
  all_goals cases h

/-- **A step** keeps every insert with a select statement that was begun for it, when new inserts
have none.  A step either concerns one draft alone, and then no insert gets another select statement
and no select draft another kind, or it begins a select statement, which is of the kind of the
insert. -/
theorem IsBegun.step? (begun : w.IsBegun) {s : Step}
    (new : ∀ i, s = .start (.insertSelect i) → i.query? = none)
    (stepped : w.step? s = some w₁) : w₁.IsBegun := by
  intro i part mem given
  -- A step continues every draft there was, so the part of an insert that was there stays a select
  -- statement of the same kind; only a draft the step itself adds needs a look.
  have carry {i₀ : InsertSelect DraftId} (mem : .insertSelect i₀ ∈ w.drafts)
      (given : i₀.query? = some part) :
      ∃ q, w₁.drafts[part]? = some (.select q) ∧ q.kind = .insertSelect := by
    obtain ⟨q, present, kind⟩ := begun i₀ part mem given
    obtain ⟨d, present₁, continues⟩ := continues_step? stepped part _ present
    obtain ⟨q₁, rfl, same⟩ := continues.exists_select
    exact ⟨q₁, present₁, same.trans kind⟩
  cases s with
  | start d =>
      obtain rfl := Option.some.inj stepped
      rcases List.mem_append.mp mem with mem | mem
      · exact carry mem given
      · rw [new i (congrArg Step.start (List.mem_singleton.mp mem).symm)] at given
        cases given
  | call r c =>
      obtain ⟨r₁, called⟩ := step?_call.mp stepped
      cases called with
      | select hq hchain =>
          rcases List.mem_or_eq_of_mem_set mem with mem | same
          · exact carry mem given
          · cases same
      | @beginSelect columns i₀ _ hi =>
          rcases List.mem_or_eq_of_mem_set mem with mem | same
          · rcases List.mem_append.mp mem with mem | mem
            · exact carry mem given
            · cases List.mem_singleton.mp mem
          · -- the select statement that is begun lies behind all drafts, the insert among them
            cases same
            obtain rfl := Option.some.inj given
            obtain ⟨inside, -⟩ := List.getElem?_eq_some_iff.mp (getElem?_of_draft hi)
            refine ⟨.forInsert columns, ?_, rfl⟩
            exact (List.getElem?_set_ne inside.ne).trans List.getElem?_concat_length
      | draft _ changed =>
          rcases List.mem_or_eq_of_mem_set mem with mem | same
          · exact carry mem given
          · subst same
            obtain ⟨i₀, hi, same⟩ := exists_of_callDraft? changed
            exact carry (List.mem_of_getElem? (getElem?_of_draft hi)) (same ▸ given)

/-- So does a program, by the induction on its steps. -/
theorem IsBegun.foldl_attempt (begun : w.IsBegun) {steps : List Step}
    (new : ∀ i, .start (.insertSelect i) ∈ steps → i.query? = none) :
    (steps.foldl attempt w).IsBegun := by
  induction steps generalizing w with
  | nil => exact begun
  | cons s steps ih =>
      refine ih ?_ fun i mem => new i (.tail _ mem)
      unfold attempt
      cases stepped : w.step? s with
      | none => exact begun
      | some w₁ => exact begun.step? (fun i same => new i (same ▸ List.mem_cons_self)) stepped

/-- A select draft keeps its kind when its sources are taken from the workbench. -/
theorem kind_query (w : Workbench) (records : Records) (id : DraftId) :
    (w.query records id).kind = (w.select id).kind := by
  unfold query queryWithin
  split <;> rfl

/-- The select statement that an insert is rendered with is of the kind of the insert. -/
theorem IsBegun.kind_query (begun : w.IsBegun) {i : InsertSelect DraftId} {part : DraftId}
    (h : w.draft id = .insertSelect i) (given : i.query? = some part) :
    (w.query records part).kind = .insertSelect := by
  obtain ⟨q, present, kind⟩ := begun i part (List.mem_of_getElem? (getElem?_of_draft h)) given
  rw [Workbench.kind_query, select, draft, present]
  exact kind

/-! ### Rendering -/

/-- The kind of the statement at fault when a draft is refused: that of the level at fault in a
select statement, also in the one of an insert, and of the draft itself in all other cases. -/
def kindAtFault (w : Workbench) (records : Records) (id : DraftId) : StatementKind :=
  match w.draft id with
  | .select _ => (w.query records id).atFault.kind
  | .insertSelect ⟨_, _, some part⟩ => (w.query records part).atFault.kind
  | d => d.kind

/-- An outcome that does not depend on the dialect names the kind of the draft.  These are the
outcomes that are known before settings are read. -/
theorem names_of_settled? {d : Draft} {e : Error} (h : settled? d = some (.error e)) :
    e.Names d.kind := by
  cases d with
  | insertBatch i =>
      obtain ⟨outcome, settled, same⟩ := Option.map_eq_some_iff.mp h
      exact i.failsWith_settled? settled e (map_eq_error_iff.mp same)
  | insertMultiple i =>
      obtain ⟨outcome, settled, same⟩ := Option.map_eq_some_iff.mp h
      rw [map_eq_error_iff.mp same] at settled
      unfold InsertMultiple.settled? at settled
      split at settled
      · exact FailsWith.names_fail (by decide) e (Option.some.inj settled)
      · cases settled
  | insertSelect i =>
      rw [settled?] at h
      split at h
      · exact FailsWith.names_fail (by decide) e (Option.some.inj h)
      · cases h
  | select | delete | update | insertRow | insertValues => cases h

/-- Such an outcome is one of the draft itself. -/
theorem kindAtFault_of_settled? {outcome : Except Error Product}
    (h : settled? (w.draft id) = some outcome) :
    w.kindAtFault records id = (w.draft id).kind := by
  rw [kindAtFault]
  cases hd : w.draft id with
  | select q => rw [hd] at h; cases h
  | insertSelect i =>
      obtain ⟨table, columns, _ | part⟩ := i
      · rfl
      · rw [hd] at h; cases h
  | _ => rfl

/-- **The build error of a rendering** names the kind of the statement at fault, unless a sort order
is.  There is one case for each kind of draft; select statements and those of inserts are covered by
what is known of levels, all others by what is known of builders. -/
theorem failsWith_render (w : Workbench) (records : Records) (id : DraftId) (dialect : Dialect) :
    FailsWith (Error.Blames (w.kindAtFault records id)) (w.render records id dialect) := by
  have named {α : Type} {kind : StatementKind} {x : Except Error α} {f : α → Product}
      (h : FailsWith (Error.Names kind) x) :
      FailsWith (Error.Blames kind) (do return f (← x)) :=
    (h.imp fun _ => Error.Names.blames).bind fun _ _ => .ok _
  rw [render, kindAtFault]
  cases w.draft id with
  | select q =>
      have written := (w.query records id).failsWith_fragment
      exact (written.bind fun _ _ => .ok _).bind fun _ _ => .ok _
  | delete d =>
      exact named ((d.failsWith_fragment.names .delete).bind fun _ _ => .ok _)
  | update u => exact named (u.failsWith_fragment.bind fun _ _ => .ok _)
  | insertRow i => exact named (InsertRow.failsWith_render w.catalog dialect _)
  | insertBatch i => exact named (InsertBatch.failsWith_render w.catalog dialect _)
  | insertMultiple i => exact named (InsertMultiple.failsWith_render w.catalog dialect _)
  | insertValues i => exact named (i.failsWith_fragment.bind fun _ _ => .ok _)
  | insertSelect i =>
      obtain ⟨table, columns, _ | part⟩ := i
      · have written := InsertSelect.failsWith_fragment ⟨table, columns, none⟩
        exact (written.bind fun _ _ => .ok _).bind fun _ _ => .ok _
      · have written := InsertSelect.failsWith_fragment ⟨table, columns, w.query records part⟩
        exact (written.bind fun _ _ => .ok _).bind fun _ _ => .ok _

end Workbench

/-- Settings that cannot be read raise an error of their own, and never one that says that a
statement is malformed. -/
theorem Settings.failsWith_load (s : Settings.Sources) : FailsWith (¬ ·.IsBuild) (load s) := by
  unfold load
  dsimp only
  split
  · exact .ok _
  · exact .error (by rintro ⟨b, ⟨⟩⟩)

namespace World

variable {τ : Type}

/-- Settling the dialect raises no build error. -/
theorem raises_dialect (choice : DialectChoice) :
    Raises (¬ ·.IsBuild) (dialect choice : Action (World τ) Dialect) := by
  have settings : Raises (¬ ·.IsBuild) (loadSettings : Action (World τ) Settings) := by
    intro w e fails
    rw [outcome_loadSettings, World.settings] at fails
    split at fails
    · cases fails
    · exact Settings.failsWith_load _ e fails
  cases choice with
  | given d => exact .pure d
  | named name =>
      refine .ofExcept fun e fails => ?_
      split at fails <;> cases fails
      rintro ⟨b, ⟨⟩⟩
  | default => exact settings.map _

/-- **The build error of a draft** names the kind of the statement at fault, unless a sort order
is. -/
theorem kind_of_render {w : World τ} {id : DraftId} {choice : DialectChoice} {b : BuildError}
    (h : ((render id choice).outcome w).1 = .error (.build b)) :
    b.kind = if b.problem = .notOrderable then .select
      else w.bench.kindAtFault w.records id := by
  rw [render, outcome_look_bind] at h
  cases settled : Workbench.settled? (w.bench.draft id) with
  | some outcome =>
      rw [settled] at h
      rw [show outcome = .error (.build b) from h] at settled
      rw [Workbench.kindAtFault_of_settled? settled]
      exact (Workbench.names_of_settled? settled).blames b rfl
  | none =>
      rw [settled] at h
      rcases outcome_bind_eq_error_iff.mp h with chosen | ⟨d, between, chosen, rendered⟩
      · exact absurd ⟨b, rfl⟩ (raises_dialect choice w _ chosen)
      · have kept : between.sources = w.sources := by
          rw [← keeps_dialect choice w, chosen]
        obtain ⟨bench, records⟩ := Prod.mk.inj kept
        rw [← bench, ← records]
        exact between.bench.failsWith_render between.records id d _ rendered b rfl

/-- The build error of expanding a batch names it as one, whichever record it is about. -/
theorem raises_statements (batch : Batch RecordId) :
    Raises (Error.Names .insertBatch) (statements batch : Action (World τ) _) := by
  refine (Raises.look _).bind fun records => .ofExcept ?_
  exact FailsWith.mapM fun id _ =>
    (Batch.failsWith_statement _ (records.at id)).bind fun _ _ => .ok _

/-! ### Main result -/

/-- **Build errors name the statement that was built**, except that an expression without a name to
sort by is always said to be one of a plain selection.  A program makes drafts and calls, and starts
its inserts of selected rows without a select statement.

Whatever calls follow, every draft keeps its kind, and the select statement that was begun for an
insert is of the kind of the insert.  A build error that a draft is refused with names the kind of
the statement at fault; this is exactly so unless an expression cannot be sorted by, and then
exactly if the statement at fault is a plain selection.  Within a select statement the one at fault
is the level that raises the error itself.  A batch that is refused when it is expanded is named as
one, and a call that is refused names the kind of the draft. -/
theorem build_errors_name_kind {catalog : Catalog} {steps : List Workbench.Step}
    (new : ∀ i, .start (.insertSelect i) ∈ steps → i.query? = none) {w : World τ}
    (built : steps.foldl Workbench.attempt { catalog } = w.bench) :
    (∀ more : List Workbench.Step, (more.foldl Workbench.attempt w.bench).Continues w.bench) ∧
    (∀ id i part, w.bench.draft id = .insertSelect i → i.query? = some part →
      (w.bench.query w.records part).kind = .insertSelect) ∧
    (∀ id choice b, ((render id choice).outcome w).1 = .error (.build b) →
      b.kind = if b.problem = .notOrderable then .select
        else w.bench.kindAtFault w.records id) ∧
    (∀ (q : Query) b, q.fragment = .error (.build b) →
      q.atFault ∈ q.levels ∧ q.atFault.IsAtFault b) ∧
    (∀ batch b, ((statements batch).outcome w).1 = .error (.build b) → b.kind = .insertBatch) ∧
    (∀ r c b, w.bench.call? r c = some (.error (.build b)) →
      b.kind = (w.bench.draft r.draft).kind) := by
  have empty : Workbench.IsBegun { catalog } := fun _ _ mem => nomatch mem
  have begun : w.bench.IsBegun := built ▸ empty.foldl_attempt new
  refine ⟨w.bench.continues_foldl_attempt, fun id i part => begun.kind_query,
    fun id choice b => kind_of_render, fun q b => Select.atFault_of_build, ?_, ?_⟩
  · intro batch b refused
    exact (raises_statements batch w _ refused b rfl).1
  · intro r c b refused
    obtain ⟨t, c, refused⟩ := Workbench.exists_call_of_call? refused
    exact (t.failsWith_call _ c _ refused b rfl).1

/-- A table of goods. -/
def goods : Table := ⟨0, "goods", none⟩

/-- Its code, as a column. -/
def goods.code : Expression := .column (.plain "code" goods none)

/-- A count that is sorted by a count without a name, and an insert of a selection that draws from
nothing. -/
def stocktaking : List Workbench.Step :=
  [.start (.select (.countColumn goods.code)),
    .call ⟨0, none⟩ (.select (.from (.table goods) none)),
    .call ⟨0, none⟩ (.select (.orderBy [.countAll none])),
    .start (.insertSelect { table := goods }),
    .call ⟨1, none⟩ (.beginSelect [goods.code])]

/-- The count of the sample is refused as if it were a plain selection, although it is at fault
itself; the insert is refused for its select statement, and is named. -/
theorem build_errors_name_kind_sample :
    ∃ w : World Unit, stocktaking.foldl Workbench.attempt {} = w.bench ∧
      ((render 0 (.given .generic)).outcome w).1 = .error (.build ⟨.notOrderable, .select⟩) ∧
      w.bench.kindAtFault w.records 0 = .count ∧
      ((render 1 (.given .generic)).outcome w).1 = .error (.build ⟨.missingFrom, .insertSelect⟩) ∧
      w.bench.kindAtFault w.records 1 = .insertSelect := by
  have new : ∀ i, .start (.insertSelect i) ∈ stocktaking → i.query? = none := by
    intro i mem
    simp only [stocktaking, List.mem_cons] at mem
    rcases mem with ⟨⟨⟩⟩ | ⟨⟨⟩⟩ | ⟨⟨⟩⟩ | same | ⟨⟨⟩⟩ | ⟨⟨⟩⟩
    cases same
    rfl
  let w : World Unit := { bench := stocktaking.foldl Workbench.attempt {}, caller := () }
  have count : ((render 0 (.given .generic)).outcome w).1 =
      .error (.build ⟨.notOrderable, .select⟩) := rfl
  have insert : ((render 1 (.given .generic)).outcome w).1 =
      .error (.build ⟨.missingFrom, .insertSelect⟩) := rfl
  obtain ⟨-, -, named, fault, -, -⟩ := build_errors_name_kind new (w := w) rfl
  refine ⟨w, rfl, count, ?_, insert, (named 1 _ _ insert).symm⟩
  -- the count has no other level
  obtain ⟨level, -⟩ := fault (w.bench.query w.records 0) ⟨.notOrderable, .select⟩ rfl
  have single : (w.bench.query w.records 0).levels = [w.bench.query w.records 0] := rfl
  rw [single, List.mem_singleton] at level
  exact congrArg Select.kind level

end World

end BoundSql
