import BoundSql.Proofs.Delivery.Rendering

/-!
# Watching a facade function

A completer and a mapper are watched by a list of events beside the program's own state: an event is
noted when one of them is called, before it acts.  `Watches` says of an action that the same action
on a watched world comes to the same outcome and notes the given events; sequences note the events
of their steps, up to the one that fails.

A facade function works in the world of any program, so it can be run in one with more state than
the caller knows of.  There the events stand beside the caller's own state, where nothing but the
watched completer and mapper can see them.  These forget the events while what they watch is acting,
and put them back afterwards; it therefore acts as it does without being watched, and this holds by
definition (`Watches.watched`).

That the rest of the function neither uses the events nor adds to them has to be shown, but only for
the few steps it is made of.
-/

namespace BoundSql

open BoundSql.Action

/-- A call of what the caller supplies. -/
inductive Mapper.Event where
  /-- The completer is called on a draft. -/
  | completed (id : DraftId)
  /-- The mapper is called on a statement. -/
  | handed (s : Statement RecordId)
  /-- The mapper is called on the text and the records of a statement. -/
  | handedKeys (sql : String) (records : List RecordId)

open Mapper (Event)

variable {τ α β : Type}

/-! ### Watched worlds -/

namespace World

/-- The world beside the events that have been noted. -/
def watching (w : World τ) (events : List Event) : World (τ × List Event) where
  bench := w.bench
  records := w.records
  executors := w.executors
  environment := w.environment
  settings? := w.settings?
  log := w.log
  caller := (w.caller, events)

/-- The world without the events that have been noted. -/
def unwatched (w : World (τ × List Event)) : World τ where
  bench := w.bench
  records := w.records
  executors := w.executors
  environment := w.environment
  settings? := w.settings?
  log := w.log
  caller := w.caller.1

end World

/-- An action before which an event is noted. -/
def Action.watched (e : Event) (a : Action (World τ) α) : Action (World (τ × List Event)) α := do
  Action.update fun w => { w with caller := (w.caller.1, w.caller.2 ++ [e]) }
  Action.within World.unwatched (fun w w' => w'.watching w.caller.2) a

/-- A completer that is watched. -/
def Completer.watched (complete : Completer τ) : Completer (τ × List Event) :=
  fun id => Action.watched (.completed id) (complete id)

/-- A mapper that is watched. -/
def Mapper.watched (mapper : Mapper τ α) : Mapper (τ × List Event) α :=
  fun s => Action.watched (.handed s) (mapper s)

/-- A mapper that retrieves generated keys and is watched. -/
def KeyMapper.watched (mapper : KeyMapper τ α) : KeyMapper (τ × List Event) α :=
  fun sql records => Action.watched (.handedKeys sql records) (mapper sql records)

/-! ### Outcomes in watched worlds -/

/-- From a world on, the second action comes to the outcome of the first and notes the events.  What
was noted before is kept in front of them. -/
def Watches (a : Action (World τ) α) (b : Action (World (τ × List Event)) α) (w : World τ)
    (events : List Event) : Prop :=
  ∀ before, b.outcome (w.watching before) =
    ((a.outcome w).1, (a.outcome w).2.watching (before ++ events))

namespace Watches

variable {a : Action (World τ) α} {b : Action (World (τ × List Event)) α} {w w' : World τ}
  {f : α → Action (World τ) β} {g : α → Action (World (τ × List Event)) β}
  {events further : List Event}

/-- An action that calls nothing of the caller's notes nothing. -/
theorem silent (h : ∀ before, b.outcome (w.watching before) =
    ((a.outcome w).1, (a.outcome w).2.watching before)) : Watches a b w [] := by
  intro before
  rw [h, List.append_nil]

theorem pure (x : α) (w : World τ) : Watches (Pure.pure x) (Pure.pure x) w [] :=
  silent fun _ => rfl

theorem throw (e : Error) (w : World τ) :
    Watches (MonadExcept.throw e : Action (World τ) α) (MonadExcept.throw e) w [] :=
  silent fun _ => rfl

theorem watched (e : Event) (a : Action (World τ) α) (w : World τ) :
    Watches a (Action.watched e a) w [e] := fun _ => rfl

/-- Both steps of a sequence note their events if the first succeeds.  The second begins in the
world that the first leaves. -/
theorem bind_ok (ha : Watches a b w events) {x : α} (h : a.outcome w = (.ok x, w'))
    (hf : Watches (f x) (g x) w' further) :
    Watches (a >>= f) (b >>= g) w (events ++ further) := by
  intro before
  rw [outcome_bind_of_ok h, outcome_bind, ha before, h, ← List.append_assoc]
  exact hf _

/-- The second step of a sequence notes nothing if the first fails, because it is not taken. -/
theorem bind_error (ha : Watches a b w events) {e : Error} (h : a.outcome w = (.error e, w')) :
    Watches (a >>= f) (b >>= g) w events := by
  intro before
  rw [outcome_bind, outcome_bind, ha before, h]

/-- A silent second step adds nothing. -/
theorem bind_silent (ha : Watches a b w events) (hf : ∀ x w', Watches (f x) (g x) w' []) :
    Watches (a >>= f) (b >>= g) w events := by
  cases h : a.outcome w with
  | mk result w' =>
      cases result with
      | error e => exact ha.bind_error h
      | ok x =>
          rw [← List.append_nil events]
          exact ha.bind_ok h (hf x w')

end Watches

/-! ### What calls nothing -/

namespace World

theorem watches_add (d : Draft) (w : World τ) : Watches (add d) (add d) w [] :=
  .silent fun _ => rfl

/-- What a draft renders to has nothing to do with the caller's state. -/
theorem rendered_watching (w : World τ) (id : DraftId) (events : List Event) :
    (w.watching events).rendered id = ((w.rendered id).1, (w.rendered id).2.watching events) := by
  unfold rendered
  rw [show (w.watching events).bench = w.bench from rfl]
  cases Workbench.settled? (w.bench.draft id) <;> rfl

theorem watches_render (id : DraftId) (w : World τ) :
    Watches (render id .default) (render id .default) w [] := by
  refine .silent fun events => ?_
  rw [outcome_render_default, outcome_render_default, rendered_watching]

theorem watches_statements (b : Batch RecordId) (w : World τ) :
    Watches (statements b) (statements b) w [] := .silent fun _ => rfl

end World

namespace Mapper

/-- Announcing calls nothing of the caller's. -/
theorem watches_announce (kind : StatementKind) (product : Workbench.Product) (w : World τ) :
    Watches (announce kind product) (announce kind product) w [] := by
  refine .silent fun events => ?_
  rw [outcome_announce, outcome_announce]
  rfl

/-- Preparing a statement calls the completer once, on the draft that has been started, and nothing
else. -/
theorem watches_prepare (kind : StatementKind) (draft : Draft) (complete : Completer τ)
    (w : World τ) :
    Watches (prepare kind draft complete) (prepare kind draft complete.watched) w
      [.completed w.bench.drafts.length] := by
  refine (World.watches_add draft w).bind_ok rfl ?_
  refine (Watches.watched _ (complete _) _).bind_silent fun _ w' => ?_
  refine (World.watches_render _ w').bind_silent fun product w' => ?_
  exact (watches_announce kind product w').bind_silent fun _ w' => .pure product w'

end Mapper

end BoundSql
