import BoundSql.Error

/-!
# Actions

An action changes a state and either succeeds or fails.  What it did to the state before it
failed stays done.

## Main definitions

* `Action` : the actions on a state of the type `σ`.
* `Action.within` : an action on a part of the state.
* `Action.attempt` : the outcome of an action, which then cannot fail.
-/

namespace BoundSql

/-- An action on a state, whose changes outlast a failure. -/
abbrev Action (σ : Type) (α : Type) := ExceptT Error (StateM σ) α

namespace Action

variable {σ τ α : Type}

/-- The outcome of an action and the state after it. -/
def outcome (a : Action σ α) (s : σ) : Except Error α × σ := (ExceptT.run a).run s

/-- An outcome as an action that leaves the state alone. -/
def ofExcept (r : Except Error α) : Action σ α := ExceptT.mk (pure r)

/-- Changes the state. -/
def update (f : σ → σ) : Action σ Unit := ExceptT.mk fun s => (.ok (), f s)

/-- Reads from the state. -/
def look (f : σ → α) : Action σ α := ExceptT.mk fun s => (.ok (f s), s)

/-- An action on a part of the state. -/
def within (get : σ → τ) (set : σ → τ → σ) (a : Action τ α) : Action σ α :=
  ExceptT.mk fun s => let r := outcome a (get s); (r.1, set s r.2)

/-- The outcome of an action; a failure becomes a value. -/
def attempt (a : Action σ α) : Action σ (Except Error α) :=
  ExceptT.mk fun s => let r := outcome a s; (.ok r.1, r.2)

end Action

end BoundSql
