import Mathlib.Data.List.Basic
import BoundSql.Log.Setup

/-!
# Configuring logging more than once

Several parts of a program configure logging, each without knowing of the others, and they may find
different settings and a different day when they do.  That this is harmless means two things.  No
event is written twice; and the first part that can configure logging at all decides, whatever the
others find.  The second is the less obvious one, because an attempt can fail: the name of the level
may stand for something that is no level, and a failed attempt must not keep a later one from
succeeding.

Both follow from what one attempt does.  On a setup that is configured it does nothing
(`Log.configure_of_configured`).  On one that is not, it can fail with the level only, and then
nothing is attached; otherwise everything is attached at once (`Log.configure_eq`).  A run of
attempts is therefore a search for the first one that succeeds, which `Log.configureAll_eq` says by
induction over the run.  What the other statements say is then read off a single attempt.

* `Log.configureAll_eq` : the first attempt that succeeds decides.
* `Log.destinations_configureAll` : destinations are attached once, however many attempts there are.
* `Log.written_configureAll` : what is found in the file.
-/

namespace BoundSql.Log

/-- The circumstances under which logging is configured: the settings, if they can be read, the
environment and the day. -/
structure Attempt where
  settings : Except Error Settings
  environment : Environment
  day : String

namespace Attempt

/-- The destinations that an attempt attaches: the standard output, and the file of the day if one
is asked for. -/
def destinations (a : Attempt) : List Destination :=
  .output :: if toFile a.environment then [.file (filePath a.environment a.day).normalized] else []

/-- What an attempt makes of the first setup of a program, unless it fails. -/
def made? (a : Attempt) : Option Setup :=
  (threshold a.settings a.environment).toWeight.toOption.map fun weight =>
    ⟨weight, a.destinations, true⟩

/-- The setup after an attempt.  One that fails leaves it as it is. -/
def on (a : Attempt) (setup : Setup) : Setup :=
  (configure a.settings a.environment a.day setup).toOption.getD setup

end Attempt

/-- The setup after a run of attempts from the start of a program. -/
def configureAll (as : List Attempt) : Setup := as.foldl (fun setup a => Attempt.on a setup) {}

/-! ### One attempt -/

/-- A setup that is configured is left as it is, even where the level would be refused now. -/
theorem configure_of_configured {setup : Setup} (configured : setup.configured = true)
    (settings : Except Error Settings) (environment : Environment) (day : String) :
    configure settings environment day setup = .ok setup := by
  rw [configure, if_pos configured]
  rfl

/-- On the first setup an attempt fails with the level only, and otherwise attaches everything. -/
theorem configure_eq (a : Attempt) :
    (configure a.settings a.environment a.day {}).toOption = a.made? := by
  rw [configure, Attempt.made?]
  cases (threshold a.settings a.environment).toWeight <;> rfl

theorem Attempt.on_of_configured {setup : Setup} (configured : setup.configured = true)
    (a : Attempt) : a.on setup = setup := by
  rw [Attempt.on, configure_of_configured configured]
  rfl

theorem Attempt.on_fresh (a : Attempt) : a.on {} = a.made?.getD {} := by
  rw [Attempt.on, configure_eq]

/-! ### Runs of attempts -/

theorem foldl_attempt_of_configured {setup : Setup} (configured : setup.configured = true)
    (as : List Attempt) : as.foldl (fun setup a => Attempt.on a setup) setup = setup := by
  induction as with
  | nil => rfl
  | cons a as ih => rw [List.foldl_cons, a.on_of_configured configured, ih]

/-- **The first attempt that succeeds decides**: neither the failures before it nor what comes
behind it counts. -/
theorem configureAll_eq (as : List Attempt) :
    configureAll as = (as.findSome? Attempt.made?).getD {} := by
  induction as with
  | nil => rfl
  | cons a as ih =>
      rw [configureAll, List.foldl_cons, List.findSome?_cons, a.on_fresh]
      cases level : (threshold a.settings a.environment).toWeight with
      | error e =>
          rw [Attempt.made?, level]
          exact ih
      | ok weight =>
          rw [Attempt.made?, level]
          exact foldl_attempt_of_configured rfl as

/-- **However often logging is configured, the destinations are attached once.**  They are those of
one attempt, the standard output among them; before any attempt succeeds there are none. -/
theorem destinations_configureAll (as : List Attempt) :
    (configureAll as).destinations = [] ∨
      ∃ a ∈ as, (configureAll as).destinations = a.destinations := by
  rw [configureAll_eq]
  cases found : as.findSome? Attempt.made? with
  | none => exact .inl rfl
  | some setup =>
      obtain ⟨a, mem, made⟩ := List.exists_of_findSome?_eq_some found
      obtain ⟨weight, -, rfl⟩ := Option.map_eq_some_iff.mp made
      exact .inr ⟨a, mem, rfl⟩

/-! ### Files -/

/-- A file gets the events that are heavy enough, in order and each as often as it occurs, and there
is at most one file. -/
theorem written_configureAll (as : List Attempt) (events : List (LogLevel × String)) :
    (configureAll as).written events = [] ∨
      ∃ a ∈ as, toFile a.environment = true ∧
        (configureAll as).written events =
          [((filePath a.environment a.day).normalized,
            events.filter fun e => decide ((configureAll as).weight ≤ e.1.weight))] := by
  rw [Setup.written]
  rcases destinations_configureAll as with none | ⟨a, mem, attached⟩
  · exact .inl (by rw [none]; rfl)
  · rw [attached, Attempt.destinations]
    by_cases asked : toFile a.environment = true
    · rw [if_pos asked]
      exact .inr ⟨a, mem, asked, rfl⟩
    · rw [if_neg asked]
      exact .inl rfl

end BoundSql.Log
