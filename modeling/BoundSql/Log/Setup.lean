import BoundSql.Log.Event

/-!
# Where events go

Events are written to the standard output, and to a file when the environment asks for it.  The file
bears its day in its name and lies in a directory that the environment can name.

Destinations are values here: a file is known by its path, and nothing is written.  What attaching
them promises, namely that it happens once however often it is asked for, is
`Log.destinations_configureAll`.

## Main definitions

* `Log.toFile` : is a file asked for?
* `Log.filePath` : the path of the file for a day.
* `Log.Setup` : the level in force and the destinations, with `Log.configure`, which attaches the
  destinations only once.
-/

namespace BoundSql.Log

/-- Does the environment ask for a log file? -/
def toFile (environment : Environment) : Bool :=
  ["1", "true", "yes"].contains ((Assoc.get? "LOG_TO_FILE" environment).getD "").toLower

/-- The log file of a day, which is written as eight digits. -/
def filePath (environment : Environment) (day : String) : Path :=
  (Path.ofString ((Assoc.get? "LOG_FILE_DIR" environment).getD "logs")).join
    ⟨"", ["dynamic-sql-" ++ day ++ ".log"]⟩

/-- A place where events are written. -/
inductive Destination where
  | output
  | file (path : Path)
deriving DecidableEq, Repr

/-- The level in force and the destinations, in order of attachment. -/
structure Setup where
  weight : Nat := 30
  destinations : List Destination := []
  configured : Bool := false
deriving DecidableEq, Repr

/-- Configures logging: the level in force and its destinations.  A second time changes
nothing. -/
def configure (settings : Except Error Settings) (environment : Environment) (day : String)
    (setup : Setup) : Except Error Setup := do
  if setup.configured then return setup
  let weight ← (threshold settings environment).toWeight
  return {
    weight
    destinations := setup.destinations ++ .output ::
      (if toFile environment then [.file (filePath environment day).normalized] else [])
    configured := true }

/-- The files of a setup, each with the events written to it. -/
def Setup.written (setup : Setup) (events : List (LogLevel × String)) :
    List (Path × List (LogLevel × String)) :=
  setup.destinations.filterMap fun
    | .output => none
    | .file path => some (path, events.filter fun e => decide (setup.weight ≤ e.1.weight))

end BoundSql.Log
