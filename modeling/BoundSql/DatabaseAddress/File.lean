import BoundSql.DatabaseAddress
import BoundSql.DatabaseAddress.Driver
import BoundSql.Settings
import BoundSql.Text.LowerCase
import BoundSql.Text.Real

/-!
# Addresses of database files

The address of a database file names neither a user nor a host, and its query may give options, some
of which have to be flags or numbers.

As the other modules on addresses this one restates what the library that opens connections
documents.  It stops where a connection would be opened: an option is checked, but what it does is
not modelled.

## Main definitions

* `DatabaseAddress.fileOptions` : the options.
* `DatabaseAddress.checkFile` : can the address be that of a database file?
* `DatabaseAddress.ofFileUrl` : reading the address of a database file.
-/

namespace BoundSql.DatabaseAddress

/-- What an option of a database file has to be. -/
inductive OptionKind where
  | flag
  | real
  | integer
  | text
deriving DecidableEq, Repr

/-- The options of a database file, in the order in which they are read. -/
def fileOptions : List (String × OptionKind) :=
  [("uri", .flag), ("timeout", .real), ("isolation_level", .text), ("detect_types", .integer),
   ("check_same_thread", .flag), ("cached_statements", .integer)]

/-- Reads a flag: a word for true or false in any letter case, with blanks around it. -/
def readFlag (text : String) : Except Error Bool :=
  let word := Text.lowerCase (String.ofList (EnvFile.trim text.toList))
  if Settings.trueWords.contains word then .ok true
  else if Settings.falseWords.contains word then .ok false
  else .error (.address (.notAFlag word))

/-- Checks the values that an option is given.  A flag that is given several times is set. -/
def checkOption : OptionKind → List String → Except Error Unit
  | .flag, [value] => do
    let _ ← readFlag value
  | .real, [value] =>
    if Text.isReal value then .ok () else .error (.address (.notAReal value))
  | .real, _ => .error (.address .severalReals)
  | .integer, [value] => do
    let _ ← (Text.readInteger value).mapError (Error.ofIntegerFault value)
  | .integer, _ => .error (.notNumeric "tuple")
  | _, _ => .ok ()

/-- Is the database to be named with the parameters that are no options? -/
def passesParameters (a : DatabaseAddress) : Bool :=
  let uri :=
    match Assoc.get? "uri" a.query with
    | some [value] => (readFlag value).toOption.getD false
    | some _ => true
    | none => false
  uri && a.query.any fun entry => (Assoc.get? entry.1 fileOptions).isNone

/-- Checks that the address can be that of a database file. -/
def checkFile (a : DatabaseAddress) : Except Error Unit := do
  let present := fun (part? : Option String) => (nonempty? part?).isSome
  if present a.user? || present a.host? || present a.password? || a.portNumber?.any (· ≠ 0) then
    .error (.address (.notAFile a.toUrl))
  for (name, kind) in fileOptions do
    match Assoc.get? name a.query with
    | some values => checkOption kind values
    | none => .ok ()
  if passesParameters a && a.database?.isNone then .error (.address .noDatabase)

/-- Reads the address of a database file.  The names of plugins are no part of it. -/
def ofFileUrl (url : String) : Except Error DatabaseAddress := do
  let a ← ofUrl url
  if let some (name :: _) := Assoc.get? "plugin" a.query then
    .error (.address (.unknownPlugin "plugins" name))
  if let some fault := driverFault? a.driver then .error (.address fault)
  let a := { a with query := Assoc.erase "plugins" a.query }
  a.checkFile
  return a

end BoundSql.DatabaseAddress
