import BoundSql.Kind
import BoundSql.Value
import BoundSql.Text.Integer
import BoundSql.Text.Printable

/-!
# Errors

Everything that can go wrong, by cause.  Building a statement fails because the builder was left
malformed, executing one fails because the connection or the reading of its result did, and the
remaining errors are about names, records, settings and values.

## Main definitions

* `BuildProblem`, `BuildError` : a malformed statement, with the kind of statement it was for.
* `ExecutionError` : a failed execution, with the text that was sent and the error underneath.  It
  wraps an error of the database layer, which is `Error.database` where nothing wraps it.
* `SettingIssue` : one setting whose value is not acceptable.
* `AddressFault` : what is wrong with the address of a database.
* `Error` : all of them together, and `Error.message`, their wording.
-/

namespace BoundSql

/-- How a property can be absent: a mapping lacks the key, an object lacks the attribute. -/
inductive Absence where
  | key
  | attribute
deriving DecidableEq, Repr

/-- What is wrong with a statement that cannot be rendered. -/
inductive BuildProblem where
  | emptySelectList
  | missingFrom
  | joinWithoutCriterion
  | joinedSubqueryWithoutAlias
  | negativeLimit
  | negativeOffset
  | notOrderable
  | missingTable
  | noMappedColumns
  | valueInRowInsert
  | invalidParameterName (property : String)
  | nothingToInsert
  | noRecords
  | whenPresentForManyRows
  | missingSelect
  | missingProperty (property : String) (absence : Absence)
  | nothingToSet
  | unsupportedInUpdate (mapping : MappingKind)
deriving DecidableEq, Repr

/-- The wording of a build problem. -/
def BuildProblem.message : BuildProblem → String
  | emptySelectList => "Select list must not be empty"
  | missingFrom => "FROM clause is required"
  | joinWithoutCriterion => "JOIN requires at least one ON criterion"
  | joinedSubqueryWithoutAlias => "Joined subquery requires an alias"
  | negativeLimit => "LIMIT must not be negative"
  | negativeOffset => "OFFSET must not be negative"
  | notOrderable => "ORDER BY requires a column or an aliased expression"
  | missingTable => "INSERT requires a target table"
  | noMappedColumns => "INSERT has no mapped columns"
  | valueInRowInsert => "Value mappings are not supported for row inserts"
  | invalidParameterName property =>
    "Property '" ++ property ++ "' is not a valid bind parameter name"
  | nothingToInsert => "INSERT has no column to render"
  | noRecords => "Multi-row insert requires at least one record"
  | whenPresentForManyRows => "to_property_when_present is only supported for single-row inserts"
  | missingSelect => "INSERT ... SELECT requires a select statement"
  | missingProperty property _ => "Record has no property '" ++ property ++ "'"
  | nothingToSet => "UPDATE requires at least one SET clause"
  | unsupportedInUpdate mapping => "Unsupported mapping for UPDATE: " ++ mapping.name

/-- A message with the name of the statement kind appended, when there is one. -/
def withStatementKind (message : String) (kind? : Option String) : String :=
  match kind?.filter (· ≠ "") with
  | some kind => message ++ " (statement='" ++ kind ++ "')"
  | none => message

/-- A statement that cannot be rendered. -/
structure BuildError where
  problem : BuildProblem
  kind : StatementKind
deriving DecidableEq, Repr

/-- The wording of a build error, which names the statement kind. -/
def BuildError.message (e : BuildError) : String :=
  withStatementKind e.problem.message (some e.kind.name)

/-- A statement whose execution failed: the text that was sent, and the error underneath. -/
structure ExecutionError where
  message : String
  sql : Option String
  underlying : Option Raised
deriving DecidableEq, Repr

/-- The fields under which an execution error is reported and logged. -/
def ExecutionError.fields (e : ExecutionError) : Assoc String Value :=
  [("error_type", .text "ExecutionError"),
   ("message", .text e.message),
   ("sql", .ofText? e.sql),
   ("original_error_type", .ofText? (e.underlying.map Raised.kind)),
   ("original_error_message", .ofText? (e.underlying.map Raised.message))]

/-- Why a setting's value is not acceptable. -/
inductive SettingFault where
  | notADialect
  | notABoolean
  | notBooleanLike
  | notAString
deriving DecidableEq, Repr

/-- The code of a setting fault. -/
def SettingFault.code : SettingFault → String
  | notADialect => "literal_error"
  | notABoolean => "bool_parsing"
  | notBooleanLike => "bool_type"
  | notAString => "string_type"

/-- The wording of a setting fault. -/
def SettingFault.message : SettingFault → String
  | notADialect => "Input should be 'generic', 'postgresql' or 'mysql'"
  | notABoolean => "Input should be a valid boolean, unable to interpret input"
  | notBooleanLike => "Input should be a valid boolean"
  | notAString => "Input should be a valid string"

/-- A setting with a value that is not acceptable. -/
structure SettingIssue where
  setting : String
  fault : SettingFault
  input : Value

/-- What is wrong with the address of a database. -/
inductive AddressFault where
  /-- The text has not the form of an address. -/
  | unreadable
  /-- A driver is named by more than a family and a member of it. -/
  | severalMembers
  /-- What a driver's name stands for is no driver. -/
  | notADriver (what : String)
  /-- Nothing of this name can be loaded from the group. -/
  | unknownPlugin (group name : String)
  /-- The library that a driver needs is not installed. -/
  | driverMissing (library : String)
  /-- The address does not name a file, but something on a host. -/
  | notAFile (address : String)
  /-- An option is no flag. -/
  | notAFlag (text : String)
  /-- An option is no real number. -/
  | notAReal (text : String)
  /-- An option that is a real number is given several times. -/
  | severalReals
  /-- There are parameters for a database that is not named. -/
  | noDatabase
deriving DecidableEq, Repr

/-- The wording of an address fault. -/
def AddressFault.message : AddressFault → String
  | unreadable => "Could not parse SQLAlchemy URL from given URL string"
  | severalMembers => "too many values to unpack (expected 2)"
  | notADriver what => what ++ " has no attribute 'dialect'"
  | unknownPlugin group name => "Can't load plugin: sqlalchemy." ++ group ++ ":" ++ name
  | driverMissing library => "No module named " ++ Text.shown library
  | notAFile address =>
    "Invalid SQLite URL: " ++ address ++ "\nValid SQLite URL forms are:\n" ++
      " sqlite:///:memory: (or, sqlite://)\n sqlite:///relative/path/to/file.db\n" ++
      " sqlite:////absolute/path/to/file.db"
  | notAFlag text => "String is not true/false: " ++ Text.shown text
  | notAReal text => "could not convert string to float: " ++ Text.shown text
  | severalReals => "float() argument must be a string or a real number, not 'tuple'"
  | noDatabase => "unsupported operand type(s) for +=: 'NoneType' and 'str'"

/-- Everything that can go wrong. -/
inductive Error where
  /-- A statement was left malformed. -/
  | build (e : BuildError)
  /-- An execution failed. -/
  | execution (e : ExecutionError)
  /-- The database layer raised an error, and nothing has wrapped it yet. -/
  | database (f : Raised)
  /-- The settings cannot be read. -/
  | settings (issues : List SettingIssue)
  /-- The address of the database cannot be used. -/
  | address (fault : AddressFault)
  /-- Nothing is logged at a level of this name. -/
  | unknownLevel (name : String)
  /-- A name, or none, was given in place of the weight of a level. -/
  | noSuchWeight (name? : Option String)
  /-- A field bears the name of an argument of a call. -/
  | fieldTaken (call field : String)
  /-- What is shown so is no level. -/
  | notALevel (shown : String)
  /-- A home directory is not known. -/
  | homeUnknown
  /-- No dialect has this name. -/
  | unknownDialect (name : String)
  /-- A table was declared without a name. -/
  | emptyTableName
  /-- The projection of all columns was given an alias. -/
  | aliasedStar
  /-- A mapping was used where only literals are written. -/
  | notLiteral (mapping : MappingKind)
  /-- A mapping record has no such key. -/
  | keyMissing (key : String)
  /-- A value of the named type has no such attribute. -/
  | attributeMissing (owner name : String)
  /-- A model record has no such attribute. -/
  | modelAttributeMissing (name : String)
  /-- A model record declares no such field. -/
  | fieldUndeclared (name : String)
  /-- A bare value has no properties to list. -/
  | noProperties
  /-- A placeholder refers to a record that is not there. -/
  | recordOutOfRange
  /-- A placeholder refers to a record at a position that no list has. -/
  | positionTooLarge
  /-- A row has too few values. -/
  | rowTooShort
  /-- A result has no columns. -/
  | noColumns
  /-- A value of the named type cannot serve as a key. -/
  | notAKey (type : String)
  /-- A text does not spell an integer. -/
  | notAnInteger (text : String)
  /-- An integer has too many digits, namely so many. -/
  | tooManyDigits (digits : Nat)
  /-- A value of the named type cannot be read as an integer. -/
  | notNumeric (type : String)
  /-- A value of the named type cannot be compared with a number. -/
  | notComparable (type : String)
  /-- The sources of a select statement contain each other. -/
  | cyclicSources
  /-- A draft of another kind was expected. -/
  | unexpectedDraft
  /-- Code of the caller raised an error of its own. -/
  | raised (e : Raised)

/-- The wording of an error.  Issues with settings are reported one by one instead. -/
def Error.message : Error → String
  | build e => e.message
  | execution e => e.message
  | database f => f.message
  | settings _ => ""
  | address fault => fault.message
  | unknownLevel name => "Unknown level: " ++ Text.shown name
  | noSuchWeight name? => (name?.map Text.shown).getD "None"
  | fieldTaken call field => call ++ "() got multiple values for argument '" ++ field ++ "'"
  | notALevel shown => "Level not an integer or a valid string: " ++ shown
  | homeUnknown => "Could not determine home directory."
  | unknownDialect name =>
    "Unknown SQL dialect '" ++ name ++ "'. Supported: ['generic', 'mysql', 'postgresql']"
  | emptyTableName => "Table name must not be empty"
  | aliasedStar => "'*' cannot be aliased"
  | notLiteral mapping => "Not a literal mapping: " ++ mapping.name
  | keyMissing key => Text.shown key
  | attributeMissing owner name => "'" ++ owner ++ "' object has no attribute '" ++ name ++ "'"
  | modelAttributeMissing name => "'Record' object has no attribute " ++ Text.shown name
  | fieldUndeclared name => "\"Record\" object has no field \"" ++ name ++ "\""
  | noProperties => "vars() argument must have __dict__ attribute"
  | recordOutOfRange => "list index out of range"
  | positionTooLarge => "cannot fit 'int' into an index-sized integer"
  | rowTooShort => "tuple index out of range"
  | noColumns => "list index out of range"
  | notAKey type => "unhashable type: '" ++ type ++ "'"
  | notAnInteger text =>
    "invalid literal for int() with base 10: " ++ Text.shownClipped 200 text
  | tooManyDigits digits =>
    "Exceeds the limit (4300 digits) for integer string conversion: value has " ++
      toString digits ++ " digits; use sys.set_int_max_str_digits() to increase the limit"
  | notNumeric type =>
    "int() argument must be a string, a bytes-like object or a real number, not '" ++ type ++ "'"
  | notComparable type =>
    "'<' not supported between instances of '" ++ type ++ "' and 'int'"
  | cyclicSources => "maximum recursion depth exceeded"
  | unexpectedDraft => "unexpected kind of draft"
  | raised e => e.message

/-- The error of a text that is not read as an integer. -/
def Error.ofIntegerFault (text : String) : Text.IntegerFault → Error
  | .malformed => .notAnInteger text
  | .tooLong digits => .tooManyDigits digits

/-- A build error as an outcome. -/
def fail {α : Type} (problem : BuildProblem) (kind : StatementKind) : Except Error α :=
  .error (.build ⟨problem, kind⟩)

end BoundSql
