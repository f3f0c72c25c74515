import BoundSql.Dialect
import BoundSql.Error
import BoundSql.Settings.EnvFile
import BoundSql.Text.UpperCase

/-!
# Settings

The settings are the log level, the database, the default dialect, and whether statements are
logged and echoed.  Each is looked up in three places: what the caller gives, the environment,
and the environment file; the first place that has a value decides, and a setting found nowhere
has its default.  Names match in any letter case; of several matches the caller's first and the
others' last one counts.

## Main definitions

* `Environment` : the variables, in the order they were set.
* `Settings` : the settings.
* `Settings.load` : the settings from the three places, or all that is wrong with them.
-/

namespace BoundSql

/-- The variables of the environment, in the order they were set. -/
abbrev Environment := Assoc String String

/-- The settings. -/
structure Settings where
  logLevel : String := "INFO"
  databaseUrl : String := "sqlite:///:memory:"
  dialect : Dialect := .generic
  logStatements : Bool := false
  sqlEcho : Bool := false
deriving DecidableEq, Repr

namespace Settings

/-! ### Looking up -/

/-- The value of the entries that bear a name in any letter case: that of the first one. -/
def named? {α : Type} (name : String) (entries : Assoc String α) : Option α :=
  (entries.find? fun entry => entry.1.toLower == name.toLower).map (·.2)

/-- The value of the variables that bear a name in any letter case: that of the last one. -/
def lookup? {α : Type} (name : String) (entries : Assoc String α) : Option α :=
  named? name entries.reverse

/-- Where settings come from. -/
structure Sources where
  /-- What the caller gives, by the name of the setting. -/
  given : Assoc String Value := []
  environment : Environment := []
  /-- The text of the environment file, when there is one. -/
  file? : Option String := none

/-- The value given for a setting, which bears one name to the caller and another as a
variable. -/
def Sources.value? (s : Sources) (setting envName : String) : Option Value :=
  (named? setting s.given).or
    (((lookup? envName s.environment).or
      ((lookup? envName (EnvFile.assigned s.environment (s.file?.getD ""))).join)).map .text)

/-! ### Reading values -/

/-- Reads a text. -/
def readText : Value → Except SettingFault String
  | .text s => .ok s
  | _ => .error .notAString

/-- Reads the name of a dialect. -/
def readDialect : Value → Except SettingFault Dialect
  | .text s =>
    match Dialect.ofName? s with
    | some d => .ok d
    | none => .error .notADialect
  | _ => .error .notADialect

/-- The words for true. -/
def trueWords : List String := ["1", "on", "t", "true", "y", "yes"]

/-- The words for false. -/
def falseWords : List String := ["0", "off", "f", "false", "n", "no"]

/-- Does an integer fit in 64 bits with a sign? -/
def fitsWord (i : Int) : Bool :=
  decide (Int64.minValue.toInt ≤ i) && decide (i ≤ Int64.maxValue.toInt)

/-- Reads a boolean: itself, zero or one, or a word for it in any letter case.  Other integers
are not it, and those beyond 64 bits not even like it. -/
def readBool : Value → Except SettingFault Bool
  | .bool b => .ok b
  | .int i =>
    if i = 0 then .ok false
    else if i = 1 then .ok true
    else if fitsWord i then .error .notABoolean
    else .error .notBooleanLike
  | .text s =>
    if trueWords.contains s.toLower then .ok true
    else if falseWords.contains s.toLower then .ok false
    else .error .notABoolean
  | _ => .error .notBooleanLike

/-- The database address with the scheme in its current form: `postgres` is `postgresql`. -/
def currentScheme (url : String) : String :=
  if url.startsWith "postgres://" then "postgresql://" ++ (url.drop "postgres://".length).toString
  else url

/-! ### Loading -/

/-- A setting as read from the sources: its value, or what is wrong with it. -/
def setting {α : Type} (s : Sources) (name envName : String) (default : α)
    (read : Value → Except SettingFault α) : Except SettingIssue α :=
  match s.value? name envName with
  | none => .ok default
  | some v => (read v).mapError fun fault => ⟨name, fault, v⟩

/-- The issue of a setting, if it has one. -/
def issue? {α : Type} : Except SettingIssue α → Option SettingIssue
  | .ok _ => none
  | .error e => some e

/-- The settings from their sources, or the issues of all settings that have one, in the order
of the settings. -/
def load (s : Sources) : Except Error Settings :=
  let logLevel := Text.upperCase <$> setting s "LOG_LEVEL" "LOG_LEVEL" "INFO" readText
  let databaseUrl :=
    currentScheme <$> setting s "DATABASE_URL" "DATABASE_URL" "sqlite:///:memory:" readText
  let dialect := setting s "dialect" "DSQL_DIALECT" .generic readDialect
  let logStatements := setting s "log_statements" "DSQL_LOG_STATEMENTS" false readBool
  let sqlEcho := setting s "sql_echo" "DSQL_SQL_ECHO" false readBool
  match logLevel, databaseUrl, dialect, logStatements, sqlEcho with
  | .ok logLevel, .ok databaseUrl, .ok dialect, .ok logStatements, .ok sqlEcho =>
    .ok { logLevel, databaseUrl, dialect, logStatements, sqlEcho }
  | _, _, _, _, _ =>
    .error (.settings ((issue? logLevel).toList ++ (issue? databaseUrl).toList ++
      (issue? dialect).toList ++ (issue? logStatements).toList ++ (issue? sqlEcho).toList))

end Settings

end BoundSql
