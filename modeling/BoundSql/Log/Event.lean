import BoundSql.Error
import BoundSql.Log.Redaction
import BoundSql.Settings

/-!
# Log events

An event is a dictionary: the fields bound to its logger, the fields it was logged with, its
name, its level and the name of its logger, with everything sensitive redacted.

## Main definitions

* `LogLevel` : the levels, with their weights.
* `Threshold`, `Threshold.ofName` : what the name of a level stands for.
* `LogEvent`, `Logger.event` : the events and how a logger makes them.
* `Logger.log` : an event made by a call.
* `executionFailed`, `batchFlushed`, `statementRendered` : the events of this library.
* `threshold` : the level that is in force.
-/

namespace BoundSql

/-- The levels at which events are logged. -/
inductive LogLevel where
  | debug
  | info
  | warning
  | error
  | critical
deriving DecidableEq, Repr

namespace LogLevel

/-- The name of a level in events. -/
def name : LogLevel → String
  | debug => "debug"
  | info => "info"
  | warning => "warning"
  | error => "error"
  | critical => "critical"

/-- The level of a name; some levels have other names besides. -/
def ofName? : String → Option LogLevel
  | "debug" => some debug
  | "info" => some info
  | "warning" | "warn" => some warning
  | "error" | "exception" => some error
  | "critical" | "fatal" => some critical
  | _ => none

/-- The weight of a level; only events at least as heavy as the level in force are written. -/
def weight : LogLevel → Nat
  | debug => 10
  | info => 20
  | warning => 30
  | error => 40
  | critical => 50

end LogLevel

/-- What the name of a level stands for. -/
inductive Threshold where
  /-- Only events at least as heavy are written. -/
  | weight (n : Nat)
  /-- The name is taken, but by the basic format of lines, which is no level. -/
  | format
  /-- The name is taken, but by the table of line styles. -/
  | styles
deriving DecidableEq, Repr

namespace Threshold

/-- The basic format of lines. -/
def basicFormat : String := "%(levelname)s:%(name)s:%(message)s"

/-- The table of line styles as it is shown: for each the sign that marks its fields, its name,
and the basic format in it. -/
def lineStyles : String :=
  let line := fun (before behind : String) =>
    ":".intercalate (["levelname", "name", "message"].map fun field => before ++ field ++ behind)
  let entry := fun (sign style line : String) =>
    "'" ++ sign ++ "': (<class 'logging." ++ style ++ "'>, '" ++ line ++ "')"
  "\x7b" ++ ", ".intercalate
    [entry "%" "PercentStyle" (line "%(" ")s"), entry "\x7b" "StrFormatStyle" (line "\x7b" "\x7d"),
     entry "$" "StringTemplateStyle" (line "$\x7b" "\x7d")] ++ "\x7d"

/-- What a name in capitals stands for.  Unknown names count as `INFO`. -/
def ofName : String → Threshold
  | "NOTSET" => weight 0
  | "DEBUG" => weight LogLevel.debug.weight
  | "INFO" => weight LogLevel.info.weight
  | "WARN" => weight LogLevel.warning.weight
  | "WARNING" => weight LogLevel.warning.weight
  | "ERROR" => weight LogLevel.error.weight
  | "CRITICAL" => weight LogLevel.critical.weight
  | "FATAL" => weight LogLevel.critical.weight
  | "BASIC_FORMAT" => format
  | "_STYLES" => styles
  | _ => weight LogLevel.info.weight

/-- The weight from which on events are written, where there is one. -/
def toWeight : Threshold → Except Error Nat
  | weight n => .ok n
  | format => .error (.unknownLevel basicFormat)
  | styles => .error (.notALevel lineStyles)

end Threshold

/-- An event as it is written. -/
abbrev LogEvent := Assoc String Value

/-- A logger: its name and the fields it adds to every event. -/
structure Logger where
  name : String
  bound : Assoc String Value := []

namespace Logger

/-- The logger of a name; without one it is the root logger. -/
def named (name : String) : Logger := ⟨if name = "" then "root" else name, []⟩

/-- The first of the given names that is taken by a field, as an error of a call. -/
def clash? (call : String) (fields : Assoc String Value) (names : List String) : Option Error :=
  (names.find? (Assoc.keys fields).contains).map (Error.fieldTaken call)

/-- The logger that fields are bound to. -/
def withContext (bound : Assoc String Value) : Except Error Logger :=
  match clash? "BoundLoggerLazyProxy.bind" bound ["self"] with
  | some e => .error e
  | none => .ok ⟨"dynamic_sql.utils.logging", bound⟩

/-- The fields that are instructions to the logger rather than parts of an event. -/
def instructions : List String := ["exc_info", "stack_info"]

/-- An event of the logger, which may go without a name.  The time of an event is not part of it:
what a caller logs as the time stamp is dropped, and so are instructions to the logger. -/
def event (logger : Logger) (level : LogLevel) (name? : Option String)
    (fields : Assoc String Value) : LogEvent :=
  let kept := ("timestamp" :: instructions).foldr Assoc.erase (Assoc.putAll logger.bound fields)
  let named := match name? with
    | some name => Assoc.put "event" (.text name) kept
    | none => kept
  Redaction.redact <|
    Assoc.put "logger" (.text logger.name) <| Assoc.put "level" (.text level.name) named

/-- The record that an event is said to come from. -/
def record? (logger : Logger) (fields : Assoc String Value) : Option Value :=
  Assoc.get? "_record" (Assoc.putAll logger.bound fields)

/-- The name of the call that a call is carried out as; some have a second name. -/
def callName : String → String
  | "warn" => "warning"
  | "fatal" => "critical"
  | call => call

/-- The event that a call makes, which is named as its level is.  No field can bear the name of
an argument of the call.  A record that an event is said to come from would have to name its
logger, and no value does.  The call `log` takes the weight of a level first, which no name is. -/
def log (logger : Logger) (call : String) (name? : Option String) (fields : Assoc String Value) :
    Except Error LogEvent :=
  match LogLevel.ofName? call with
  | none =>
    .error (if call = "log" then
        (clash? "BoundLogger.log" fields ["level", "self"]).getD (.noSuchWeight name?)
      else .attributeMissing "BoundLogger" call)
  | some level =>
    match (clash? ("BoundLogger." ++ callName call) fields ["event", "self"]).or
        (clash? "BoundLogger._proxy_to_logger" fields ["method_name"]) with
    | some e => .error e
    | none =>
      match (logger.record? fields).filter (!·.isNull) with
      | some v => .error (.attributeMissing v.typeName "name")
      | none => .ok (logger.event level name? fields)

end Logger

/-! ### The events of this library -/

/-- The logger of the executors. -/
def executorLogger : Logger := .named "dynamic_sql.io.executor"

/-- The logger of the mapper functions. -/
def mapperLogger : Logger := .named "dynamic_sql.infrastructure.sql.mapper_support"

/-- An execution failed. -/
def executionFailed (e : ExecutionError) : LogEvent :=
  executorLogger.event .error (some "statement_failed") e.fields

/-- Queued statements were sent, in groups. -/
def batchFlushed (statements groups : Nat) : LogEvent :=
  executorLogger.event .info (some "batch_flushed")
    [("statement_count", .int statements), ("group_count", .int groups)]

/-- A statement was rendered for a mapper. -/
def statementRendered (kind : StatementKind) (sql : String) (parameters : Nat) : LogEvent :=
  mapperLogger.event .debug (some "statement_rendered")
    [("statement_kind", .text kind.name), ("sql", .text sql), ("parameter_count", .int parameters)]

/-! ### The level in force -/

/-- The level in force: that of the settings, and when these cannot be read, that of the
variable `LOG_LEVEL`. -/
def threshold (settings : Except Error Settings) (environment : Environment) : Threshold :=
  match settings with
  | .ok s => .ofName (Text.upperCase s.logLevel)
  | .error _ => .ofName (Text.upperCase ((Assoc.get? "LOG_LEVEL" environment).getD "INFO"))

end BoundSql
