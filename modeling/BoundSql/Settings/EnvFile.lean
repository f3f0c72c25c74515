import BoundSql.Assoc
import BoundSql.Path
import BoundSql.Text.Blank

/-!
# Environment files

An environment file gives variables in lines `NAME=value`.  A line may start with `export`; a `#`
behind a blank starts a comment; a name or a value may stand in quotes, and a quoted value may run
over several lines.  A backslash in quotes and the character behind it belong together: in single
quotes they are an escape for a backslash or the quote, in double quotes also for control
characters.  A reference to another variable, with or without a default, is replaced by that
variable's value.  A line that cannot be read is skipped.  A byte order mark at the very beginning
does not count.

The format is that of the library through which settings are read, whose documented behaviour this
module restates, as thin as the settings need it.  That files exist which it reads as they were
meant is shown about the definitions here (`EnvFile.parse_written`); nothing else about settings
depends on how a line is cut.

## Main definitions

* `EnvFile.parse` : the assignments of a file, in order; a name without `=` has no value.
* `EnvFile.assigned` : the variables of a file, with references replaced.
* `EnvFile.location` : where the file is looked for.
-/

namespace BoundSql.EnvFile

/-- The text without a byte order mark at its beginning. -/
def dropOrderMark : List Char → List Char
  | '\ufeff' :: rest => rest
  | text => text

/-- The text with every line end written as a line feed. -/
def unifyLineEnds : List Char → List Char
  | [] => []
  | '\r' :: '\n' :: rest => '\n' :: unifyLineEnds rest
  | c :: rest => (if c == '\r' then '\n' else c) :: unifyLineEnds rest

/-- The rest of the current line. -/
def lineRest (text : List Char) : List Char := text.takeWhile (· != '\n')

/-- The text behind the current line. -/
def skipLine (text : List Char) : List Char := (text.dropWhile (· != '\n')).drop 1

/-- The text behind blanks and the end of the line, if nothing else stands before it. -/
def endOfLine? (text : List Char) : Option (List Char) :=
  match text.dropWhile Text.isInlineBlank with
  | [] => some []
  | '\n' :: rest => some rest
  | _ => none

/-- The text behind a comment, if there is one. -/
def skipComment (text : List Char) : List Char :=
  match text.dropWhile Text.isInlineBlank with
  | '#' :: rest => rest.dropWhile (· != '\n')
  | _ => text

/-- The text behind the word `export` and the blanks that follow it, if it is there. -/
def skipExport (text : List Char) : List Char :=
  match text with
  | 'e' :: 'x' :: 'p' :: 'o' :: 'r' :: 't' :: c :: rest =>
    if Text.isInlineBlank c then rest.dropWhile Text.isInlineBlank else text
  | _ => text

/-- The content of a quoted text whose opening quote was read, and the text behind it.  A
character behind a backslash does not close the text. -/
def quoted? (quote : Char) : List Char → Option (List Char × List Char)
  | [] => none
  | '\\' :: c :: rest =>
    (quoted? quote rest).map fun (content, rest) => ('\\' :: c :: content, rest)
  | c :: rest =>
    if c == quote then some ([], rest)
    else (quoted? quote rest).map fun (content, rest) => (c :: content, rest)

/-- The character an escape in double quotes stands for. -/
def escaped? : Char → Option Char
  | '\\' => some '\\'
  | '\x27' => some '\x27'
  | '\x22' => some '\x22'
  | 'a' => some '\x07'
  | 'b' => some '\x08'
  | 'f' => some '\x0c'
  | 'n' => some '\n'
  | 'r' => some '\r'
  | 't' => some '\t'
  | 'v' => some '\x0b'
  | _ => none

/-- The character an escape in single quotes stands for. -/
def escapedPlain? : Char → Option Char
  | '\\' => some '\\'
  | '\x27' => some '\x27'
  | _ => none

/-- A quoted text with its escapes replaced. -/
def unescape (escape? : Char → Option Char) : List Char → List Char
  | [] => []
  | '\\' :: c :: rest =>
    match escape? c with
    | some d => d :: unescape escape? rest
    | none => '\\' :: unescape escape? (c :: rest)
  | c :: rest => c :: unescape escape? rest

/-- A text up to a comment, which starts with blanks and a `#`. -/
def beforeComment : List Char → List Char
  | [] => []
  | c :: rest =>
    if Text.isBlank c && (rest.dropWhile Text.isBlank).head? == some '#' then []
    else c :: beforeComment rest

/-- A text without the blanks around it. -/
def trim (text : List Char) : List Char :=
  ((text.dropWhile Text.isBlank).reverse.dropWhile Text.isBlank).reverse

/-- Reads a value, which blanks may precede, and the text behind it. -/
def value? (text : List Char) : Option (List Char × List Char) :=
  match text.dropWhile Text.isInlineBlank with
  | '\x27' :: rest =>
    (quoted? '\x27' rest).map fun (content, rest) => (unescape escapedPlain? content, rest)
  | '\x22' :: rest =>
    (quoted? '\x22' rest).map fun (content, rest) => (unescape escaped? content, rest)
  | _ => some (trim (beforeComment (lineRest text)), text.dropWhile (· != '\n'))

/-- Reads a name and the text behind it.  A comment counts as no name. -/
def name? (text : List Char) : Option (Option (List Char) × List Char) :=
  match text with
  | '#' :: _ => some (none, text)
  | '\x27' :: rest =>
    match rest.takeWhile (· != '\x27'), rest.dropWhile (· != '\x27') with
    | c :: name, _ :: rest => some (some (c :: name), rest)
    | _, _ => none
  | _ =>
    let inName := fun c => !(c == '=' || c == '#' || Text.isBlank c)
    match text.takeWhile inName with
    | [] => none
    | name => some (some name, text.dropWhile inName)

/-- A variable and its value, where it has one. -/
abbrev Assignment := String × Option String

/-- What was read, or else the text at which reading stopped. -/
def readOr {α : Type} (text : List Char) : Option α → Except (List Char) α
  | some a => .ok a
  | none => .error text

/-- Reads one line from its first character on: the assignment in it, if any, and the text
behind it.  A line that cannot be read gives the text at which reading stopped. -/
def readLine (text : List Char) : Except (List Char) (Option Assignment × List Char) := do
  let text := skipExport text
  let (name, rest) ← readOr text (name? text)
  let rest := rest.dropWhile Text.isInlineBlank
  let (value, rest) ← match rest with
    | '=' :: rest => do
      let (value, rest) ← readOr rest (value? rest)
      pure (some value, rest)
    | _ => pure (none, rest)
  let rest := skipComment rest
  let behind ← readOr rest (endOfLine? rest)
  return (name.map fun n => (String.ofList n, value.map String.ofList), behind)

/-- Reads at most `fuel` lines. -/
def readLines : Nat → List Char → List Assignment
  | 0, _ => []
  | fuel + 1, text =>
    match text.dropWhile Text.isBlank with
    | [] => []
    | text =>
      match readLine text with
      | .ok (some assignment, rest) => assignment :: readLines fuel rest
      | .ok (none, rest) => readLines fuel rest
      | .error rest => readLines fuel (skipLine rest)

/-- The assignments of a file, in order.  Every line has at least one character, so the length
of the text bounds their number. -/
def parse (text : String) : List Assignment :=
  readLines (text.length + 1) (unifyLineEnds (dropOrderMark text.toList))

/-! ### References -/

/-- A reference to a variable whose opening brace was read: its name, its default, and the
text behind it. -/
def reference? (text : List Char) : Option (String × Option String × List Char) :=
  let inName := fun c => !(c == '\x7d' || c == ':')
  let name := String.ofList (text.takeWhile inName)
  match text.dropWhile inName with
  | '\x7d' :: rest => some (name, none, rest)
  | ':' :: '-' :: rest =>
    match rest.dropWhile (· != '\x7d') with
    | _ :: behind => some (name, some (String.ofList (rest.takeWhile (· != '\x7d'))), behind)
    | [] => none
  | _ => none

/-- A value with its references replaced; a variable that is not set counts as its default, or
as empty. -/
def resolve (known : Assoc String (Option String)) : Nat → List Char → List Char
  | 0, text => text
  | _ + 1, [] => []
  | fuel + 1, '$' :: '\x7b' :: rest =>
    match reference? rest with
    | some (name, default?, behind) =>
      let value := match Assoc.get? name known with
        | some value? => value?.getD ""
        | none => default?.getD ""
      value.toList ++ resolve known fuel behind
    | none => '$' :: resolve known fuel ('\x7b' :: rest)
  | fuel + 1, c :: rest => c :: resolve known fuel rest

/-- The variables of a file, with the references in their values replaced.  A reference sees the
environment and the assignments before it, which take precedence. -/
def assigned (environment : Assoc String String) (text : String) : Assoc String (Option String) :=
  let outer : Assoc String (Option String) := environment.map fun v => (v.1, some v.2)
  (parse text).foldl (fun found (name, value?) =>
    let seen := Assoc.putAll outer found
    let value? := value?.map fun v => String.ofList (resolve seen (v.length + 1) v.toList)
    Assoc.put name value? found) []

/-! ### Location -/

/-- The home directory of a user, by the accounts of the machine.  The present user has no name
here, and the environment may give that home directory. -/
def homeOf (environment accounts : Assoc String String) (user : String) : Option String :=
  (if user = "" then Assoc.get? "HOME" environment else none).or (Assoc.get? user accounts)

/-- Where the environment file lies: beside the project, unless the environment names another
place, which is taken relative to the project and may start with a home directory. -/
def location (root : Path) (environment accounts : Assoc String String) : Except Error Path :=
  match (Assoc.get? "DSQL_ENV_FILE" environment).filter (· ≠ "") with
  | some place => do
    let path ← (Path.ofString place).expandHome (homeOf environment accounts)
    return root.join path
  | none => .ok (root.join (Path.ofString ".env"))

end BoundSql.EnvFile
