import BoundSql.Value

/-!
# Redaction

Before anything is logged, values under sensitive keys are replaced as a whole by a mark.  A key
is sensitive when its first line contains the word password, token, api_key or secret, when it
is the name of the database address, or when it is the name of one of the salts.  Letter case
makes no difference.  Dictionaries inside a dictionary are treated in the same way, lists are
left alone.

## Main definitions

* `Redaction.isSensitive` : the test on keys.
* `Redaction.redact` : a dictionary with its sensitive values replaced.
-/

namespace BoundSql.Redaction

/-- A character without its letter case.  The long s, the kelvin sign, and the i with and
without a dot count as the letters they are a case of. -/
def fold (c : Char) : Char :=
  match c.toNat with
  | 0x17F => 's'
  | 0x212A => 'k'
  | 0x130 => 'i'
  | 0x131 => 'i'
  | _ => c.toLower

/-- Does a text contain a word? -/
def containsWord (word : List Char) : List Char → Bool
  | [] => word.isEmpty
  | c :: rest => word.isPrefixOf (c :: rest) || containsWord word rest

/-- A text without one line feed at its end. -/
def dropLastLineFeed (text : List Char) : List Char :=
  if text.getLast? = some '\n' then text.dropLast else text

/-- The words that make a key sensitive. -/
def sensitiveWords : List String := ["password", "token", "api_key", "secret"]

/-- Is the key the name of a salt: a beginning, anything within one line, and an end? -/
def isSaltName (key : List Char) : Bool :=
  let start := "dsql_".toList
  let stop := "_salt".toList
  start.isPrefixOf key && stop.isSuffixOf (key.drop start.length) && !key.contains '\n'

/-- Must the value under the key not be shown? -/
def isSensitive (key : String) : Bool :=
  let folded := key.toList.map fold
  let name := dropLastLineFeed folded
  sensitiveWords.any (fun word => containsWord word.toList (folded.takeWhile (· != '\n'))) ||
    name == "database_url".toList || isSaltName name

/-- What stands in the place of a sensitive value. -/
def mark : Value := .text "[REDACTED]"

mutual

/-- A dictionary with its sensitive values replaced. -/
def redact : List (String × Value) → List (String × Value)
  | [] => []
  | (key, v) :: rest =>
    (key, if isSensitive key then mark else redactValue v) :: redact rest

/-- A value with the sensitive values of its dictionary replaced, if it is one. -/
def redactValue : Value → Value
  | .object fields => .object (redact fields)
  | v => v

end

end BoundSql.Redaction
