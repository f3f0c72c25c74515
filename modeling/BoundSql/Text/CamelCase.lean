/-!
# Camel case

A name is cut into words, the maximal runs of ASCII letters and digits; the first word is
written in lower case and every further word starts with a capital.  A name without any word
is left alone.

## Main definitions

* `words` : the maximal runs of ASCII letters and digits.
* `camelCase` : the words put together again.
-/

namespace BoundSql.Text

/-- The maximal runs of ASCII letters and digits, in order. -/
def words : List Char → List (List Char)
  | [] => []
  | c :: rest =>
    if c.isAlphanum then
      if rest.head?.any Char.isAlphanum then
        match words rest with
        | [] => [[c]]
        | w :: ws => (c :: w) :: ws
      else [c] :: words rest
    else words rest

/-- A word in lower case, except that a letter at its start becomes a capital. -/
def capitalized : List Char → List Char
  | [] => []
  | c :: rest => c.toUpper :: rest.map Char.toLower

/-- The first word in lower case, every further one capitalized. -/
def joinCamel : List (List Char) → List Char
  | [] => []
  | w :: ws => w.map Char.toLower ++ ws.flatMap capitalized

/-- The name in camel case; a name without ASCII letters and digits is returned as is. -/
def camelCase (name : String) : String :=
  match words name.toList with
  | [] => name
  | w :: ws => String.ofList (joinCamel (w :: ws))

end BoundSql.Text
