import BoundSql.Text.Integer

/-!
# Real numbers in text

The written form of a real number: padding, an optional sign, and either decimal digits with an
optional point among or beside them and an optional exponent, or a word for infinity or for no
number at all; then padding again.  A single underscore may stand between two digits.

Only the form is of interest here, not the number: an option of a database file is refused when it
has another form, and is never used as a number.

## Main definitions

* `isReal` : does a text spell a real number?
-/

namespace BoundSql.Text

/-- The words that stand for a number that is not finite. -/
def infiniteWords : List String := ["inf", "infinity", "nan"]

/-- A text without its underscores, if each of them stands between two digits. -/
def dropUnderscores? : List Char → Option (List Char)
  | [] => some []
  | '_' :: _ => none
  | c :: '_' :: d :: rest =>
    if isDigit c && isDigit d then (c :: ·) <$> dropUnderscores? (d :: rest) else none
  | c :: rest => (c :: ·) <$> dropUnderscores? rest

/-- Is the text empty or an exponent: the letter, an optional sign, and digits? -/
def isExponent : List Char → Bool
  | [] => true
  | c :: rest =>
    let digits := (splitSign rest).2
    c.toLower == 'e' && !digits.isEmpty && digits.all isDigit

/-- Does the text, which has no sign, spell a finite number? -/
def isFinite (s : List Char) : Bool :=
  let whole := s.takeWhile isDigit
  match s.dropWhile isDigit with
  | '.' :: rest =>
    !(whole.isEmpty && (rest.takeWhile isDigit).isEmpty) && isExponent (rest.dropWhile isDigit)
  | rest => !whole.isEmpty && isExponent rest

/-- Does the text spell a real number? -/
def isReal (s : String) : Bool :=
  let text := (splitSign (trimPadding s.toList)).2
  infiniteWords.contains (String.ofList text).toLower || (dropUnderscores? text).any isFinite

end BoundSql.Text
