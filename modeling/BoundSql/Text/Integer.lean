import BoundSql.Text.Blank
import BoundSql.Text.Digit

/-!
# Integers in text

The written form of an integer: padding, an optional sign, decimal digits of any script, and
padding again.  A single underscore may stand between two digits.  The digits are counted before
anything else about the text is decided, and too many of them are refused.

## Main definitions

* `isPadding` : the characters that may stand around a number.
* `readDigits?` : the digits of a run, without its underscores.
* `readNumber` : the number that a run of digits spells, if it has no more than `digitLimit`.
* `readInteger` : the integer that a text spells.
-/

namespace BoundSql.Text

/-- Why a text is not read as an integer. -/
inductive IntegerFault where
  /-- The text has another form. -/
  | malformed
  /-- The text has too many digits, namely so many. -/
  | tooLong (digits : Nat)
deriving DecidableEq, Repr

/-- The number of digits up to which integers are read. -/
def digitLimit : Nat := 4300

/-- May the character stand around a number? White space may, other than the four separators
before the space. -/
def isPadding (c : Char) : Bool := isBlank c && !decide (28 ≤ c.toNat ∧ c.toNat ≤ 31)

/-- A text without the padding around it. -/
def trimPadding (s : List Char) : List Char :=
  ((s.dropWhile isPadding).reverse.dropWhile isPadding).reverse

/-- May the character stand within a run of digits? -/
def isDigitOrUnderscore (c : Char) : Bool := isDigit c || c == '_'

/-- The digits of a run in which single underscores may stand between digits. -/
def readDigits? : List Char → Option (List Char)
  | [] => none
  | [c] => if isDigit c then some [c] else none
  | c :: '_' :: rest => if isDigit c then (c :: ·) <$> readDigits? rest else none
  | c :: rest => if isDigit c then (c :: ·) <$> readDigits? rest else none

/-- The number that digits spell, if there are at most `limit` of them. -/
def readNumber (limit : Nat) (digits : List Char) : Except IntegerFault Nat :=
  if limit < digits.length then .error (.tooLong digits.length) else .ok (digitsValue digits)

/-- A text without its sign, and whether that was a minus. -/
def splitSign : List Char → Bool × List Char
  | '-' :: rest => (true, rest)
  | '+' :: rest => (false, rest)
  | rest => (false, rest)

/-- The integer that a text spells.  Too many digits are refused before what stands behind them
is looked at. -/
def readInteger (s : String) : Except IntegerFault Int :=
  let (negative, text) := splitSign (s.toList.dropWhile isPadding)
  match readDigits? (text.takeWhile isDigitOrUnderscore) with
  | none => .error .malformed
  | some digits =>
    match readNumber digitLimit digits with
    | .error fault => .error fault
    | .ok n =>
      if (text.dropWhile isDigitOrUnderscore).all isPadding then
        .ok (if negative then -n else n)
      else .error .malformed

end BoundSql.Text
