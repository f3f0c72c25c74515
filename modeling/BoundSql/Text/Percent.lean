import BoundSql.Text.Utf8

/-!
# Percent escapes

An address writes a byte that has no other form there as a percent sign and two hexadecimal digits.
Reading is lenient: a percent sign without such digits stands for itself, characters beyond ASCII
stand for themselves too, and bytes that are no text are replaced.

The leniency is that of the documented reader.  On text that has been escaped before, none of it is
used (`Text.percentDecode_percentEncode`, `Text.formDecode_formEncode`).

## Main definitions

* `percentEncode` : a text with every character escaped that may not stand as it is.
* `percentDecode` : a text with its escapes read.
* `formEncode`, `formDecode` : the same where a space is written as a plus sign.
-/

namespace BoundSql.Text

/-- The value of a hexadecimal digit. -/
def hexValue? (c : Char) : Option Nat :=
  if '0' ≤ c ∧ c ≤ '9' then some (c.toNat - '0'.toNat)
  else if 'a' ≤ c ∧ c ≤ 'f' then some (c.toNat - 'a'.toNat + 10)
  else if 'A' ≤ c ∧ c ≤ 'F' then some (c.toNat - 'A'.toNat + 10)
  else none

/-- The byte that two hexadecimal digits spell. -/
def hexByte? (high low : Char) : Option UInt8 := do
  return UInt8.ofNat (16 * (← hexValue? high) + (← hexValue? low))

/-- The bytes of a text in ASCII, its escapes read. -/
def percentBytes : List Char → List UInt8
  | '%' :: high :: low :: rest =>
    match hexByte? high low with
    | some b => b :: percentBytes rest
    | none => UInt8.ofNat '%'.toNat :: percentBytes (high :: low :: rest)
  | c :: rest => UInt8.ofNat c.toNat :: percentBytes rest
  | [] => []

/-- Is the character in ASCII? -/
def isAscii (c : Char) : Bool := decide (c.toNat < 128)

/-- A text with its escapes read.  The stretches in ASCII are read one by one. -/
def percentDecode (s : List Char) : List Char :=
  match s with
  | [] => []
  | c :: rest =>
    if isAscii c then
      readUtf8 (percentBytes (c :: rest.takeWhile isAscii)) ++
        percentDecode (rest.dropWhile isAscii)
    else c :: percentDecode rest
termination_by s.length
decreasing_by
  · have := (List.dropWhile_sublist (l := rest) isAscii).length_le
    simp only [List.length_cons]
    omega
  · simp

/-- The two digits of a byte in an escape. -/
def hexDigits (b : UInt8) : List Char :=
  [b.toNat / 16, b.toNat % 16].map fun n => (Nat.digitChar n).toUpper

/-- May the character stand as it is in every part of an address? -/
def isUnreserved (c : Char) : Bool :=
  isAscii c && (c.isAlphanum || c == '_' || c == '.' || c == '-' || c == '~')

/-- A text with every character escaped that is neither unreserved nor among `safe`. -/
def percentEncode (safe : List Char) (s : List Char) : List Char :=
  s.flatMap fun c =>
    if isUnreserved c || safe.contains c then [c]
    else (String.utf8EncodeChar c).flatMap fun b => '%' :: hexDigits b

/-- A text as it is written in a query, where a plus sign is a space. -/
def formEncode (s : List Char) : List Char :=
  (percentEncode [' '] s).map fun c => if c == ' ' then '+' else c

/-- A text as it is read from a query. -/
def formDecode (s : List Char) : List Char :=
  percentDecode (s.map fun c => if c == '+' then ' ' else c)

end BoundSql.Text
