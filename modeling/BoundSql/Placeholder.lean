import BoundSql.Context
import BoundSql.Record
import BoundSql.Text.Word
import BoundSql.Text.Integer

/-!
# Placeholders

A parameter is referred to in statement text by a colon and its name.  Text is read back by one
rule: a placeholder is a colon that follows neither a colon nor a word character, together with
the run of word characters behind it.  Quotes in the text make no difference.

The parameters of an insert of many rows are named by the position of the record and the
property, so they can be found again in the finished text.

## Main definitions

* `placeholderNames` : the names of the placeholders in a text, from left to right.
* `RowSlot` : a property of the record at a position, with its `RowSlot.name`.
* `RowReference` : a row slot as it is written, with `RowReference.ofName?` and
  `RowReference.slot`.
* `rowReferences` : the row slots referred to in a text.
* `bindRowSlots` : the parameters of the row slots in a text, read from the records.
-/

namespace BoundSql

/-! ### Reading placeholders -/

/-- May a placeholder start behind this character? -/
def opensPlaceholder : Option Char → Bool
  | none => true
  | some c => !(c == ':') && !Text.isWordChar c

/-- The names of the placeholders in a text that follows the character `before?`. -/
def placeholderNamesAfter (before? : Option Char) : List Char → List (List Char)
  | [] => []
  | c :: rest =>
    let more := placeholderNamesAfter (some c) rest
    if c == ':' && opensPlaceholder before? then
      match rest.takeWhile Text.isWordChar with
      | [] => more
      | name => name :: more
    else more

/-- The names of the placeholders in a text, from left to right. -/
def placeholderNames (sql : String) : List String :=
  (placeholderNamesAfter none sql.toList).map String.ofList

/-! ### Row slots -/

/-- A property of the record at a position. -/
structure RowSlot where
  index : Nat
  property : String
deriving DecidableEq, Repr

/-- What the names of row slots begin with. -/
def rowStem : String := "records_"

/-- The parameter name of a property of the record at a position. -/
def rowSlotName (index : Int) (property : String) : String :=
  rowStem ++ toString index ++ "_" ++ property

/-- The parameter name of a row slot. -/
def RowSlot.name (slot : RowSlot) : String := rowSlotName slot.index slot.property

/-- A row slot as it is written: the digits of the position, and the property. -/
structure RowReference where
  digits : List Char
  property : String
deriving DecidableEq, Repr

namespace RowReference

/-- The rest of the text behind a given beginning. -/
def dropStem? : List Char → List Char → Option (List Char)
  | [], text => some text
  | _ :: _, [] => none
  | s :: stem, c :: text => if s == c then dropStem? stem text else none

/-- Reads a parameter name as that of a row slot: the stem, a number in the digits of any
script, an underscore, and a property of at least one character. -/
def ofName? (name : String) : Option RowReference := do
  let rest ← dropStem? rowStem.toList name.toList
  let digits := rest.takeWhile Text.isDigit
  let behind ← dropStem? ['_'] (rest.dropWhile Text.isDigit)
  if digits.isEmpty || behind.isEmpty then none
  else some ⟨digits, String.ofList behind⟩

/-- The number of digits up to which positions in a list of the given length are read: as many
as for any other integer, unless the length itself has more. -/
def digitLimit (length : Nat) : Nat := max Text.digitLimit (toString length).length

/-- The row slot that is meant, in a list of records of the given length. -/
def slot (r : RowReference) (length : Nat) : Except Error RowSlot :=
  match Text.readNumber (digitLimit length) r.digits with
  | .ok index => .ok ⟨index, r.property⟩
  | .error _ => .error (.tooManyDigits r.digits.length)

end RowReference

/-- The row slots referred to in a text, each under the name it has there. -/
def rowReferences (sql : String) : List (String × RowReference) :=
  (placeholderNames sql).filterMap fun name =>
    (RowReference.ofName? name).map fun reference => (name, reference)

/-- Positions from here on, which 63 bits do not hold, are in no list. -/
def positionBound : Nat := 9223372036854775808

/-- The value of a row slot. -/
def RowSlot.value (slot : RowSlot) (records : List Record) : Except Error Value :=
  match records[slot.index]? with
  | some record => record.get slot.property
  | none => .error (if slot.index < positionBound then .recordOutOfRange else .positionTooLarge)

/-- The parameters of the row slots in a text, read from the records in order of the text. -/
def bindRowSlots (sql : String) (records : List Record) : Except Error Parameters := do
  let entries ← (rowReferences sql).mapM fun (name, reference) => do
    let slot ← reference.slot records.length
    let v ← slot.value records
    return (name, v)
  return Assoc.putAll [] entries

end BoundSql
