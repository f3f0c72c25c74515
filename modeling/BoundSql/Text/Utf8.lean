/-!
# Text as bytes

A character is written as one to four bytes: a lead, which says how many bytes follow it, and the
followers.  A sequence of bytes is read even where it is no such text: the longest beginning of a
character that is broken off is read as one replacement character, and so is each byte that begins
no character.

Only the escapes of addresses are read in this way.  That the text comes back from its bytes
is `Text.readUtf8_utf8Bytes`.

## Main definitions

* `utf8Bytes` : the bytes of a text.
* `readUtf8` : the text of a sequence of bytes.
-/

namespace BoundSql.Text

/-- The bytes of a text. -/
def utf8Bytes (s : List Char) : List UInt8 := s.flatMap String.utf8EncodeChar

/-- The character that stands for bytes that cannot be read. -/
def replacement : Char := '\ufffd'

/-- What a lead says: the number of followers, the bounds of the first of them, and the lead's
share of the character.  The bounds exclude longer forms than necessary, surrogates, and what
lies beyond the last character. -/
def leadOf? (b : Nat) : Option (Nat × Nat × Nat × Nat) :=
  if 0xC2 ≤ b ∧ b ≤ 0xDF then some (1, 0x80, 0xBF, b - 0xC0)
  else if b = 0xE0 then some (2, 0xA0, 0xBF, 0)
  else if b = 0xED then some (2, 0x80, 0x9F, 0xD)
  else if 0xE1 ≤ b ∧ b ≤ 0xEF then some (2, 0x80, 0xBF, b - 0xE0)
  else if b = 0xF0 then some (3, 0x90, 0xBF, 0)
  else if 0xF1 ≤ b ∧ b ≤ 0xF3 then some (3, 0x80, 0xBF, b - 0xF0)
  else if b = 0xF4 then some (3, 0x80, 0x8F, 4)
  else none

/-- Reads the followers of a lead, the first of them within the given bounds: the character, and
the number of bytes that belong to it. -/
def readFollowers : Nat → Nat → Nat → Nat → List UInt8 → Char × Nat
  | 0, _, _, code, _ => (Char.ofNat code, 0)
  | _ + 1, _, _, _, [] => (replacement, 0)
  | count + 1, low, high, code, b :: rest =>
    if low ≤ b.toNat ∧ b.toNat ≤ high then
      let (c, used) := readFollowers count 0x80 0xBF (64 * code + (b.toNat - 0x80)) rest
      (c, used + 1)
    else (replacement, 0)

/-- The first character of a sequence that begins with a byte, and the number of further bytes
that belong to it. -/
def readChar (b : UInt8) (rest : List UInt8) : Char × Nat :=
  if b.toNat < 0x80 then (Char.ofNat b.toNat, 0)
  else
    match leadOf? b.toNat with
    | some (count, low, high, code) => readFollowers count low high code rest
    | none => (replacement, 0)

/-- The text of a sequence of bytes. -/
def readUtf8 : List UInt8 → List Char
  | [] => []
  | b :: rest =>
    let (c, used) := readChar b rest
    c :: readUtf8 (rest.drop used)
termination_by bytes => bytes.length
decreasing_by simp only [List.length_drop, List.length_cons]; omega

end BoundSql.Text
