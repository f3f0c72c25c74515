import BoundSql.Text.CodeRange

/-!
# White space

The characters that separate without being seen, in every script.

## Main definitions

* `isBlank` : white space of any kind.
* `isInlineBlank` : white space other than a carriage return or a line feed.
-/

namespace BoundSql.Text

/-- White space outside ASCII. -/
def blankRanges : List CodeRange :=
  [(0x85, 0x85), (0xA0, 0xA0), (0x1680, 0x1680), (0x2000, 0x200A), (0x2028, 0x2029),
   (0x202F, 0x202F), (0x205F, 0x205F), (0x3000, 0x3000)]

/-- Is the character white space? In ASCII these are the space, the characters from tab to
carriage return, and the four separators before the space. -/
def isBlank (c : Char) : Bool :=
  inClass (fun c => decide (9 ≤ c.toNat ∧ c.toNat ≤ 13) || decide (28 ≤ c.toNat ∧ c.toNat ≤ 32))
    blankRanges c

/-- Is the character white space within a line? -/
def isInlineBlank (c : Char) : Bool := isBlank c && !(c == '\n' || c == '\r')

end BoundSql.Text
