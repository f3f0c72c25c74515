/-!
# Code point ranges

A character class beyond ASCII is given by the closed ranges of code points that belong to it.
The ASCII part of every class is stated separately as a rule, so that questions about ASCII
text never consult a table.
-/

namespace BoundSql.Text

/-- A closed range of code points, as first and last member. -/
abbrev CodeRange := Nat × Nat

/-- Does the character lie in one of the ranges? -/
def inRanges (ranges : List CodeRange) (c : Char) : Bool :=
  ranges.any fun r => decide (r.1 ≤ c.toNat) && decide (c.toNat ≤ r.2)

/-- A character class: a rule for ASCII and a table for everything else. -/
def inClass (ascii : Char → Bool) (ranges : List CodeRange) (c : Char) : Bool :=
  if c.toNat < 128 then ascii c else inRanges ranges c

@[simp] theorem inClass_of_ascii {ascii : Char → Bool} {ranges : List CodeRange} {c : Char}
    (h : c.toNat < 128) : inClass ascii ranges c = ascii c := by
  simp [inClass, h]

end BoundSql.Text
