import Mathlib.Data.List.Basic
import BoundSql.Proofs.Ascii
import BoundSql.Text.UpperCase

/-!
# Upper case

A text in upper case is in upper case already: `upperCase` changes no text twice.  A character may
become several, and the tables know over a thousand characters, so this is a fact of the tables:
nothing that they map to is something that they map.  Both sides are listed by code point, and that
the lists have no member in common is seen at once on their masks.

A mask is a number with one bit for each code point in the list.  Two lists have no member in common
if their masks share no bit, which is one operation on two numbers; comparing the lists directly
would take as many comparisons as they have pairs.  This is the only place where the tables are
evaluated, and everything else speaks of membership in the lists.

ASCII is treated apart, because the code does so: its letters are mapped by a rule, not by the
tables.

* `Text.upperChar_of_not_mem` : what is not listed as mapped is its own upper-case form.
* `Text.upperChar_of_mem_upperChar` : no character of an upper-case form is mapped again.
* `Text.upperCase_upperCase` : upper case is idempotent.
-/

namespace BoundSql.Text

/-! ### What the tables map -/

/-- The code points of a run. -/
def runCodes (r : Nat × Nat × Nat × Int) : List Nat :=
  List.range' r.1 ((r.2.1 - r.1) / r.2.2.1 + 1) r.2.2.1

/-- The code points that have an upper-case form other than themselves. -/
def mappedCodes : List Nat :=
  List.range' 0x61 26 ++ upperExpansions.map (·.1) ++ upperRuns.flatMap runCodes

/-- The code points that the tables map to. -/
def capitalCodes : List Nat :=
  upperExpansions.flatMap (·.2) ++
    upperRuns.flatMap fun r => (runCodes r).map fun n : Nat => Int.toNat (n + r.2.2.2)

variable {c d : Char} {n : Nat}

/-- A code point that a run covers, as the code tests it, is among those of the run. -/
theorem mem_runCodes {r : Nat × Nat × Nat × Int}
    (covers : (decide (r.1 ≤ n) && decide (n ≤ r.2.1) && (n - r.1) % r.2.2.1 == 0) = true) :
    n ∈ runCodes r := by
  simp only [Bool.and_eq_true, decide_eq_true_eq, beq_iff_eq] at covers
  obtain ⟨⟨lower, upper⟩, aligned⟩ := covers
  refine List.mem_range'.mpr ⟨(n - r.1) / r.2.2.1, ?_, ?_⟩
  · exact Nat.lt_succ_of_le (Nat.div_le_div_right (by omega))
  · have steps := Nat.div_add_mod (n - r.1) r.2.2.1
    omega

/-- What is not listed as mapped is its own upper-case form. -/
theorem upperChar_of_not_mem (unmapped : c.toNat ∉ mappedCodes) : upperChar c = [c] := by
  simp only [mappedCodes, List.mem_append, List.mem_map, List.mem_flatMap, not_or, not_exists,
    not_and] at unmapped
  obtain ⟨⟨letter, expansion⟩, run⟩ := unmapped
  rw [upperChar]
  split
  · have other : ¬ (97 ≤ c.toNat ∧ c.toNat ≤ 122) := fun lower =>
      letter (List.mem_range'_1.mpr ⟨lower.1, Nat.lt_succ_of_le lower.2⟩)
    rw [toUpper_of_not_lower other]
  · rw [List.find?_eq_none.mpr fun e mem found => expansion e mem (by simpa using found),
      List.find?_eq_none.mpr fun r mem covers => run r mem (mem_runCodes covers)]

/-- What the upper-case form of a character beyond ASCII is made of: what the tables hold, unless
it is the character itself. -/
theorem mem_upperChar (wide : ¬ c.toNat < 128) (mem : d ∈ upperChar c) :
    upperChar c = [c] ∨ ∃ n ∈ capitalCodes, d = Char.ofNat n := by
  rw [upperChar, if_neg wide] at mem
  split at mem
  next e found =>
    obtain ⟨n, form, rfl⟩ := List.mem_map.mp mem
    exact .inr ⟨n, List.mem_append_left _
      (List.mem_flatMap.mpr ⟨e, List.mem_of_find?_eq_some found, form⟩), rfl⟩
  next unexpanded =>
    split at mem
    next r found =>
      have covered : c.toNat ∈ runCodes r := mem_runCodes (by simpa using List.find?_some found)
      exact .inr ⟨_, List.mem_append_right _ (List.mem_flatMap.mpr
        ⟨r, List.mem_of_find?_eq_some found, List.mem_map_of_mem covered⟩),
        List.mem_singleton.mp mem⟩
    next uncovered =>
      exact .inl (by rw [upperChar, if_neg wide, unexpanded, uncovered])

/-! ### Nothing is mapped twice -/

/-- The mask of a list of code points. -/
def codeMask (codes : List Nat) : Nat := codes.foldr (fun n mask => 1 <<< n ||| mask) 0

/-- The bit of a code point is set exactly if it is in the list. -/
theorem testBit_codeMask (codes : List Nat) (n : Nat) :
    (codeMask codes).testBit n = decide (n ∈ codes) := by
  induction codes with
  | nil => simp [codeMask]
  | cons m codes ih =>
    rw [codeMask, List.foldr_cons, ← codeMask, Nat.testBit_or, ih, Nat.one_shiftLeft,
      Nat.testBit_two_pow]
    simp [eq_comm]

/-- Code points whose masks share no bit. -/
theorem not_mem_of_codeMask {codes others : List Nat}
    (apart : codeMask codes &&& codeMask others = 0) (mem : n ∈ codes) : n ∉ others := by
  have none := congrArg (Nat.testBit · n) apart
  simpa [Nat.testBit_and, testBit_codeMask, mem] using none

-- Comparing the lists member by member takes the kernel minutes; the masks take it a second.
theorem capitals_apart : codeMask capitalCodes &&& codeMask mappedCodes = 0 := by
  decide +kernel

/-- What the tables map to is mapped to itself. -/
theorem upperChar_ofNat (capital : n ∈ capitalCodes) :
    upperChar (Char.ofNat n) = [Char.ofNat n] := by
  by_cases valid : n.isValidChar
  · have code : (Char.ofNat n).toNat = n := by
      rw [Char.ofNat, dif_pos valid]
      rfl
    refine upperChar_of_not_mem ?_
    rw [code]
    exact not_mem_of_codeMask capitals_apart capital
  · have null : Char.ofNat n = '\x00' := dif_neg valid
    rw [null]
    rfl

/-- **No character of an upper-case form is mapped again.**  Either the character was not mapped in
the first place, or its form is made of code points that the tables map to. -/
theorem upperChar_of_mem_upperChar (mem : d ∈ upperChar c) : upperChar d = [d] := by
  by_cases narrow : c.toNat < 128
  · rw [upperChar, if_pos narrow, List.mem_singleton] at mem
    subst mem
    have small : c.toUpper.toNat < 128 := by
      rw [toNat_toUpper]
      split_ifs <;> omega
    rw [upperChar, if_pos small, toUpper_toUpper]
  · obtain same | ⟨n, capital, rfl⟩ := mem_upperChar narrow mem
    · rw [same, List.mem_singleton] at mem
      rw [mem, same]
    · exact upperChar_ofNat capital

/-- **Upper case is idempotent.** -/
theorem upperCase_upperCase (s : String) : upperCase (upperCase s) = upperCase s := by
  have settled : (s.toList.flatMap upperChar).flatMap upperChar =
      (s.toList.flatMap upperChar).flatMap fun d => [d] :=
    List.flatMap_congr fun d mem => by
      obtain ⟨c, -, form⟩ := List.mem_flatMap.mp mem
      exact upperChar_of_mem_upperChar form
  rw [upperCase, upperCase, String.toList_ofList, settled, List.flatMap_singleton']

end BoundSql.Text
