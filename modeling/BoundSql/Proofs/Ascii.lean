import Mathlib.Tactic.SplitIfs

/-!
# The letter case of ASCII characters

`Char.toLower` and `Char.toUpper` change ASCII letters only, by moving their code points.  All that
is needed of them is said in terms of the code points, where it is arithmetic: `Text.toNat_toLower`
and `Text.toNat_toUpper` say where a character goes, a class of characters is an interval of code
points, and what remains is settled by case distinction and linear arithmetic.

This is the conversion for names: those of columns on their way to camel case, and those of
settings, which are looked up in any letter case.  The conversion in every script is another one; it
goes by tables, and can make several characters of one.

* `Text.toNat_toLower`, `Text.toNat_toUpper` : how the code points are moved.
* `Text.toLower_toUpper` and its like : of several changes of letter case the last one counts.
* `Text.toLower_eq_iff` : when two names agree in any letter case.
-/

namespace BoundSql.Text

variable {c d : Char}

theorem isUpper_iff : c.isUpper = true ↔ 65 ≤ c.toNat ∧ c.toNat ≤ 90 := by
  exact decide_eq_true_iff.trans Iff.rfl

theorem isLower_iff : c.isLower = true ↔ 97 ≤ c.toNat ∧ c.toNat ≤ 122 := by
  show (decide _ && decide _) = true ↔ _
  rw [Bool.and_eq_true, decide_eq_true_eq, decide_eq_true_eq]
  exact Iff.rfl

theorem isDigit_iff : c.isDigit = true ↔ 48 ≤ c.toNat ∧ c.toNat ≤ 57 := by
  show (decide _ && decide _) = true ↔ _
  rw [Bool.and_eq_true, decide_eq_true_eq, decide_eq_true_eq]
  exact Iff.rfl

/-- A capital is moved by the distance of the two alphabets, and nothing else is moved. -/
theorem toNat_toLower (c : Char) :
    c.toLower.toNat = if 65 ≤ c.toNat ∧ c.toNat ≤ 90 then c.toNat + 32 else c.toNat := by
  have moved : (c.val + ('a'.val - 'A'.val)).toNat = (c.toNat + 32) % 2 ^ 32 :=
    UInt32.toNat_add _ _
  by_cases upper : c.val ≥ 'A'.val ∧ c.val ≤ 'Z'.val
  · have bounds : 65 ≤ c.toNat ∧ c.toNat ≤ 90 := upper
    rw [if_pos bounds, show c.toLower = ⟨c.val + ('a'.val - 'A'.val), _⟩ from dif_pos upper]
    refine moved.trans ?_
    omega
  · have bounds : ¬ (65 ≤ c.toNat ∧ c.toNat ≤ 90) := upper
    rw [if_neg bounds, show c.toLower = c from dif_neg upper]

/-- A small letter is moved back by the same distance. -/
theorem toNat_toUpper (c : Char) :
    c.toUpper.toNat = if 97 ≤ c.toNat ∧ c.toNat ≤ 122 then c.toNat - 32 else c.toNat := by
  -- the distance is negative, and is added as what it is modulo the size of a word
  have moved : (c.val + ('A'.val - 'a'.val)).toNat = (c.toNat + (2 ^ 32 - 32)) % 2 ^ 32 :=
    UInt32.toNat_add _ _
  by_cases lower : 'a'.val ≤ c.val ∧ c.val ≤ 'z'.val
  · have bounds : 97 ≤ c.toNat ∧ c.toNat ≤ 122 := lower
    rw [if_pos bounds, show c.toUpper = ⟨c.val + ('A'.val - 'a'.val), _⟩ from dif_pos lower]
    refine moved.trans ?_
    omega
  · have bounds : ¬ (97 ≤ c.toNat ∧ c.toNat ≤ 122) := lower
    rw [if_neg bounds, show c.toUpper = c from dif_neg lower]

/-- Characters with one code point are the same. -/
theorem eq_of_toNat_eq (same : c.toNat = d.toNat) : c = d := Char.ext (UInt32.toNat_inj.mp same)

/-- A character that is no small ASCII letter is its own capital. -/
theorem toUpper_of_not_lower (other : ¬ (97 ≤ c.toNat ∧ c.toNat ≤ 122)) : c.toUpper = c := by
  apply eq_of_toNat_eq
  rw [toNat_toUpper, if_neg other]

/-! ### Classes -/

theorem isDigit_toLower (c : Char) : c.toLower.isDigit = c.isDigit := by
  rw [Bool.eq_iff_iff, isDigit_iff, isDigit_iff, toNat_toLower]
  split_ifs <;> omega

/-- A letter is a capital or a small letter, and in ASCII no character is both or a third kind. -/
theorem isAlpha_iff : c.isAlpha = true ↔ c.isUpper = true ∨ c.isLower = true := by
  show (c.isUpper || c.isLower) = true ↔ _
  rw [Bool.or_eq_true]

theorem isAlphanum_toLower (c : Char) : c.toLower.isAlphanum = c.isAlphanum := by
  have letter : c.toLower.isAlpha = c.isAlpha := by
    rw [Bool.eq_iff_iff, isAlpha_iff, isAlpha_iff, isUpper_iff, isUpper_iff, isLower_iff,
      isLower_iff, toNat_toLower]
    split_ifs <;> omega
  show (c.toLower.isAlpha || c.toLower.isDigit) = (c.isAlpha || c.isDigit)
  rw [letter, isDigit_toLower]

@[simp] theorem isUpper_toLower (c : Char) : c.toLower.isUpper = false := by
  rw [Bool.eq_false_iff, ne_eq, isUpper_iff, toNat_toLower]
  split_ifs <;> omega

@[simp] theorem isUpper_toUpper (c : Char) : c.toUpper.isUpper = c.isAlpha := by
  rw [Bool.eq_iff_iff, isAlpha_iff, isUpper_iff, isUpper_iff, isLower_iff, toNat_toUpper]
  split_ifs <;> omega

/-! ### Several changes -/

@[simp] theorem toLower_toLower (c : Char) : c.toLower.toLower = c.toLower := by
  apply eq_of_toNat_eq
  rw [toNat_toLower, toNat_toLower]
  split_ifs <;> omega

@[simp] theorem toLower_toUpper (c : Char) : c.toUpper.toLower = c.toLower := by
  apply eq_of_toNat_eq
  rw [toNat_toLower, toNat_toLower, toNat_toUpper]
  split_ifs <;> omega

@[simp] theorem toUpper_toLower (c : Char) : c.toLower.toUpper = c.toUpper := by
  apply eq_of_toNat_eq
  rw [toNat_toUpper, toNat_toUpper, toNat_toLower]
  split_ifs <;> omega

@[simp] theorem toUpper_toUpper (c : Char) : c.toUpper.toUpper = c.toUpper := by
  apply eq_of_toNat_eq
  rw [toNat_toUpper, toNat_toUpper]
  split_ifs <;> omega

/-! ### Texts -/

/-- A text is converted character by character. -/
theorem toList_toLower (s : String) : s.toLower.toList = s.toList.map Char.toLower :=
  String.toList_map

/-- Names agree in any letter case when they do so character by character. -/
theorem toLower_eq_iff {s t : String} :
    s.toLower = t.toLower ↔ s.toList.map Char.toLower = t.toList.map Char.toLower := by
  rw [← String.toList_inj, toList_toLower, toList_toLower]

end BoundSql.Text
