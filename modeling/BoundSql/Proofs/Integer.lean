import Mathlib.Data.List.TakeWhile
import BoundSql.Proofs.Ascii
import BoundSql.Proofs.Placeholder.Slot
import BoundSql.Text.Integer

/-!
# Integers in text

An integer is read from text where a database gives a count as text, and in an address.  Reading
allows for padding, for a plus sign, for digits of any script and for underscores between them;
writing makes use of none of it.  So all that has to be seen is that each of these steps passes over
the written form without changing it: no digit and no sign is padding, and no digit is an
underscore.

The bound on the number of digits cannot be left out.  Longer integers can be written, and are
refused when they are read.

* `Text.readInteger_toString` : an integer is read as it is written.
-/

namespace BoundSql.Text

theorem readDigits?_of_isDigit {s : List Char} (present : s ≠ [])
    (digits : ∀ c ∈ s, isDigit c = true) : readDigits? s = some s := by
  induction s with
  | nil => exact absurd rfl present
  | cons c rest ih =>
      obtain ⟨digit, others⟩ := List.forall_mem_cons.mp digits
      cases rest with
      | nil => rw [readDigits?, if_pos digit]
      | cons d rest =>
          have apart : d ≠ '_' := by
            rintro rfl
            exact absurd (others '_' List.mem_cons_self) (by decide)
          rw [readDigits?, if_pos digit, ih (List.cons_ne_nil _ _) others]
          · rfl
          · exact List.cons_ne_nil _ _
          · exact fun _ same => apart (List.cons.inj same).1

/-- What stands behind the sign of an integer that is spelled in digits only. -/
theorem readInteger_of_digits {s : String} {negative : Bool} {digits : List Char}
    (signed : splitSign (s.toList.dropWhile isPadding) = (negative, digits)) (present : digits ≠ [])
    (all : ∀ c ∈ digits, isDigit c = true) (short : digits.length ≤ digitLimit) :
    readInteger s = .ok (if negative then -(digitsValue digits : Int) else digitsValue digits) := by
  have within : ∀ c ∈ digits, isDigitOrUnderscore c = true := fun c mem => by
    rw [isDigitOrUnderscore, all c mem, Bool.true_or]
  have number : readNumber digitLimit digits = .ok (digitsValue digits) :=
    if_neg (Nat.not_lt.mpr short)
  rw [readInteger, signed]
  simp only [List.takeWhile_eq_self_iff.mpr within, List.dropWhile_eq_nil_iff.mpr within,
    readDigits?_of_isDigit present all, number, List.all_nil, if_true]

/-- Neither a digit nor a minus is padding. -/
theorem not_isPadding_of_isDigit {c : Char} (digit : c.isDigit = true) : isPadding c = false := by
  obtain ⟨lower, upper⟩ := isDigit_iff.mp digit
  rw [isPadding, isBlank, inClass_of_ascii (by omega)]
  simp
  omega

/-- **An integer is read as it is written**, if it has no more digits than are read. -/
theorem readInteger_toString {n : Int} (short : (toString n.natAbs).length ≤ digitLimit) :
    readInteger (toString n) = .ok n := by
  -- the sign is read off the first character, which is a digit where there is no sign
  have unsigned (m : Nat) : ∃ c rest, (toString m).toList = c :: rest ∧ c.isDigit = true := by
    obtain ⟨c, rest, written⟩ := List.exists_cons_of_ne_nil
      (show (toString m).toList ≠ [] by
        rw [Nat.toString_eq_repr, Nat.repr_eq_ofList_toDigits, String.toList_ofList]
        exact Nat.toDigits_ne_nil)
    exact ⟨c, rest, written, (Namer.isDigit_of_mem_toString (written ▸ List.mem_cons_self)).1⟩
  obtain ⟨c, rest, written, digit⟩ := unsigned n.natAbs
  have all : ∀ d ∈ c :: rest, isDigit d = true := fun d mem =>
    isDigit_of_mem_toString (n := n.natAbs) (written ▸ mem)
  have value : digitsValue (c :: rest) = n.natAbs := by rw [← written, digitsValue_toString]
  have few : (c :: rest).length ≤ digitLimit := by rwa [← written, String.length_toList]
  cases n with
  | ofNat m =>
      have signed : splitSign ((toString (Int.ofNat m)).toList.dropWhile isPadding) =
          (false, c :: rest) := by
        rw [show (toString (Int.ofNat m)).toList = c :: rest from written, List.dropWhile_cons,
          not_isPadding_of_isDigit digit]
        unfold splitSign
        split
        · next same => exact absurd ((List.cons.inj same).1 ▸ digit) (by decide)
        · next same => exact absurd ((List.cons.inj same).1 ▸ digit) (by decide)
        · rfl
      rw [readInteger_of_digits signed (List.cons_ne_nil _ _) all few, value]
      rfl
  | negSucc m =>
      have signed : splitSign ((toString (Int.negSucc m)).toList.dropWhile isPadding) =
          (true, c :: rest) := by
        have minus : (toString (Int.negSucc m)).toList = '-' :: c :: rest := by
          rw [← written]
          exact String.toList_append
        rw [minus]
        rfl
      rw [readInteger_of_digits signed (List.cons_ne_nil _ _) all few, value]
      rfl

end BoundSql.Text
