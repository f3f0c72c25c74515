import BoundSql.Placeholder
import BoundSql.Proofs.Assoc
import BoundSql.Proofs.Placeholder.Writing
import BoundSql.Proofs.Results

/-!
# Row slots read back

The name of a row slot says which record and which property it stands for: read as it is written, it
gives back the position and the property, and so different slots have different names.  What is
bound for a slot that is found again in a text is the property as the record holds it.

Reading a name back has to find where the number ends.  The name has a stem, the digits of the
position, a separator and the property; the digits end at the separator, which is no digit, and
whatever follows it is the property, digits and separators included.  A property without a name is
excluded throughout, since a slot without one is not recognized.

Positions are read with a limit on the number of their digits that depends on the number of records.
A position of a record never exceeds it, because a smaller number does not have more digits
(`RowReference.slot_toString`).

* `RowReference.ofName?_rowSlotName`, `RowSlot.name_injective` : the name determines the slot.
* `value_of_bindRowSlots` : the value that is read back for a slot.
-/

namespace BoundSql

/-! ### Numbers -/

namespace Text

theorem isDigit_of_mem_toString {n : Nat} {c : Char} (mem : c ∈ (toString n).toList) :
    isDigit c = true := by
  obtain ⟨digit, ascii⟩ := Namer.isDigit_of_mem_toString mem
  rw [isDigit, inClass_of_ascii ascii, digit]

/-- A number is read as it is written. -/
theorem digitsValue_toString (n : Nat) : digitsValue (toString n).toList = n := by
  conv_rhs => rw [← Namer.ofDigitChars_toString n, Nat.ofDigitChars_eq_foldl]
  refine List.foldl_ext _ _ 0 fun value c mem => ?_
  obtain ⟨-, ascii⟩ := Namer.isDigit_of_mem_toString mem
  rw [digitValue, if_pos ascii]

/-- Numbers with the same digits are the same. -/
theorem toString_toList_injective {m n : Nat} (same : (toString m).toList = (toString n).toList) :
    m = n := by
  rw [← digitsValue_toString m, same, digitsValue_toString]

/-- A larger number does not have fewer digits. -/
theorem length_toString_mono {m n : Nat} (h : m ≤ n) :
    (toString m).length ≤ (toString n).length := by
  have length (n : Nat) : (toString n).length = (Nat.toDigits 10 n).length := by
    rw [Nat.toString_eq_repr, Nat.repr_eq_ofList_toDigits, String.length_ofList]
  have positive : 0 < (Nat.toDigits 10 n).length := Nat.length_toDigits_pos
  rw [length, length, Nat.length_toDigits_le_iff (by decide) positive]
  exact h.trans_lt ((Nat.length_toDigits_le_iff (by decide) positive).mp le_rfl)

end Text

/-! ### Names -/

namespace RowReference

/-- The stem of a name is taken off where it stands. -/
theorem dropStem?_append (stem text : List Char) : dropStem? stem (stem ++ text) = some text := by
  induction stem with
  | nil => rfl
  | cons s stem ih => rw [List.cons_append, dropStem?, beq_self_eq_true, if_pos rfl, ih]

/-- The name of a row slot is read as it was written. -/
theorem ofName?_rowSlotName (k : Nat) {property : String} (named : property ≠ "") :
    ofName? (rowSlotName k property) = some ⟨(toString k).toList, property⟩ := by
  have text : (rowSlotName k property).toList =
      rowStem.toList ++ ((toString k).toList ++ '_' :: property.toList) := by
    show (rowStem ++ toString k ++ "_" ++ property).toList = _
    simp
  have letters : property.toList ≠ [] := fun empty => named (String.toList_eq_nil_iff.mp empty)
  have digits : ∀ c ∈ (toString k).toList, Text.isDigit c = true :=
    fun _ mem => Text.isDigit_of_mem_toString mem
  -- the underscore ends the digits, whatever the property begins with
  have stop : Text.isDigit '_' = false := by decide
  have taken : ((toString k).toList ++ '_' :: property.toList).takeWhile Text.isDigit =
      (toString k).toList := by
    rw [List.takeWhile_append_of_pos digits, List.takeWhile_cons, stop]
    simp
  have dropped : ((toString k).toList ++ '_' :: property.toList).dropWhile Text.isDigit =
      '_' :: property.toList := by
    rw [List.dropWhile_append_of_pos digits, List.dropWhile_cons, stop]
    simp
  unfold ofName?
  rw [text, dropStem?_append]
  simp only [Option.bind_eq_bind, Option.bind_some, taken, dropped]
  rw [show '_' :: property.toList = ['_'] ++ property.toList from rfl, dropStem?_append]
  simp [letters]

/-- The slot that is meant has the number that is written, and the property.  Whether there is such
a record is another question. -/
theorem slot_eq_of_ok {r : RowReference} {length : Nat} {slot : RowSlot}
    (h : r.slot length = .ok slot) : slot = ⟨Text.digitsValue r.digits, r.property⟩ := by
  rw [RowReference.slot, Text.readNumber] at h
  by_cases long : digitLimit length < r.digits.length
  · rw [if_pos long] at h
    cases h
  · rw [if_neg long] at h
    exact (Except.ok.inj h).symm

/-- A position in a list is read as it is written, however long the list is. -/
theorem slot_toString {k length : Nat} (h : k ≤ length) (property : String) :
    slot ⟨(toString k).toList, property⟩ length = .ok ⟨k, property⟩ := by
  have digits : (toString k).toList.length ≤ digitLimit length := by
    rw [String.length_toList]
    exact (Text.length_toString_mono h).trans (Nat.le_max_right ..)
  rw [slot, Text.readNumber, if_neg (Nat.not_lt.mpr digits), Text.digitsValue_toString]

end RowReference

namespace RowSlot

/-- The name of a row slot is read as that of the slot. -/
theorem ofName?_name {slot : RowSlot} (named : slot.property ≠ "") :
    RowReference.ofName? slot.name = some ⟨(toString slot.index).toList, slot.property⟩ :=
  RowReference.ofName?_rowSlotName slot.index named

/-- Different slots have different names. -/
theorem name_injective {s t : RowSlot} (hs : s.property ≠ "") (ht : t.property ≠ "")
    (same : s.name = t.name) : s = t := by
  have read := ofName?_name hs
  rw [same, ofName?_name ht] at read
  obtain ⟨i, p⟩ := s
  obtain ⟨j, q⟩ := t
  simp only [Option.some.injEq, RowReference.mk.injEq] at read
  rw [Text.toString_toList_injective read.1, read.2]

end RowSlot

/-! ### Values -/

/-- **What is read back for a slot is its value**: what the record at the position holds. -/
theorem value_of_bindRowSlots {sql : String} {records : List Record} {parameters : Parameters}
    (h : bindRowSlots sql records = .ok parameters) {slot : RowSlot} (named : slot.property ≠ "")
    {v : Value} (found : Assoc.get? slot.name parameters = some v) :
    slot.value records = .ok v := by
  obtain ⟨entries, read, all⟩ := bind_eq_ok_iff.mp h
  rw [← pure_eq_ok_iff.mp all, Assoc.get?_putAll, Assoc.get?, Option.or_none] at found
  have mem : (slot.name, v) ∈ entries := List.mem_reverse.mp (Assoc.mem_of_get? found)
  -- the entry was made for a name in the text, and this name is that of the slot
  obtain ⟨⟨name, reference⟩, refers, entry⟩ := exists_of_mem_mapM read mem
  obtain ⟨meant, hmeant, rest⟩ := bind_eq_ok_iff.mp entry
  obtain ⟨w, hw, rest⟩ := bind_eq_ok_iff.mp rest
  obtain ⟨rfl, rfl⟩ := Prod.mk.inj (pure_eq_ok_iff.mp rest)
  obtain ⟨other, -, refers⟩ := List.mem_filterMap.mp refers
  obtain ⟨r, hr, pair⟩ := Option.map_eq_some_iff.mp refers
  obtain ⟨rfl, rfl⟩ := Prod.mk.inj pair
  rw [RowSlot.ofName?_name named, Option.some.injEq] at hr
  rw [RowReference.slot_eq_of_ok hmeant, ← hr, Text.digitsValue_toString] at hw
  exact hw

end BoundSql
