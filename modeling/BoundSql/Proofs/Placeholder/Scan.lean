import Mathlib.Data.List.Forall2
import BoundSql.Placeholder

/-!
# Scanning a text for placeholders

`placeholderNames` looks at every colon of a text, at the one character before it and at the run of
word characters behind it.  So a text can be scanned part by part, as long as the last character of
each part is remembered:

* a part without a colon holds no placeholder (`placeholderNamesAfter_append_of_notMem`);
* a colon that may open a placeholder, followed by a name and by no further word character, yields
  exactly that name (`placeholderNamesAfter_placeholder`);
* a part that ends in neither a colon nor a word character is scanned on its own
  (`placeholderNamesAfter_append_closing`).

What is found are always names (`isParameterName_of_mem_placeholderNames`).

The scanner is that of the database layer, and knows nothing of how a text came about.  It does not
skip string literals or quoted names, so a colon in one of them counts.  Every theorem about
finished texts goes through these lemmas, and the assumptions on colons that such theorems have come
from here.
-/

namespace BoundSql

/-- A text of word characters: what can be the name in a placeholder. -/
def IsParameterName (name : String) : Prop :=
  name ≠ "" ∧ ∀ c ∈ name.toList, Text.isWordChar c = true

theorem IsParameterName.toList_ne_nil {name : String} (h : IsParameterName name) :
    name.toList ≠ [] := by
  simpa using h.1

/-- A word character is no colon, so that no name is cut by one. -/
theorem ne_colon_of_isWordChar {c : Char} (h : Text.isWordChar c = true) : c ≠ ':' := by
  rintro rfl
  exact absurd h (by decide)

@[simp] theorem placeholderNamesAfter_nil (before? : Option Char) :
    placeholderNamesAfter before? [] = [] := rfl

/-- A character that is no colon only counts as what stands before the next one. -/
theorem placeholderNamesAfter_cons_of_ne {before? : Option Char} {c : Char} {rest : List Char}
    (h : c ≠ ':') :
    placeholderNamesAfter before? (c :: rest) = placeholderNamesAfter (some c) rest := by
  simp [placeholderNamesAfter, h]

/-- The last character of what was read, or else the one before it. -/
theorem getLast?_cons_or (c : Char) (s : List Char) (before? : Option Char) :
    (c :: s).getLast?.or before? = s.getLast?.or (some c) := by
  rw [List.getLast?_cons]
  cases s.getLast? <;> rfl

/-- A part without a colon is passed over; its last character is remembered. -/
theorem placeholderNamesAfter_append_of_notMem {s : List Char} (h : ':' ∉ s) (t : List Char)
    (before? : Option Char) :
    placeholderNamesAfter before? (s ++ t) =
      placeholderNamesAfter (s.getLast?.or before?) t := by
  induction s generalizing before? with
  | nil => rfl
  | cons c s ih =>
      rw [List.mem_cons, not_or] at h
      rw [List.cons_append, placeholderNamesAfter_cons_of_ne (Ne.symm h.1), ih h.2,
        getLast?_cons_or]

/-- What was read ends in its own last character. -/
theorem getLast?_or_of_ne_nil {s : List Char} (h : s ≠ []) (before? : Option Char) :
    s.getLast?.or before? = s.getLast? := by
  cases last : s.getLast? with
  | none => exact absurd (List.getLast?_eq_none_iff.mp last) h
  | some c => rfl

/-- The run of word characters ends with a name that no word character follows. -/
theorem takeWhile_name {name t : List Char} (word : ∀ c ∈ name, Text.isWordChar c = true)
    (ends : ∀ c ∈ t.head?, Text.isWordChar c = false) :
    (name ++ t).takeWhile Text.isWordChar = name := by
  rw [List.takeWhile_append_of_pos word]
  cases t with
  | nil => simp
  | cons c t => simp [ends c (by simp)]

/-- A placeholder that stands free on both sides is found, and scanning goes on behind it. -/
theorem placeholderNamesAfter_placeholder {name t : List Char} {before? : Option Char}
    (nonempty : name ≠ []) (word : ∀ c ∈ name, Text.isWordChar c = true)
    (ends : ∀ c ∈ t.head?, Text.isWordChar c = false)
    (opening : opensPlaceholder before? = true) :
    placeholderNamesAfter before? (':' :: name ++ t) =
      name :: placeholderNamesAfter name.getLast? t := by
  have noColon : ':' ∉ name := fun mem => ne_colon_of_isWordChar (word _ mem) rfl
  have rest : placeholderNamesAfter (some ':') (name ++ t) =
      placeholderNamesAfter name.getLast? t := by
    rw [placeholderNamesAfter_append_of_notMem noColon, getLast?_or_of_ne_nil nonempty]
  rw [List.cons_append, placeholderNamesAfter, takeWhile_name word ends, rest]
  cases name with
  | nil => exact absurd rfl nonempty
  | cons c name => simp [opening]

/-- The run of word characters ends at the latest with a character that is none. -/
theorem takeWhile_append_closing {x : Char} (closing : Text.isWordChar x = false)
    (s t : List Char) : (s ++ x :: t).takeWhile Text.isWordChar = s.takeWhile Text.isWordChar := by
  induction s with
  | nil => simp [closing]
  | cons c s ih => rw [List.cons_append, List.takeWhile_cons, List.takeWhile_cons, ih]

/-- A part that ends in neither a colon nor a word character is scanned on its own.  A colon at its
end could be followed by a name in the next part, and a word by more of the same word. -/
theorem placeholderNamesAfter_append_closing {x : Char} (colon : x ≠ ':')
    (closing : Text.isWordChar x = false) (s t : List Char) (before? : Option Char) :
    placeholderNamesAfter before? (s ++ x :: t) =
      placeholderNamesAfter before? (s ++ [x]) ++ placeholderNamesAfter (some x) t := by
  induction s generalizing before? with
  | nil =>
      rw [List.nil_append, List.nil_append, placeholderNamesAfter_cons_of_ne colon,
        placeholderNamesAfter_cons_of_ne colon]
      rfl
  | cons c s ih =>
      rw [List.cons_append, List.cons_append, placeholderNamesAfter, placeholderNamesAfter, ih,
        takeWhile_append_closing closing, takeWhile_append_closing closing]
      split
      · split <;> rfl
      · rfl

/-- Every name that is found is a name: there is something to it, and it has word characters
only. -/
theorem word_of_mem_placeholderNamesAfter {name text : List Char} {before? : Option Char}
    (mem : name ∈ placeholderNamesAfter before? text) :
    name ≠ [] ∧ ∀ c ∈ name, Text.isWordChar c = true := by
  induction text generalizing before? with
  | nil => cases mem
  | cons c rest ih =>
      rw [placeholderNamesAfter] at mem
      split at mem
      · split at mem
        · exact ih mem
        · next found =>
            rcases List.mem_cons.mp mem with rfl | mem
            · refine ⟨found, fun d hd => ?_⟩
              exact List.all_eq_true.mp List.all_takeWhile d hd
            · exact ih mem
      · exact ih mem

theorem isParameterName_of_mem_placeholderNames {name sql : String}
    (mem : name ∈ placeholderNames sql) : IsParameterName name := by
  obtain ⟨letters, found, rfl⟩ := List.mem_map.mp mem
  obtain ⟨nonempty, word⟩ := word_of_mem_placeholderNamesAfter found
  refine ⟨fun empty => nonempty ?_, fun c hc => word c (by rwa [String.toList_ofList] at hc)⟩
  have := congrArg String.toList empty
  rwa [String.toList_ofList] at this

end BoundSql
