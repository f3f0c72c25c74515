import Mathlib.Data.List.DropRight
import BoundSql.Proofs.Ascii
import BoundSql.Text.CamelCase

/-!
# Camel case

In camel case a name loses what stands between its words, and nothing else: every letter and every
digit stays, in order, and the capitals show where the words begin.  So neither letter case nor the
choice of separators makes a difference.

## What is promised

The promise (`Text.IsCamelCase`) speaks of the characters of the name and not of its words.  Words
are what the code cuts the name into, and a statement about them would be a statement about that
cutting.  So the place of a letter in the result is given by counting the letters and digits before
it, and whether it is a capital by what stands in front of it in the name
(`Text.StartsFurtherWord`).  Together with the characters of the result this determines it.

The changes that make no difference are given by three rules (`Text.Respells`), for letter case, for
separators inside the name and for separators around it.  A change inside has to leave at least one
separator, or two words would become one.

## The shape of the proof

Everything is derived from one property of words, that they are cut at separators
(`Text.words_append_separator`).  For the capitals the name is cut in two at the letter in question,
and the words of the two halves are put together again (`Text.exists_words_around`).

* `Text.words_append_separator` : words are cut at separators, from which all else follows.
* `Text.words_append_of_run` : a run of letters and digits that cannot be made longer is a word.
* `Text.IsCamelCase` : what is promised of a name in camel case.
* `Text.Respells` : the changes of a name that make no difference.
* `Text.camelCase_spells_words` : the promise is kept, and the changes make no difference.
-/

namespace BoundSql.Text

/-- None of the characters is an ASCII letter or digit. -/
def AreSeparators (text : List Char) : Prop := ∀ c ∈ text, c.isAlphanum = false

/-! ### Words -/

variable {c : Char} {x y seps : List Char}

theorem words_cons_separator (separates : c.isAlphanum = false) (rest : List Char) :
    words (c :: rest) = words rest := by
  simp [words, separates]

/-- A text that begins with a letter or digit has a word. -/
theorem words_cons_ne_nil (first : c.isAlphanum = true) (rest : List Char) :
    words (c :: rest) ≠ [] := by
  rw [words, if_pos first]
  split
  · split <;> exact List.cons_ne_nil _ _
  · exact List.cons_ne_nil _ _

/-- **Words are cut at separators.**  One separator is enough, and it belongs to neither side. -/
theorem words_append_separator (separates : c.isAlphanum = false) (x y : List Char) :
    words (x ++ c :: y) = words x ++ words y := by
  induction x with
  | nil => exact words_cons_separator separates y
  | cons a x ih =>
      by_cases first : a.isAlphanum = true
      · rw [List.cons_append, words, words, if_pos first, if_pos first, ih]
        cases x with
        | nil => simp [separates, words]
        | cons b x =>
            by_cases second : b.isAlphanum = true
            · -- the word goes on, so there is one that the letter is put in front of
              obtain ⟨w, ws, found⟩ := List.exists_cons_of_ne_nil (words_cons_ne_nil second x)
              simp [second, found]
            · simp [second]
      · rw [Bool.not_eq_true] at first
        rw [List.cons_append, words_cons_separator first, words_cons_separator first, ih]

theorem words_of_separators (all : AreSeparators seps) : words seps = [] := by
  induction seps with
  | nil => rfl
  | cons c rest ih =>
      obtain ⟨first, others⟩ := List.forall_mem_cons.mp all
      rw [words_cons_separator first, ih others]

/-- Separators around a text belong to no word. -/
theorem words_append_separators_left (all : AreSeparators seps) (y : List Char) :
    words (seps ++ y) = words y := by
  induction seps with
  | nil => rfl
  | cons c rest ih =>
      obtain ⟨first, others⟩ := List.forall_mem_cons.mp all
      rw [List.cons_append, words_cons_separator first, ih others]

/-- Separators between two texts cut the words, however many they are. -/
theorem words_append_separators (present : seps ≠ []) (all : AreSeparators seps)
    (x y : List Char) : words (x ++ seps ++ y) = words x ++ words y := by
  obtain ⟨c, rest, rfl⟩ := List.exists_cons_of_ne_nil present
  obtain ⟨first, others⟩ := List.forall_mem_cons.mp all
  rw [List.append_assoc, List.cons_append, words_append_separator first,
    words_append_separators_left others]

theorem words_append_separators_right (all : AreSeparators seps) (x : List Char) :
    words (x ++ seps) = words x := by
  by_cases present : seps = []
  · rw [present, List.append_nil]
  · have cut := words_append_separators present all x []
    rwa [List.append_nil, words, List.append_nil] at cut

/-- A run of letters and digits is a word, if it does not go on behind.  What stands behind it is
arbitrary otherwise. -/
theorem words_append_of_run {w rest : List Char} (run : w ≠ [])
    (all : ∀ c ∈ w, c.isAlphanum = true) (ends : rest.head?.any Char.isAlphanum = false) :
    words (w ++ rest) = w :: words rest := by
  induction w with
  | nil => exact absurd rfl run
  | cons c w ih =>
      obtain ⟨first, all⟩ := List.forall_mem_cons.mp all
      cases w with
      | nil => simp [words, first, ends]
      | cons d w =>
          have goesOn : ((d :: w) ++ rest).head?.any Char.isAlphanum = true :=
            all d List.mem_cons_self
          rw [List.cons_append, words, if_pos first, if_pos goesOn, ih (List.cons_ne_nil d w) all]

/-- The words hold every letter and digit of the text, in order.  So cutting loses separators
only. -/
theorem flatten_words (x : List Char) : (words x).flatten = x.filter Char.isAlphanum := by
  induction x with
  | nil => rfl
  | cons a x ih =>
      by_cases first : a.isAlphanum = true
      · rw [List.filter_cons_of_pos first, ← ih, words, if_pos first]
        cases words x <;> split <;> rfl
      · rw [List.filter_cons_of_neg first, ← ih, words_cons_separator (Bool.eq_false_iff.mpr first)]

/-- A text has no words exactly if it consists of separators. -/
theorem words_eq_nil_iff : words x = [] ↔ AreSeparators x := by
  refine ⟨fun none c mem => ?_, words_of_separators⟩
  have kept : x.filter Char.isAlphanum = [] := by rw [← flatten_words, none, List.flatten_nil]
  exact Bool.eq_false_iff.mpr (List.filter_eq_nil_iff.mp kept c mem)

/-- Letter case makes no difference to where the words are.  Only ASCII letters change their case
here, and they remain letters. -/
theorem words_map_toLower (x : List Char) :
    words (x.map Char.toLower) = (words x).map (List.map Char.toLower) := by
  induction x with
  | nil => rfl
  | cons a x ih =>
      have head : (x.map Char.toLower).head?.any Char.isAlphanum =
          x.head?.any Char.isAlphanum := by
        cases x with
        | nil => rfl
        | cons b x => exact isAlphanum_toLower b
      rw [List.map_cons, words, words, isAlphanum_toLower, head, ih]
      split
      · split
        · cases words x <;> rfl
        · rfl
      · rfl

/-- A text that does not end in a letter or digit ends between words. -/
theorem words_append_of_last (ends : ∀ c, x.getLast? = some c → c.isAlphanum = false)
    (y : List Char) : words (x ++ y) = words x ++ words y := by
  obtain rfl | ⟨before, c, rfl⟩ := List.eq_nil_or_concat x
  · rfl
  · rw [List.concat_eq_append] at ends ⊢
    have separates : c.isAlphanum = false := ends c List.getLast?_concat
    rw [List.append_assoc, List.singleton_append, words_append_separator separates,
      words_append_separators_right fun d mem => List.mem_singleton.mp mem ▸ separates]

/-! ### Words put together -/

/-- Behind a word all further words begin with capitals. -/
theorem joinCamel_append {ws : List (List Char)} (present : ws ≠ []) (ws' : List (List Char)) :
    joinCamel (ws ++ ws') = joinCamel ws ++ ws'.flatMap capitalized := by
  obtain ⟨w, ws, rfl⟩ := List.exists_cons_of_ne_nil present
  rw [List.cons_append, joinCamel, joinCamel, List.flatMap_append, List.append_assoc]

/-- A capitalized word is the same word, letter case apart. -/
theorem map_toLower_capitalized (w : List Char) :
    (capitalized w).map Char.toLower = w.map Char.toLower := by
  cases w <;> simp [capitalized]

/-- Letter case apart, nothing becomes of the words but that they are put together. -/
theorem map_toLower_joinCamel (ws : List (List Char)) :
    (joinCamel ws).map Char.toLower = ws.flatten.map Char.toLower := by
  cases ws with
  | nil => rfl
  | cons w ws =>
      have others : (ws.flatMap capitalized).map Char.toLower = ws.flatten.map Char.toLower := by
        rw [List.map_flatMap, List.map_flatten, ← List.flatMap_def]
        exact congrArg (List.flatMap · ws) (funext map_toLower_capitalized)
      rw [joinCamel, List.flatten_cons, List.map_append, List.map_append, others]
      simp

theorem capitalized_map_toLower (w : List Char) :
    capitalized (w.map Char.toLower) = capitalized w := by
  cases w <;> simp [capitalized]

theorem joinCamel_map_toLower (ws : List (List Char)) :
    joinCamel (ws.map (List.map Char.toLower)) = joinCamel ws := by
  cases ws with
  | nil => rfl
  | cons w ws =>
      rw [List.map_cons, joinCamel, joinCamel, List.flatMap_map]
      simp [capitalized_map_toLower]

/-- The letter at the beginning of a word other than the first is a capital, the others are not.
The letter is given by what stands before it in the word. -/
theorem getElem?_capitalized (run : List Char) (c : Char) (rest more : List Char) :
    (capitalized (run ++ c :: rest) ++ more)[run.length]? =
      some (if run = [] then c.toUpper else c.toLower) := by
  cases run <;> simp [capitalized]

/-! ### Where the capitals stand -/

/-- Would a letter or digit behind the text start a word other than the first?  There is one in the
text, but not at its end. -/
def StartsFurtherWord (before : List Char) : Prop :=
  (∃ c ∈ before, c.isAlphanum = true) ∧ ∀ c, before.getLast? = some c → c.isAlphanum = false

/-- Every letter and digit stands in a word, which begins in the text before it or with it.  What
stands before it is cut into what lies outside of the word and the beginning of the word; the words
of the first part are not touched by what follows. -/
theorem exists_words_around (before : List Char) (here : c.isAlphanum = true)
    (behind : List Char) :
    ∃ outside run rest ws, before = outside ++ run ∧ (∀ d ∈ run, d.isAlphanum = true) ∧
      (∀ d, outside.getLast? = some d → d.isAlphanum = false) ∧
      words (before ++ c :: behind) = words outside ++ (run ++ c :: rest) :: ws := by
  -- The run around the place is the longest one: backwards to the last character that is no letter
  -- or digit, forwards to the next.
  have run : ∀ d ∈ before.rtakeWhile Char.isAlphanum, d.isAlphanum = true :=
    fun d mem => List.mem_rtakeWhile_imp mem
  have outside : ∀ d, (before.rdropWhile Char.isAlphanum).getLast? = some d →
      d.isAlphanum = false := by
    intro d last
    obtain ⟨present, rfl⟩ := List.mem_getLast?_eq_getLast last
    exact Bool.eq_false_iff.mpr (List.rdropWhile_last_not _ _ present)
  have rest : ∀ d ∈ behind.takeWhile Char.isAlphanum, d.isAlphanum = true :=
    fun d mem => List.mem_takeWhile_imp mem
  have ends : (behind.dropWhile Char.isAlphanum).head?.any Char.isAlphanum = false := by
    rw [← List.find?_not_eq_head?_dropWhile]
    cases found : behind.find? fun d => !d.isAlphanum with
    | none => rfl
    | some d => simpa using List.find?_some found
  have word : words ((before.rtakeWhile Char.isAlphanum ++
        c :: behind.takeWhile Char.isAlphanum) ++ behind.dropWhile Char.isAlphanum) =
      (before.rtakeWhile Char.isAlphanum ++ c :: behind.takeWhile Char.isAlphanum) ::
        words (behind.dropWhile Char.isAlphanum) := by
    refine words_append_of_run (by simp) (fun d mem => ?_) ends
    rcases List.mem_append.mp mem with earlier | later
    · exact run d earlier
    · rcases List.mem_cons.mp later with rfl | later
      · exact here
      · exact rest d later
  refine ⟨_, _, behind.takeWhile Char.isAlphanum, words (behind.dropWhile Char.isAlphanum),
    (List.rdropWhile_append_rtakeWhile ..).symm, run, outside, ?_⟩
  rw [← word, ← words_append_of_last outside, List.append_assoc, List.cons_append,
    List.takeWhile_append_dropWhile, ← List.append_assoc, List.rdropWhile_append_rtakeWhile]

/-- Behind a run of letters and digits a further word starts if the run is empty and there is a word
before it. -/
theorem startsFurtherWord_append_iff {outside run : List Char}
    (all : ∀ d ∈ run, d.isAlphanum = true)
    (ends : ∀ d, outside.getLast? = some d → d.isAlphanum = false) :
    StartsFurtherWord (outside ++ run) ↔ words outside ≠ [] ∧ run = [] := by
  by_cases empty : run = []
  · rw [empty, List.append_nil, StartsFurtherWord, and_iff_left ends, and_iff_left rfl, Ne,
      words_eq_nil_iff, AreSeparators]
    simp
  · refine iff_of_false (fun further => ?_) fun both => empty both.2
    have last : (outside ++ run).getLast? = some (run.getLast empty) := by
      rw [List.getLast?_append_of_ne_nil _ empty, List.getLast?_eq_some_getLast empty]
    exact absurd (all _ (List.getLast_mem empty)) (Bool.eq_false_iff.mp (further.2 _ last))

/-- A letter or digit stands in the name in camel case where it stands among the letters and digits
of the name, and it is a capital exactly if it starts a word other than the first.  A digit is never
a capital, even where it starts a word, and then the letter behind it is none either. -/
theorem getElem?_joinCamel (before : List Char) (here : c.isAlphanum = true)
    (behind : List Char) :
    ∃ d, (joinCamel (words (before ++ c :: behind)))[before.countP Char.isAlphanum]? = some d ∧
      (d.isUpper = true ↔ c.isAlpha = true ∧ StartsFurtherWord before) := by
  obtain ⟨outside, run, rest, ws, rfl, all, ends, cut⟩ := exists_words_around before here behind
  have length : run.countP Char.isAlphanum = run.length := List.countP_eq_length.mpr all
  rw [cut, List.countP_append, length, startsFurtherWord_append_iff all ends]
  by_cases first : words outside = []
  · -- there is no letter or digit before the word
    have count : outside.countP Char.isAlphanum = 0 :=
      List.countP_eq_zero.mpr fun d mem => Bool.eq_false_iff.mp (words_eq_nil_iff.mp first d mem)
    exact ⟨c.toLower, by simp [first, joinCamel, count], by simp [first]⟩
  · have count : outside.countP Char.isAlphanum = (joinCamel (words outside)).length := by
      have same := congrArg List.length (map_toLower_joinCamel (words outside))
      rw [List.length_map, List.length_map, flatten_words] at same
      rw [same, List.countP_eq_length_filter]
    refine ⟨if run = [] then c.toUpper else c.toLower, ?_, ?_⟩
    · rw [joinCamel_append first, count, List.getElem?_append_right (Nat.le_add_right ..),
        Nat.add_sub_cancel_left, List.flatMap_cons, getElem?_capitalized]
    · by_cases begins : run = [] <;> simp [begins, first]

/-! ### Names in camel case -/

/-- What is promised of a name in camel case: it consists of the letters and digits of the name,
in order, and its capitals are the letters that start a word other than the first. -/
structure IsCamelCase (name result : String) : Prop where
  alphanumeric : ∀ c ∈ result.toList, c.isAlphanum = true
  letters : result.toList.map Char.toLower = (name.toList.filter Char.isAlphanum).map Char.toLower
  /-- Where a letter or digit of the name stands in the result, and whether it is a capital. -/
  capitals : ∀ before c behind, name.toList = before ++ c :: behind → c.isAlphanum = true →
    ∃ d, result.toList[before.countP Char.isAlphanum]? = some d ∧
      (d.isUpper = true ↔ c.isAlpha = true ∧ StartsFurtherWord before)

/-- The names differ in letter case, in a run of separators inside, or in the separators around. -/
inductive Respells : String → String → Prop
  | letterCase {name other : String} :
      name.toList.map Char.toLower = other.toList.map Char.toLower → Respells name other
  | separators (before behind : String) {seps seps' : String} : seps ≠ "" → seps' ≠ "" →
      AreSeparators seps.toList → AreSeparators seps'.toList →
      Respells (before ++ seps ++ behind) (before ++ seps' ++ behind)
  | around (name : String) {seps seps' : String} :
      AreSeparators seps.toList → AreSeparators seps'.toList →
      Respells name (seps ++ name ++ seps')

variable {name other : String}

/-- A name with words is written as its words put together. -/
theorem toList_camelCase (present : words name.toList ≠ []) :
    (camelCase name).toList = joinCamel (words name.toList) := by
  obtain ⟨w, ws, found⟩ := List.exists_cons_of_ne_nil present
  rw [camelCase, found, String.toList_ofList]

theorem camelCase_of_separators (none : AreSeparators name.toList) : camelCase name = name := by
  rw [camelCase, words_of_separators none]

/-- A name with words keeps the promise. -/
theorem isCamelCase_camelCase (present : words name.toList ≠ []) :
    IsCamelCase name (camelCase name) where
  letters := by rw [toList_camelCase present, map_toLower_joinCamel, flatten_words]
  alphanumeric := by
    intro c mem
    have lower : c.toLower ∈ (name.toList.filter Char.isAlphanum).map Char.toLower := by
      rw [← flatten_words, ← map_toLower_joinCamel, ← toList_camelCase present]
      exact List.mem_map_of_mem mem
    obtain ⟨d, kept, same⟩ := List.mem_map.mp lower
    rw [← isAlphanum_toLower, ← same, isAlphanum_toLower]
    exact (List.mem_filter.mp kept).2
  capitals := by
    intro before c behind split here
    rw [toList_camelCase present, split]
    exact getElem?_joinCamel before here behind

/-- A change that makes no difference leaves the words as they are, letter case apart.  There is one
case for each rule. -/
theorem Respells.words_eq (h : Respells name other) :
    (words name.toList).map (List.map Char.toLower) =
      (words other.toList).map (List.map Char.toLower) := by
  cases h with
  | letterCase same => rw [← words_map_toLower, ← words_map_toLower, same]
  | separators before behind present present' all all' =>
      simp only [String.toList_append]
      rw [words_append_separators (by simpa using present) all,
        words_append_separators (by simpa using present') all']
  | around _ all all' =>
      simp only [String.toList_append]
      rw [words_append_separators_right all', words_append_separators_left all]

/-- **Camel case spells the words of a name.**  A name with a letter or digit is written in camel
case as the promise says, and in the same way if letter case or separators are changed; a name
without them is left as it is. -/
theorem camelCase_spells_words (name : String) :
    ((∃ c ∈ name.toList, c.isAlphanum = true) →
      IsCamelCase name (camelCase name) ∧
      ∀ other, Respells name other → camelCase other = camelCase name) ∧
    ((∀ c ∈ name.toList, c.isAlphanum = false) → camelCase name = name) := by
  refine ⟨fun ⟨c, mem, here⟩ => ?_, camelCase_of_separators⟩
  have present : words name.toList ≠ [] := by
    rw [Ne, words_eq_nil_iff]
    exact fun none => absurd here (Bool.eq_false_iff.mp (none c mem))
  refine ⟨isCamelCase_camelCase present, fun other respells => ?_⟩
  have same := respells.words_eq
  have present' : words other.toList ≠ [] := by
    intro none
    rw [none] at same
    exact present (List.map_eq_nil_iff.mp same)
  refine String.toList_injective ?_
  rw [toList_camelCase present', toList_camelCase present, ← joinCamel_map_toLower, ← same,
    joinCamel_map_toLower]

/-- A name of three words, one of which begins with a digit, and a name without words. -/
theorem camelCase_spells_words_sample :
    (∃ c ∈ "_Order__2nd_ID".toList, c.isAlphanum = true) ∧
      camelCase "_Order__2nd_ID" = "order2ndId" ∧ IsCamelCase "_Order__2nd_ID" "order2ndId" ∧
      Respells "_Order__2nd_ID" "_ORDER__2ND_id" ∧ camelCase "_ORDER__2ND_id" = "order2ndId" ∧
      (∀ c ∈ "__".toList, c.isAlphanum = false) ∧ camelCase "__" = "__" := by
  have present : ∃ c ∈ "_Order__2nd_ID".toList, c.isAlphanum = true := ⟨'O', by simp, by decide⟩
  have written : camelCase "_Order__2nd_ID" = "order2ndId" := by decide +kernel
  have respelled : Respells "_Order__2nd_ID" "_ORDER__2ND_id" := .letterCase (by decide +kernel)
  have separators : ∀ c ∈ "__".toList, c.isAlphanum = false := by simp
  obtain ⟨spells, same⟩ := (camelCase_spells_words _).1 present
  exact ⟨present, written, written ▸ spells, respelled, (same _ respelled).trans written,
    separators, (camelCase_spells_words _).2 separators⟩

end BoundSql.Text
