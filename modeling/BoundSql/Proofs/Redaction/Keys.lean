import Mathlib.Data.List.Infix
import BoundSql.Log.Redaction

/-!
# Secret keys

What is promised of a key and what is tested differ where a key has several lines.  A key that
contains one of the words, or that is one of the names, has a secret; but the test looks for words
in the first line only, and a name has to be one line.

The promise (`Redaction.IsSecret`) ignores letter case and says nothing of lines.  The test is made
of patterns, in which the sign for any character does not stand for a line feed, and the sign for
the end allows one line feed behind it.  So a key with one line feed at its end is treated as if it
were without, and for all others only the first line counts for the words.

The result is exact for secret keys: it says which of them the test finds out.  That the test finds
out nothing else is not claimed, nor needed.

* `Redaction.IsSecret` : the keys whose values are secrets.
* `Redaction.isSensitive_iff_of_isSecret` : which of them the test finds out.
-/

namespace BoundSql.Redaction

/-- Is the value under the key a secret?  Letter case apart, the key contains one of the words, or
it is the name of the database address or that of a salt. -/
def IsSecret (key : String) : Prop :=
  let folded := key.toList.map fold
  (∃ word ∈ sensitiveWords, word.toList <:+: folded) ∨ folded = "database_url".toList ∨
    ∃ middle, folded = "dsql_".toList ++ middle ++ "_salt".toList

/-- A key up to its first line feed, without letter case. -/
def firstLine (key : String) : List Char := (key.toList.map fold).takeWhile (· != '\n')

/-! ### Texts -/

/-- The test for a word is whether the text has it as a part. -/
theorem containsWord_iff {word text : List Char} :
    containsWord word text = true ↔ word <:+: text := by
  induction text with
  | nil => simp [containsWord]
  | cons c rest ih =>
      rw [containsWord, Bool.or_eq_true, ih, List.isPrefixOf_iff_prefix, List.infix_cons_iff]

/-- The name of a salt is one line, with something between its beginning and its end that may be
nothing. -/
theorem isSaltName_iff {name : List Char} :
    isSaltName name = true ↔
      '\n' ∉ name ∧ ∃ middle, name = "dsql_".toList ++ middle ++ "_salt".toList := by
  simp only [isSaltName, Bool.and_eq_true, List.isPrefixOf_iff_prefix,
    List.isSuffixOf_iff_suffix, Bool.not_eq_true', List.contains_eq_mem, decide_eq_false_iff_not]
  constructor
  · rintro ⟨⟨⟨behind, rfl⟩, stop⟩, line⟩
    rw [List.drop_left] at stop
    obtain ⟨middle, rfl⟩ := stop
    exact ⟨line, middle, (List.append_assoc ..).symm⟩
  · rintro ⟨line, middle, rfl⟩
    refine ⟨⟨⟨middle ++ "_salt".toList, (List.append_assoc ..).symm⟩, ?_⟩, line⟩
    rw [List.append_assoc, List.drop_left]
    exact List.suffix_append ..

/-- A line feed is dropped from the end, or nothing is. -/
theorem dropLastLineFeed_cases (text : List Char) :
    text = dropLastLineFeed text ∨ text = dropLastLineFeed text ++ ['\n'] := by
  rw [dropLastLineFeed]
  split
  next last =>
    obtain ⟨before, rfl⟩ := List.getLast?_eq_some_iff.mp last
    exact .inr (by rw [List.dropLast_concat])
  next => exact .inl rfl

/-- Without a line feed nothing is dropped. -/
theorem dropLastLineFeed_of_notMem {text : List Char} (line : '\n' ∉ text) :
    dropLastLineFeed text = text := by
  obtain same | ends := dropLastLineFeed_cases text
  · exact same.symm
  · rw [ends] at line
    exact absurd (List.mem_append_right _ (List.mem_singleton_self _)) line

/-- The first line ends before the first line feed. -/
theorem takeWhile_append_of_notMem {text : List Char} (line : '\n' ∉ text) (rest : List Char) :
    (text ++ rest).takeWhile (· != '\n') = text ++ rest.takeWhile (· != '\n') :=
  List.takeWhile_append_of_pos fun c mem => by
    rw [bne_iff_ne]
    rintro rfl
    exact line mem

/-- A key of one line is its first line. -/
theorem firstLine_of_notMem {key : String} (line : '\n' ∉ key.toList.map fold) :
    firstLine key = key.toList.map fold := by
  have whole := takeWhile_append_of_notMem line []
  rwa [List.append_nil, List.takeWhile_nil, List.append_nil] at whole

/-- Only a line feed has the letter case of one. -/
theorem fold_eq_lineFeed {c : Char} : fold c = '\n' ↔ c = '\n' := by
  refine ⟨fun same => ?_, by rintro rfl; rfl⟩
  unfold fold at same
  split at same
  case h_5 =>
    unfold Char.toLower at same
    split at same
    next capital =>
      have shifted : c.val + 32 = 10 := congrArg Char.val same
      have lower : (65 : UInt32) ≤ c.val := capital.1
      have upper : c.val ≤ (90 : UInt32) := capital.2
      grind
    next => exact same
  all_goals cases same

theorem lineFeed_mem_map_fold {text : List Char} : '\n' ∈ text.map fold ↔ '\n' ∈ text := by
  simp [fold_eq_lineFeed]

/-- A word without the last letter of a text stands before it. -/
theorem infix_of_infix_concat {word text : List Char} {c : Char} (h : word <:+: text ++ [c])
    (absent : c ∉ word) : word <:+: text := by
  obtain ends | inside := List.infix_concat_iff.mp h
  · obtain rfl | ⟨before, rfl, -⟩ := List.suffix_concat_iff.mp ends
    · exact List.nil_infix
    · exact absurd (List.mem_append_right _ (List.mem_singleton_self c)) absent
  · exact inside

/-- None of the words has a line feed, so a word lies within one line. -/
theorem lineFeed_notMem_word : ∀ word ∈ sensitiveWords, '\n' ∉ word.toList := by decide

/-! ### The test on keys -/

/-- The test, as it is made: a word in the first line, or one of the names in a single line. -/
theorem isSensitive_iff {key : String} :
    isSensitive key = true ↔ (∃ word ∈ sensitiveWords, word.toList <:+: firstLine key) ∨
      dropLastLineFeed (key.toList.map fold) = "database_url".toList ∨
      isSaltName (dropLastLineFeed (key.toList.map fold)) = true := by
  simp only [isSensitive, Bool.or_eq_true, List.any_eq_true, containsWord_iff, beq_iff_eq,
    firstLine, or_assoc]

/-- **Which secret keys are found out**: those of one line, and those with one of the words in the
first line.  A key that ends in a line feed is not one of those of one line, but if it is secret by
a word, the word stands before the line feed. -/
theorem isSensitive_iff_of_isSecret {key : String} (secret : IsSecret key) :
    isSensitive key = true ↔
      '\n' ∉ key.toList ∨ ∃ word ∈ sensitiveWords, word.toList <:+: firstLine key := by
  rw [isSensitive_iff, ← lineFeed_mem_map_fold]
  constructor
  · rintro (word | name)
    · exact .inr word
    · -- a name is one line; if a line feed is dropped behind it, the key has a word before that
      have line : '\n' ∉ dropLastLineFeed (key.toList.map fold) := by
        obtain url | salt := name
        · rw [url]
          decide
        · exact (isSaltName_iff.mp salt).1
      obtain same | ends := dropLastLineFeed_cases (key.toList.map fold)
      · exact .inl (same ▸ line)
      · rw [firstLine, ends, takeWhile_append_of_notMem line]
        refine .inr ?_
        obtain ⟨word, mem, stands⟩ | url | ⟨middle, salt⟩ := secret
        · rw [ends] at stands
          have before := infix_of_infix_concat stands (lineFeed_notMem_word word mem)
          exact ⟨word, mem, by simpa using before⟩
        · rw [url, show "database_url".toList = "database_ur".toList ++ ['l'] from rfl] at ends
          cases (List.append_inj' ends rfl).2
        · rw [salt, show "_salt".toList = "_sal".toList ++ ['t'] from rfl,
            ← List.append_assoc] at ends
          cases (List.append_inj' ends rfl).2
  · rintro (line | word)
    · rw [dropLastLineFeed_of_notMem line, firstLine_of_notMem line, isSaltName_iff]
      exact secret.imp_right (.imp_right fun salt => ⟨line, salt⟩)
    · exact .inl word

end BoundSql.Redaction
