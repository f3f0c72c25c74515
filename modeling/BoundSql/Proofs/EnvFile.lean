import Mathlib.Data.List.TakeWhile
import BoundSql.Proofs.Assoc
import BoundSql.Settings.EnvFile

/-!
# Environment files written and read

The reader of environment files is lenient: it takes names and values with or without quotes, skips
comments and the lines that it cannot read, and never fails.  What such a reader gets wrong it gets
wrong silently, so it matters to know a way of writing that it cannot get wrong.  There is one.  A
name is followed by its value in double quotes, in which a backslash stands before backslashes and
quotes; a carriage return has to be written as an escape, because the reader rewrites line ends
before it looks at anything else.

## What is assumed, and why

Of a name, `EnvFile.IsName` : no sign in it ends a name or a line, and it does not begin with a
quote or a byte order mark, which would be taken off.  Of a value, nothing for `EnvFile.parse`.  For
`EnvFile.assigned` a value must not contain a dollar sign, because there is no way to write one
before a brace that is not taken for a reference.

## The shape of the proof

The reader goes through a line from left to right, and at each step takes off as much as it can.
So the facts about its steps say what stands in front of a text with an arbitrary rest behind it,
the fact about a line (`EnvFile.readLine_line`) puts them together, and the one about a file is an
induction over the lines in which only the bound on their number has to be watched.

* `EnvFile.quoted?_escape`, `EnvFile.unescape_escape` : a value in quotes is read back.
* `EnvFile.parse_written` : a file is read back.
* `EnvFile.get?_assigned_written` : of several values for a variable the last one counts.
-/

namespace BoundSql.EnvFile

open Text

/-! ### Writing -/

/-- A character as it is written between double quotes. -/
def escape : Char → List Char
  | '\\' => ['\\', '\\']
  | '\x22' => ['\\', '\x22']
  | '\r' => ['\\', 'r']
  | c => [c]

/-- A variable as it is written in a file, in a line of its own. -/
def line (v : String × String) : List Char :=
  v.1.toList ++ '=' :: '\x22' :: (v.2.toList.flatMap escape ++ ['\x22', '\n'])

/-- A file that gives variables. -/
def written (vs : List (String × String)) : String := String.ofList (vs.flatMap line)

/-- A text that is read as the name of a variable. -/
structure IsName (name : List Char) : Prop where
  /-- There is something to read. -/
  present : name ≠ []
  /-- Nothing ends the name before its end. -/
  whole : ∀ c ∈ name, (!(c == '=' || c == '#' || isBlank c)) = true
  /-- Nothing is taken off its beginning. -/
  first : name.head? ≠ some '\x27' ∧ name.head? ≠ some '\ufeff'

/-! ### Values -/

/-- A character is written as it is, or as an escape that stands for it.  The lemmas about values
know of the writing no more than this. -/
theorem escape_cases (c : Char) :
    (escape c = [c] ∧ c ≠ '\\' ∧ c ≠ '\x22' ∧ c ≠ '\r') ∨
      ∃ d, escape c = ['\\', d] ∧ escaped? d = some c ∧ d ≠ '\r' := by
  unfold escape
  split
  case h_1 => exact .inr ⟨'\\', rfl, rfl, by decide⟩
  case h_2 => exact .inr ⟨'\x22', rfl, rfl, by decide⟩
  case h_3 => exact .inr ⟨'r', rfl, rfl, by decide⟩
  case h_4 backslash quote back => exact .inl ⟨rfl, backslash, quote, back⟩

/-- Up to the closing quote, an escaped value is passed over: a quote in it stands behind a
backslash. -/
theorem quoted?_escape (value rest : List Char) :
    quoted? '\x22' (value.flatMap escape ++ '\x22' :: rest) =
      some (value.flatMap escape, rest) := by
  induction value with
  | nil => rfl
  | cons c value ih =>
      rw [List.flatMap_cons, List.append_assoc]
      rcases escape_cases c with ⟨plain, backslash, quote, -⟩ | ⟨d, escaped, -, -⟩
      · rw [plain, List.singleton_append, quoted?, ih]
        · exact if_neg (by simpa using quote)
        · exact fun d more same => absurd same backslash
      · rw [escaped, List.cons_append, List.singleton_append, quoted?, ih]
        rfl

/-- Reading the escapes of an escaped value gives the value. -/
theorem unescape_escape (value : List Char) : unescape escaped? (value.flatMap escape) = value := by
  induction value with
  | nil => rfl
  | cons c value ih =>
      rw [List.flatMap_cons]
      rcases escape_cases c with ⟨plain, backslash, -, -⟩ | ⟨d, escaped, stands, -⟩
      · rw [plain, List.singleton_append, unescape, ih]
        exact fun d more same => absurd same backslash
      · rw [escaped, List.cons_append, List.singleton_append, unescape, stands]
        exact congrArg (c :: ·) ih

/-! ### Lines -/

variable {name : List Char}

/-- A name ends where a sign stands that is part of no name. -/
theorem takeWhile_name (h : IsName name) (rest : List Char) :
    (name ++ '=' :: rest).takeWhile (fun c => !(c == '=' || c == '#' || isBlank c)) = name ∧
      (name ++ '=' :: rest).dropWhile (fun c => !(c == '=' || c == '#' || isBlank c)) =
        '=' :: rest := by
  rw [List.takeWhile_append_of_pos h.whole, List.dropWhile_append_of_pos h.whole,
    List.takeWhile_cons_of_neg (by simp), List.dropWhile_cons_of_neg (by simp), List.append_nil]
  exact ⟨rfl, rfl⟩

/-- A name may begin with the word `export`, or be it: the word counts as such only before a
blank. -/
theorem skipExport_name (h : IsName name) (rest : List Char) :
    skipExport (name ++ '=' :: rest) = name ++ '=' :: rest := by
  unfold skipExport
  split
  case h_2 => rfl
  case h_1 c more same =>
    refine if_neg fun blank => ?_
    obtain ⟨-, behind⟩ := takeWhile_name h rest
    have blank : isBlank c = true := (Bool.and_eq_true_iff.mp blank).1
    have ends : ¬ (!(c == '=' || c == '#' || isBlank c)) = true := by simp [blank]
    -- the letters of the word belong to the name, so the blank stands where the name ends
    have found : (name ++ '=' :: rest).dropWhile (fun c => !(c == '=' || c == '#' || isBlank c)) =
        c :: more := by
      rw [same]
      have letters : ∀ d ∈ "export".toList, (!(d == '=' || d == '#' || isBlank d)) = true :=
        List.all_eq_true.mp rfl
      exact (List.dropWhile_append_of_pos letters).trans (List.dropWhile_cons_of_neg ends)
    have sign : c = '=' := (List.cons.inj (found.symm.trans behind)).1
    rw [sign] at blank
    cases blank

theorem name?_name (h : IsName name) (rest : List Char) :
    name? (name ++ '=' :: rest) = some (some name, '=' :: rest) := by
  obtain ⟨before, behind⟩ := takeWhile_name h rest
  obtain ⟨c, name, rfl⟩ := List.exists_cons_of_ne_nil h.present
  unfold name?
  split
  case h_1 more same =>
    have inName := h.whole c List.mem_cons_self
    rw [(List.cons.inj same).1] at inName
    cases inName
  case h_2 more same =>
    exact absurd (congrArg some (List.cons.inj same).1) h.first.1
  case h_3 => simp only [before, behind]

/-- **A line is read back**, whatever follows it. -/
theorem readLine_line {v : String × String} (h : IsName v.1.toList) (rest : List Char) :
    readLine (line v ++ rest) = .ok (some (v.1, some v.2), rest) := by
  have shape : line v ++ rest =
      v.1.toList ++ '=' :: '\x22' :: (v.2.toList.flatMap escape ++ '\x22' :: '\n' :: rest) := by
    simp [line]
  have quoted : value? ('\x22' :: (v.2.toList.flatMap escape ++ '\x22' :: '\n' :: rest)) =
      some (v.2.toList, '\n' :: rest) := by
    have opening : ('\x22' :: (v.2.toList.flatMap escape ++ '\x22' :: '\n' :: rest)).dropWhile
        isInlineBlank = '\x22' :: (v.2.toList.flatMap escape ++ '\x22' :: '\n' :: rest) :=
      List.dropWhile_cons_of_neg (by decide)
    rw [value?, opening]
    simp only [quoted?_escape, Option.map_some, unescape_escape]
  have sign (more : List Char) : ('=' :: more).dropWhile isInlineBlank = '=' :: more :=
    List.dropWhile_cons_of_neg (by decide)
  have comment : skipComment ('\n' :: rest) = '\n' :: rest := rfl
  have ends : endOfLine? ('\n' :: rest) = some rest := rfl
  rw [readLine, shape]
  simp only [skipExport_name h, name?_name h, readOr, bind, Except.bind, sign, quoted, pure,
    Except.pure, comment, ends, Option.map_some, String.ofList_toList]

/-! ### Files -/

/-- No line end is rewritten where there is no carriage return. -/
theorem unifyLineEnds_of_notMem {text : List Char} (absent : '\r' ∉ text) :
    unifyLineEnds text = text := by
  induction text with
  | nil => rfl
  | cons c text ih =>
      have other : c ≠ '\r' := fun same => absent (same ▸ List.mem_cons_self)
      rw [unifyLineEnds, ih fun mem => absent (List.mem_cons_of_mem c mem)]
      · rw [if_neg (by simpa using other)]
      · intro more same
        exact absurd same other

theorem notMem_line {v : String × String} (h : IsName v.1.toList) : '\r' ∉ line v := by
  have escaped : ∀ c, '\r' ∉ escape c := by
    intro c mem
    rcases escape_cases c with ⟨plain, -, -, back⟩ | ⟨d, escaped, -, back⟩
    · rw [plain] at mem
      exact back (List.mem_singleton.mp mem).symm
    · rw [escaped, List.mem_cons, List.mem_singleton] at mem
      exact mem.elim nofun fun same => back same.symm
  intro mem
  simp only [line, List.mem_append, List.mem_cons, List.mem_flatMap, List.not_mem_nil,
    or_false] at mem
  rcases mem with mem | same | same | ⟨c, -, mem⟩ | same | same
  · exact absurd (h.whole _ mem) (by decide)
  · cases same
  · cases same
  · exact escaped c mem
  · cases same
  · cases same

/-- A line begins with a name, and so with no blank. -/
theorem dropWhile_line {v : String × String} (h : IsName v.1.toList) (rest : List Char) :
    ∃ c more, line v ++ rest = c :: more ∧ (line v ++ rest).dropWhile isBlank = c :: more := by
  obtain ⟨c, name, begins⟩ := List.exists_cons_of_ne_nil h.present
  have shown : ¬ isBlank c = true := by
    have inName := h.whole c (begins ▸ List.mem_cons_self)
    rw [Bool.not_eq_true', Bool.or_eq_false_iff] at inName
    rw [inName.2]
    exact Bool.false_ne_true
  rw [line, begins]
  exact ⟨c, _, rfl, List.dropWhile_cons_of_neg shown⟩

variable {vs : List (String × String)}

/-- The lines of a file are read one after the other, as long as there is fuel for each. -/
theorem readLines_lines (names : ∀ v ∈ vs, IsName v.1.toList) {fuel : Nat}
    (enough : vs.length ≤ fuel) :
    readLines fuel (vs.flatMap line) = vs.map fun v => (v.1, some v.2) := by
  induction vs generalizing fuel with
  | nil =>
      cases fuel with
      | zero => rfl
      | succ fuel => rfl
  | cons v vs ih =>
      obtain ⟨first, others⟩ := List.forall_mem_cons.mp names
      obtain ⟨fuel, rfl⟩ := Nat.exists_eq_add_of_lt (Nat.lt_of_lt_of_le (Nat.zero_lt_succ _) enough)
      obtain ⟨c, more, begins, shown⟩ := dropWhile_line first (vs.flatMap line)
      have read := readLine_line first (vs.flatMap line)
      rw [begins] at read
      rw [List.flatMap_cons, readLines, shown]
      simp only [read]
      rw [ih others (by simpa using enough)]
      rfl

/-- Every line has a character, which is why the length of a file bounds the number of its lines. -/
theorem length_le_length_lines (vs : List (String × String)) :
    vs.length ≤ (vs.flatMap line).length := by
  induction vs with
  | nil => exact Nat.zero_le _
  | cons v vs ih =>
      simp only [List.flatMap_cons, List.length_append, List.length_cons, line]
      omega

/-- **A file is read back.** -/
theorem parse_written (names : ∀ v ∈ vs, IsName v.1.toList) :
    parse (written vs) = vs.map fun v => (v.1, some v.2) := by
  -- a name does not begin with the byte order mark, so the first line is left alone
  have kept : dropOrderMark (vs.flatMap line) = vs.flatMap line := by
    cases vs with
    | nil => rfl
    | cons v vs =>
        have first := names v List.mem_cons_self
        obtain ⟨c, name, begins⟩ := List.exists_cons_of_ne_nil first.present
        unfold dropOrderMark
        split
        case h_1 rest same =>
          rw [List.flatMap_cons, line, begins] at same
          exact absurd (begins ▸ congrArg some (List.cons.inj same).1) first.first.2
        case h_2 => rfl
  have plain : '\r' ∉ vs.flatMap line := by
    intro mem
    obtain ⟨v, given, mem⟩ := List.mem_flatMap.mp mem
    exact notMem_line (names v given) mem
  rw [parse, written, String.toList_ofList, kept, unifyLineEnds_of_notMem plain,
    readLines_lines names]
  rw [String.length_ofList]
  exact Nat.le_succ_of_le (length_le_length_lines vs)

/-! ### References -/

/-- Without a dollar sign there is nothing to replace. -/
theorem resolve_of_notMem {known : Assoc String (Option String)} {value : List Char}
    (absent : '$' ∉ value) (fuel : Nat) : resolve known fuel value = value := by
  induction value generalizing fuel with
  | nil => cases fuel <;> rfl
  | cons c value ih =>
      cases fuel with
      | zero => rfl
      | succ fuel =>
          rw [resolve, ih fun mem => absent (List.mem_cons_of_mem c mem)]
          intro more same
          exact absurd (same ▸ List.mem_cons_self) absent

theorem assigned_written (names : ∀ v ∈ vs, IsName v.1.toList)
    (plain : ∀ v ∈ vs, '$' ∉ v.2.toList) (environment : Assoc String String) :
    assigned environment (written vs) = Assoc.putAll [] (vs.map fun v => (v.1, some v.2)) := by
  rw [assigned, parse_written names, Assoc.putAll]
  generalize ([] : Assoc String (Option String)) = found
  clear names
  induction vs generalizing found with
  | nil => rfl
  | cons v vs ih =>
      obtain ⟨first, others⟩ := List.forall_mem_cons.mp plain
      rw [List.map_cons, List.foldl_cons, List.foldl_cons, ← ih others]
      simp only [Option.map_some, resolve_of_notMem first, String.ofList_toList]

/-- **Of several values for a variable the last one counts**, whatever the environment is. -/
theorem get?_assigned_written (names : ∀ v ∈ vs, IsName v.1.toList)
    (plain : ∀ v ∈ vs, '$' ∉ v.2.toList) (environment : Assoc String String) (name : String) :
    Assoc.get? name (assigned environment (written vs)) =
      Assoc.get? name (vs.map fun v => (v.1, some v.2)).reverse := by
  rw [assigned_written names plain, Assoc.get?_putAll]
  cases Assoc.get? name (vs.map fun v => (v.1, some v.2)).reverse <;> rfl

end BoundSql.EnvFile
