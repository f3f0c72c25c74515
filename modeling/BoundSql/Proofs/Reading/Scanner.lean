import BoundSql.Proofs.Placeholder.Writing
import BoundSql.Text.Identifier

/-!
# A scanner for quoted text

The scanner cuts a statement text into words, identifiers between quotes, string literals, commas
and parentheses.  All that it knows of quotes is that one of them ends the quoted text unless it is
written twice.  Whatever stands between quotes is recovered as it was, also if it looks like the
punctuation around it.

The scanner is a machine with one step for a character, and never looks ahead.  Behind a quote it
does not know yet whether the text has ended, so this is a place of its own
(`Scanner.Place.behind`), from which it goes on with the text if another quote follows.  That is
also why the lemmas on single tokens ask what follows: a token is complete only if the next
character cannot belong to it (`Scanner.Ends`).

## Rules for fragments

A fragment is scanned in the context in which it is written, and its values are numbered by what
stands before it.  `Fragment.Scans` takes both into account: it speaks of the rest of a statement
and of the number of values that were bound before.  The rules work from the end of a statement to
its beginning: each puts a fragment in front of another for which the tokens are known already.

* `Scanner.scan` : the tokens of a text.
* `Scanner.scan_enclosed`, `Scanner.scan_word` : quoted texts and words are recovered.
* `Fragment.Scans` : the tokens of a fragment of a statement, as it is written in a dialect, with
  one rule for every way of putting a fragment in front of another.
-/

namespace BoundSql.Scanner

/-- The parts of a text. -/
inductive Token where
  | word (s : String)
  | name (s : String)
  | literal (s : String)
  | comma
  | opening
  | closing
  /-- The text ends between quotes. -/
  | unclosed
deriving DecidableEq, Repr

/-- Where the scanner stands; what it has read of a token is kept in reverse. -/
inductive Place where
  | between
  | word (read : List Char)
  | inside (quote : Char) (read : List Char)
  /-- Behind a quote that ends the text, unless another one follows. -/
  | behind (quote : Char) (read : List Char)

/-- Does the character stand between tokens? -/
def isSeparator (c : Char) : Bool := c == ' ' || c == ',' || c == '(' || c == ')'

/-- The characters that end a word: those between tokens, and quotes. -/
def isSpecial (q c : Char) : Bool := isSeparator c || c == q || c == Text.singleQuote

section

variable (q : Char)

/-- The token that is complete if nothing follows.  A text that ends between quotes gives a token
which the reader knows nothing about. -/
def pending : Place → List Token
  | .between => []
  | .word read => [.word (String.ofList read.reverse)]
  | .inside _ _ => [.unclosed]
  | .behind quote read =>
    let s := String.ofList read.reverse
    [if quote = q then .name s else .literal s]

/-- The effect of a character between tokens, where identifiers are quoted by `q`. -/
def enter (c : Char) : List Token × Place :=
  if c = ' ' then ([], .between)
  else if c = ',' then ([.comma], .between)
  else if c = '(' then ([.opening], .between)
  else if c = ')' then ([.closing], .between)
  else if c = q ∨ c = Text.singleQuote then ([], .inside c [])
  else ([], .word [c])

/-- The tokens that a character completes, and the place behind it. -/
def step : Place → Char → List Token × Place
  | .between, c => enter q c
  | .word read, c =>
    if isSpecial q c then (pending q (.word read) ++ (enter q c).1, (enter q c).2)
    else ([], .word (c :: read))
  | .inside quote read, c =>
    ([], if c = quote then .behind quote read else .inside quote (c :: read))
  | .behind quote read, c =>
    if c = quote then ([], .inside quote (c :: read))
    else (pending q (.behind quote read) ++ (enter q c).1, (enter q c).2)

/-- The tokens of a text. -/
def scan : Place → List Char → List Token
  | place, [] => pending q place
  | place, c :: rest => (step q place c).1 ++ scan (step q place c).2 rest

end

/-- Nothing follows that could belong to the token before: the text is at its end, or a separator
comes next. -/
def Ends (text : List Char) : Prop := ∀ c ∈ text.head?, isSeparator c = true

theorem ends_cons {c : Char} (separator : isSeparator c = true) (rest : List Char) :
    Ends (c :: rest) := by
  simpa [Ends] using separator

variable {q : Char} {rest : List Char}

/-! ### Quoted texts -/

/-- A doubled text is read up to the quote that ends it.  In the text each quote comes twice, so
that the scanner leaves the place behind a quote at once. -/
theorem scan_doubled (quote : Char) (s read rest : List Char) :
    scan q (.inside quote read) (Text.doubled quote s ++ quote :: rest) =
      scan q (.behind quote (s.reverse ++ read)) rest := by
  induction s generalizing read with
  | nil => simp [scan, step]
  | cons c s ih =>
      by_cases doubles : c = quote
      · subst doubles
        simp [Text.doubled, scan, step, ih]
      · simp [Text.doubled, doubles, scan, step, ih]

/-- A quote that is not written twice ends the text.  That it is no separator itself makes sure that
what follows is not taken for another one. -/
theorem scan_behind {quote : Char} (apart : isSeparator quote = false) (read : List Char)
    (ends : Ends rest) :
    scan q (.behind quote read) rest =
      pending q (.behind quote read) ++ scan q .between rest := by
  cases rest with
  | nil => simp [scan, pending]
  | cons c rest =>
      have separator : isSeparator c = true := ends c rfl
      have other : c ≠ quote := by
        rintro rfl
        rw [apart] at separator
        cases separator
      simp [scan, step, other]

/-- **A quoted text is recovered**, whatever it is.  There is no hypothesis on the text: quotes,
commas, parentheses and blanks in it are all read as parts of it. -/
theorem scan_enclosed {quote : Char} (quotes : quote = q ∨ quote = Text.singleQuote)
    (apart : isSeparator quote = false) (s : String) (ends : Ends rest) :
    scan q .between ((Text.enclosed quote s).toList ++ rest) =
      (if quote = q then .name s else .literal s) :: scan q .between rest := by
  have entered : enter q quote = ([], .inside quote []) := by
    simp only [isSeparator, Bool.or_eq_false_iff, beq_eq_false_iff_ne] at apart
    obtain ⟨⟨⟨space, comma⟩, opening⟩, closing⟩ := apart
    rw [enter, if_neg space, if_neg comma, if_neg opening, if_neg closing, if_pos quotes]
  have text : (Text.enclosed quote s).toList ++ rest =
      quote :: (Text.doubled quote s.toList ++ quote :: rest) := by simp
  rw [text, scan, step, entered, List.nil_append, scan_doubled, scan_behind apart _ ends]
  simp [pending]

/-! ### Words -/

/-- A word is read up to its end. -/
theorem scan_word_append {s : List Char} (plain : ∀ c ∈ s, isSpecial q c = false)
    (read rest : List Char) :
    scan q (.word read) (s ++ rest) = scan q (.word (s.reverse ++ read)) rest := by
  induction s generalizing read with
  | nil => rfl
  | cons c s ih =>
      rw [List.cons_append, scan, step, plain c List.mem_cons_self]
      simp only [Bool.false_eq_true, if_false, List.nil_append]
      rw [ih fun d mem => plain d (.tail _ mem)]
      simp

/-- A word is complete where a separator follows, or nothing. -/
theorem scan_word_ends (read : List Char) (ends : Ends rest) :
    scan q (.word read) rest = pending q (.word read) ++ scan q .between rest := by
  cases rest with
  | nil => simp [scan, pending]
  | cons c rest =>
      have special : isSpecial q c = true := by
        rw [isSpecial, ends c rfl, Bool.true_or, Bool.true_or]
      simp [scan, step, special]

/-- **A word is recovered.**  It must not be empty, or there would be nothing to read, and it must
not have a character that ends words. -/
theorem scan_word {s : String} (named : s ≠ "") (plain : ∀ c ∈ s.toList, isSpecial q c = false)
    (ends : Ends rest) :
    scan q .between (s.toList ++ rest) = .word s :: scan q .between rest := by
  cases letters : s.toList with
  | nil => exact absurd (String.toList_eq_nil_iff.mp letters) named
  | cons c tail =>
      rw [letters] at plain
      have entered : enter q c = ([], .word [c]) := by
        have first := plain c List.mem_cons_self
        simp only [isSpecial, isSeparator, Bool.or_eq_false_iff, beq_eq_false_iff_ne] at first
        obtain ⟨⟨⟨⟨⟨space, comma⟩, opening⟩, closing⟩, quote⟩, single⟩ := first
        rw [enter, if_neg space, if_neg comma, if_neg opening, if_neg closing,
          if_neg (not_or.mpr ⟨quote, single⟩)]
      rw [List.cons_append, scan, step, entered, List.nil_append,
        scan_word_append (fun d mem => plain d (.tail _ mem)), scan_word_ends _ ends]
      have whole : String.ofList (c :: tail) = s := by rw [← letters, String.ofList_toList]
      simp [pending, whole]

end BoundSql.Scanner

namespace BoundSql

open Scanner

/-! ### Pieces -/

namespace Piece

/-- The number of values that the piece binds. -/
def count : Piece → Nat
  | value _ => 1
  | _ => 0

/-- The token that the piece is written as, when some values were bound before it. -/
def token (before : Nat) : Piece → Token
  | sql s => .word s
  | name s => .name s
  | literal s => .literal s
  | value _ => .word (placeholder ("p" ++ toString (before + 1)))
  | parameter p => .word (placeholder p)

end Piece

/-- The characters that no word has, in any dialect. -/
def Scanner.isDelimiter (c : Char) : Bool :=
  isSeparator c || c == Text.doubleQuote || c == Text.graveAccent || c == Text.singleQuote

/-- The text is a word, in any dialect: it is not empty and has no delimiter. -/
structure IsWord (s : String) : Prop where
  ne_empty : s ≠ ""
  plain : ∀ c ∈ s.toList, isDelimiter c = false

/-- A class of characters without delimiters.  There are seven delimiters, and it is enough to look
at these. -/
theorem Scanner.isDelimiter_eq_false {class_ : Char → Bool}
    (apart : [' ', ',', '(', ')', Text.doubleQuote, Text.graveAccent, Text.singleQuote].any class_ =
      false) {c : Char} (mem : class_ c = true) : isDelimiter c = false := by
  by_contra delimiter
  rw [Bool.not_eq_false, isDelimiter, isSeparator] at delimiter
  simp only [Bool.or_eq_true, beq_iff_eq] at delimiter
  exact List.any_eq_false.mp apart c (by simp; tauto) mem

/-- What a search for delimiters does not find in a text is in none of its characters. -/
theorem Scanner.plain_of_any {s : String} (none : s.toList.any isDelimiter = false) :
    ∀ c ∈ s.toList, isDelimiter c = false := by
  intro c mem
  rw [← Bool.not_eq_true]
  exact List.any_eq_false.mp none c mem

/-- A placeholder whose name has no delimiters. -/
theorem IsWord.placeholder {name : String} (plain : ∀ c ∈ name.toList, isDelimiter c = false) :
    IsWord (placeholder name) where
  ne_empty := fun empty => by
    have letters := congrArg String.toList empty
    simp [BoundSql.placeholder] at letters
  plain := by
    intro c mem
    rw [BoundSql.placeholder, String.toList_append, List.mem_append] at mem
    rcases mem with colon | mem
    · rw [List.mem_singleton.mp colon]
      decide
    · exact plain c mem

/-- The digits of a number are no delimiters. -/
theorem Scanner.isDelimiter_of_mem_toString {n : Nat} {c : Char} (mem : c ∈ (toString n).toList) :
    isDelimiter c = false :=
  isDelimiter_eq_false rfl (Namer.isWordChar_of_mem_toString mem)

/-- The placeholder of a value is a word. -/
theorem IsWord.numbered (n : Nat) : IsWord (BoundSql.placeholder ("p" ++ toString n)) := by
  refine .placeholder fun c mem => ?_
  rw [String.toList_append, List.mem_append] at mem
  rcases mem with stem | digit
  · rw [List.mem_singleton.mp stem]
    decide
  · exact isDelimiter_of_mem_toString digit

/-- A word of an identifier. -/
theorem Text.isDelimiter_of_isIdentifier {s : String} (h : isIdentifier s = true) :
    ∀ c ∈ s.toList, isDelimiter c = false := by
  unfold isIdentifier at h
  cases letters : s.toList with
  | nil => simp
  | cons first rest =>
      rw [letters, isIdentifierList, Bool.and_eq_true, List.all_eq_true] at h
      rintro c (_ | ⟨_, mem⟩)
      · exact isDelimiter_eq_false rfl h.1
      · exact isDelimiter_eq_false rfl (h.2 c mem)

namespace Piece

/-- What is written without quotes is a word. -/
def IsWord : Piece → Prop
  | sql s => BoundSql.IsWord s
  | parameter p => BoundSql.IsWord (placeholder p)
  | _ => True

end Piece

namespace Dialect

variable {dialect : Dialect} {q : Char}

/-- The quote of a dialect is no separator, and it is not that of string literals. -/
theorem quote_apart (quotes : dialect.quoteChar? = some q) :
    isSeparator q = false ∧ q ≠ Text.singleQuote := by
  cases dialect <;> cases quotes <;> decide

/-- What is no delimiter does not end a word in the dialect. -/
theorem isSpecial_eq_false (quotes : dialect.quoteChar? = some q) {c : Char}
    (plain : isDelimiter c = false) : isSpecial q c = false := by
  simp only [isDelimiter, Bool.or_eq_false_iff] at plain
  obtain ⟨⟨⟨separator, double⟩, grave⟩, single⟩ := plain
  cases dialect <;> cases quotes <;> simp [isSpecial, separator, double, grave, single]

end Dialect

/-- **A piece is read as its token**, unless what follows belongs to it.  There is one case for each
kind of piece; the number of values before it decides the name of a placeholder and nothing else. -/
theorem Piece.scan_write {q : Char} {c : Context} (quotes : c.dialect.quoteChar? = some q)
    {before : Nat} (namer : c.bindings.namer = ({} : Namer).skip before) {p : Piece}
    (word : p.IsWord) {rest : List Char} (ends : Ends rest) :
    scan q .between ((p.write c).1.toList ++ rest) = p.token before :: scan q .between rest := by
  obtain ⟨apart, other⟩ := Dialect.quote_apart quotes
  have plain {s : String} (word : BoundSql.IsWord s) :
      ∀ ch ∈ s.toList, isSpecial q ch = false :=
    fun ch mem => Dialect.isSpecial_eq_false quotes (word.plain ch mem)
  cases p with
  | sql s => exact scan_word word.ne_empty (plain word) ends
  | name s =>
      have text : ((Piece.name s).write c).1 = Text.enclosed q s := by
        rw [write, Dialect.quote, quotes]
      rw [text, scan_enclosed (.inl rfl) apart s ends, if_pos rfl]
      rfl
  | literal s =>
      refine (scan_enclosed (.inr rfl) (by decide) s ends).trans ?_
      rw [if_neg (Ne.symm other)]
      rfl
  | value v =>
      have text : ((Piece.value v).write c).1 =
          BoundSql.placeholder ("p" ++ toString (before + 1)) := by
        rw [write, Context.bind, namer]
        show BoundSql.placeholder ("p" ++ toString (0 + before + 1)) = _
        rw [Nat.zero_add]
      have numbered := IsWord.numbered (before + 1)
      rw [text]
      exact scan_word numbered.ne_empty (plain numbered) ends
  | parameter name => exact scan_word word.ne_empty (plain word) ends

/-! ### Fragments -/

namespace Fragment

/-- The rest of a statement is read as the tokens, when some values were bound before it. -/
def Scans (dialect : Dialect) (q : Char) (before : Nat) (f : Fragment) (tokens : List Token) :
    Prop :=
  ∀ c : Context, c.dialect = dialect → c.bindings.namer = ({} : Namer).skip before →
    scan q .between (f.write c).1.toList = tokens

/-- The fragment begins with a separator, if there is anything in it.  So no word or quoted text in
front of it is continued by it. -/
def BeginsApart (f : Fragment) : Prop := ∀ c : Context, Ends (f.write c).1.toList

theorem beginsApart_sql {s : String} {c : Char} {tail : List Char} (text : s.toList = c :: tail)
    (separator : isSeparator c = true) (f : Fragment) : BeginsApart (.sql s :: f) := by
  intro context
  rw [write_cons, String.toList_append]
  show Ends (s.toList ++ _)
  rw [text]
  exact ends_cons separator _

namespace Scans

variable {dialect : Dialect} {q : Char} {before : Nat} {f : Fragment} {tokens : List Token}

theorem nil : Scans dialect q before [] [] := fun _ _ _ => rfl

/-- Text that is read in the same way whatever follows.  Keywords with blanks around them are of
this sort, and so is punctuation. -/
theorem sql {s : String} (own : List Token)
    (reads : ∀ rest, scan q .between (s.toList ++ rest) = own ++ scan q .between rest)
    (h : Scans dialect q before f tokens) :
    Scans dialect q before (.sql s :: f) (own ++ tokens) := by
  intro c same namer
  rw [write_cons, String.toList_append]
  exact (reads _).trans (congrArg (own ++ ·) (h c same namer))

/-- A piece in front of a fragment that does not go on with it.  If the piece binds a value, the
fragment behind it has one more of them before it. -/
theorem piece (quotes : dialect.quoteChar? = some q) {p : Piece} (word : p.IsWord)
    (apart : f.BeginsApart) (h : Scans dialect q (before + p.count) f tokens) :
    Scans dialect q before (p :: f) (p.token before :: tokens) := by
  rintro c rfl namer
  rw [write_cons, String.toList_append, Piece.scan_write quotes namer word (apart _)]
  refine congrArg (_ :: ·) (h _ (Piece.write_dialect p c) ?_)
  cases p with
  | value v =>
      show c.bindings.namer.next.2 = _
      rw [namer, Namer.next_snd, Namer.skip_skip]
      rfl
  | sql s => exact namer
  | name s => exact namer
  | literal s => exact namer
  | parameter name => exact namer

end Scans

/-! ### Lists -/

/-- The tokens of pieces, when some values were bound before them. -/
def tokens (before : Nat) : Fragment → List Token
  | [] => []
  | p :: ps => p.token before :: tokens (before + p.count) ps

/-- The number of values that pieces bind. -/
def count : Fragment → Nat
  | [] => 0
  | p :: ps => p.count + count ps

/-- Pieces with a comma between neighbours. -/
def listed (ps : Fragment) : Fragment := joined ", " (ps.map fun p => [p])

theorem listed_cons_cons (p p' : Piece) (ps : Fragment) :
    listed (p :: p' :: ps) = p :: .sql ", " :: listed (p' :: ps) := rfl

namespace Scans

variable {dialect : Dialect} {q : Char} {before : Nat} {f : Fragment} {behind : List Token}

/-- Pieces with commas between them are read as their tokens with commas between them.  The
induction is over the pieces; the last one has the fragment behind the list as its neighbour, all
others have a comma. -/
theorem listed (quotes : dialect.quoteChar? = some q) {ps : Fragment} (words : ∀ p ∈ ps, p.IsWord)
    (apart : f.BeginsApart) (h : Scans dialect q (before + count ps) f behind) :
    Scans dialect q before (Fragment.listed ps ++ f)
      ((tokens before ps).intersperse .comma ++ behind) := by
  induction ps generalizing before with
  | nil => exact h
  | cons p ps ih =>
      cases ps with
      | nil => exact piece quotes (words p List.mem_cons_self) apart h
      | cons p' ps =>
          rw [count, ← Nat.add_assoc] at h
          have rest := ih (fun p mem => words p (.tail _ mem)) h
          rw [listed_cons_cons]
          refine piece quotes (words p List.mem_cons_self) (beginsApart_sql rfl rfl _) ?_
          exact sql [.comma] (fun _ => rfl) rest

end Scans

end Fragment

end BoundSql
