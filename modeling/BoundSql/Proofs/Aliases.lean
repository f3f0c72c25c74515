import BoundSql.Proofs.Aliases.Reader
import BoundSql.Proofs.CamelCase
import BoundSql.Proofs.References

/-!
# Aliases in camel case

A column can be selected under its name in camel case, which is put between double quotes as it is.
Of a name with ASCII letters and digits only these are left, so that no quote can be among them; a
name without any is left alone, and if it has a quote, the alias ends there or does not end at all.

## What it means to be read as meant

An alias is meant to be an identifier, and which one is decided by a reader that knows the double
quotes of SQL and nothing of names in camel case (`SelectList.identifier?`).  For a whole select
list there is a reader of items.  What an item should be read as is `Expression.item`: the text of
the expression, and the alias that the caller has asked for, which is the name in camel case only
where the alias was made of it.

Whether a select list can be read does not depend on aliases in camel case alone.  A caller may
choose an alias with a comma in it, and in the generic dialect columns are written bare, so that any
text can stand in their place.  This is what `Expression.Legible` collects, so that the main result
can say exactly what the camel case adds.  That legibility is not a strong assumption is said with
it: in a dialect that quotes identifiers, only what the caller wrote beside the names can fail to be
legible.

## The shape of the proof

Reading has been described by equivalences (`SelectList.term?_eq_some_iff` and what is derived from
it), and the statements here are equivalences as well, so both directions are shown at once.  What
remains is to see that an alias in camel case is one identifier in quotes, and that items do not
influence each other, which is due to the reader.

* `Text.FitsQuotes` : the name in camel case can be put between double quotes as it is.
* `Expression.item` : an item of a select list as it is meant to be read.
* `Expression.Legible` : nothing but the alias in camel case can keep an item from being read.
* `Select.camelCase_aliases_iff` : aliases, sort keys and select lists are read as they are meant
  exactly if the names fit between quotes.
-/

namespace BoundSql

open SelectList

/-! ### Names -/

namespace Text

/-- The name in camel case can be put between double quotes as it is: the name has a letter or
digit, or it has no quote.  In the first case quotes are lost with everything else that is no letter
or digit. -/
def FitsQuotes (name : String) : Prop :=
  (∃ c ∈ name.toList, c.isAlphanum = true) ∨ doubleQuote ∉ name.toList

/-- The condition says of the name what matters of its camel case. -/
theorem notMem_camelCase_iff {name : String} :
    doubleQuote ∉ (camelCase name).toList ↔ FitsQuotes name := by
  by_cases none : AreSeparators name.toList
  · have unlettered : ¬ ∃ c ∈ name.toList, c.isAlphanum = true := by
      rintro ⟨c, mem, here⟩
      rw [none c mem] at here
      cases here
    rw [camelCase_of_separators none, FitsQuotes, or_iff_right unlettered]
  · have lettered : ∃ c ∈ name.toList, c.isAlphanum = true := by
      simpa [AreSeparators] using none
    have present : words name.toList ≠ [] := mt words_eq_nil_iff.mp none
    refine iff_of_true (fun mem => ?_) (.inl lettered)
    have letter := (isCamelCase_camelCase present).alphanumeric doubleQuote mem
    cases letter

end Text

/-! ### What is written -/

namespace Fragment

/-- Where no value is bound and no parameter is named, the text depends on the dialect only, and the
context is left as it was. -/
theorem SlotFree.write_eq {f : Fragment} (free : f.SlotFree) (c : Context) :
    f.write c = ((f.write { dialect := c.dialect }).1, c) := by
  induction f with
  | nil => rfl
  | cons p f ih =>
      obtain ⟨slot, others⟩ := slotFree_cons.mp free
      have own : p.write c = ((p.write { dialect := c.dialect }).1, c) := by
        cases p with
        | value v => cases slot
        | parameter name => cases slot
        | _ => rfl
      have unchanged : (p.write { dialect := c.dialect }).2 = { dialect := c.dialect } :=
        (write_of_not_slot slot f _).1
      rw [write_cons, write_cons, own, unchanged, ih others]

/-- A list of texts is written with the separator between them. -/
theorem write_joined {α : Type} {f : α → Fragment} {text : α → String} {c : Context}
    (each : ∀ x, (f x).write c = (text x, c)) (separator : String) (xs : List α) :
    (joined separator (xs.map f)).write c = (separator.intercalate (xs.map text), c) := by
  induction xs with
  | nil => rfl
  | cons x xs ih =>
      cases xs with
      | nil => rw [List.map_singleton, joined, each]; rfl
      | cons y xs =>
          rw [List.map_cons, List.map_cons] at ih ⊢
          rw [joined, write_append, each, write_cons]
          simp only [Piece.write, ih, List.map_cons, String.intercalate_cons_cons,
            String.append_assoc]

end Fragment

namespace Expression

variable (dialect : Dialect) (scope : Scope)

/-- The text of an expression, without its alias. -/
def text (e : Expression) : String := ((e.fragment scope).write { dialect }).1

/-- The name in camel case that the expression is selected under, if it is a column that is.  It is
recognized by the alias: one that the caller has chosen and that happens to be the same is treated
as the same. -/
def camelName? : Expression → Option String
  | column c => if c.alias? = c.asCamelCase.alias? then some (Text.camelCase c.name) else none
  | _ => none

/-- The text of an expression in a select list. -/
def itemText (e : Expression) : String :=
  e.text dialect scope ++ (nonempty? e.alias?).elim "" (" AS " ++ ·)

/-- What an alias is meant to be read as: the name in camel case, in quotes, if the alias was made
of that, and otherwise what the caller's text says. -/
def meantAlias (e : Expression) (s : String) : Alias :=
  match e.camelName? with
  | some name => .quoted name
  | none => .ofText s.toList

/-- An expression in a select list as it is meant to be read. -/
def item (e : Expression) : Item where
  expression := e.text dialect scope
  alias? := (nonempty? e.alias?).map e.meantAlias

/-- The expression and an alias of the caller's choice are complete in themselves. -/
structure Legible (e : Expression) : Prop where
  isTerm_text : IsTerm (e.text dialect scope)
  isTerm_alias : ∀ s, nonempty? e.alias? = some s → e.camelName? = none → IsTerm s

variable {dialect scope}

/-- Expressions bind no values, so they are written as their text wherever they stand. -/
theorem write_fragment (e : Expression) (scope : Scope) (c : Context) :
    (e.fragment scope).write c = (e.text c.dialect scope, c) :=
  (e.slotFree_fragment scope).write_eq c

/-- So are the items of a select list. -/
theorem write_selectFragment (e : Expression) (scope : Scope) (c : Context) :
    (e.selectFragment scope).write c = (e.itemText c.dialect scope, c) := by
  rw [selectFragment, Fragment.withAlias, itemText]
  cases nonempty? e.alias? with
  | none => rw [write_fragment, Option.elim_none, String.append_empty]
  | some s =>
      rw [Fragment.write_append, write_fragment]
      simp [Fragment.write_cons, Piece.write]

theorem camelName?_eq_some_iff {e : Expression} {name : String} :
    e.camelName? = some name ↔ ∃ c : Column, e = column c ∧
      c.alias? = c.asCamelCase.alias? ∧ Text.camelCase c.name = name := by
  cases e with
  | column c => simp [camelName?]
  | _ => simp [camelName?]

/-- Such an alias is never empty, having at least its quotes. -/
theorem nonempty?_alias?_of_camelName? {e : Expression} {name : String}
    (camel : e.camelName? = some name) : nonempty? e.alias? = some ("\"" ++ name ++ "\"") := by
  obtain ⟨c, rfl, own, rfl⟩ := camelName?_eq_some_iff.mp camel
  have present : "\"" ++ Text.camelCase c.name ++ "\"" ≠ "" := by
    intro empty
    have letters := congrArg String.toList empty
    simp at letters
  rw [alias?, own]
  exact Option.filter_eq_some_iff.mpr ⟨rfl, decide_eq_true present⟩

/-! ### What is read -/

/-- An alias is read as it is meant exactly if the caller's text is complete in itself, or the name
in camel case has no quote.  The reader has to stop where the alias ends; that it does not go on
into what follows is a part of the equivalence. -/
theorem exists_meantAlias_iff {e : Expression} {s : String} (given : nonempty? e.alias? = some s)
    {tail : List Char} (breaks : Breaks tail) (rest : List Char) :
    (∃ key, term? .outside (s.toList ++ tail) = some (key, rest) ∧
        Alias.ofText key = e.meantAlias s) ↔
      ((e.camelName? = none → IsTerm s) ∧
        ∀ name, e.camelName? = some name → Text.doubleQuote ∉ name.toList) ∧ rest = tail := by
  cases camel : e.camelName? with
  | some name =>
      have meant : e.meantAlias s = .quoted name := by rw [meantAlias, camel]
      have text : "\"" ++ name ++ "\"" = s :=
        Option.some.inj ((nonempty?_alias?_of_camelName? camel).symm.trans given)
      rw [meant, ← text]
      simp only [Alias.ofText_eq_quoted_iff, term?_between_iff name breaks, reduceCtorEq,
        false_implies, true_and, Option.some.injEq, forall_eq']
  | none =>
      have meant : e.meantAlias s = .ofText s.toList := by rw [meantAlias, camel]
      simp only [meant, Alias.exists_ofText_iff breaks, true_implies, reduceCtorEq, false_implies,
        implies_true, and_true]

/-- **An item is read as it is meant** exactly if it is legible and its alias in camel case, if it
has one, has no quote.  Behind an item there is a comma or the keyword of the source, and both end a
term. -/
theorem item?_itemText_iff {e : Expression} {tail : List Char} (follows : BehindItem tail)
    (rest : List Char) :
    item? ((e.itemText dialect scope).toList ++ tail) = some (e.item dialect scope, rest) ↔
      (e.Legible dialect scope ∧
        ∀ name, e.camelName? = some name → Text.doubleQuote ∉ name.toList) ∧ rest = tail := by
  -- Without an alias the item is the term alone.  With one, the reader has to find the break in
  -- front of AS, and a camel case alias has to be read back from its quotes.
  cases given : nonempty? e.alias? with
  | none =>
      have unquoted : ∀ name, e.camelName? = some name → Text.doubleQuote ∉ name.toList := by
        intro name camel
        rw [nonempty?_alias?_of_camelName? camel] at given
        cases given
      have legible : e.Legible dialect scope ↔ IsTerm (e.text dialect scope) := by
        refine ⟨Legible.isTerm_text, fun complete => ⟨complete, fun s own => ?_⟩⟩
        rw [given] at own
        cases own
      rw [itemText, item, given, Option.elim_none, String.append_empty, Option.map_none,
        item?_append_iff follows, legible, and_iff_left unquoted]
  | some s =>
      have legible : e.Legible dialect scope ↔
          IsTerm (e.text dialect scope) ∧ (e.camelName? = none → IsTerm s) := by
        refine ⟨fun h => ⟨h.isTerm_text, h.isTerm_alias s given⟩, fun ⟨complete, chosen⟩ =>
          ⟨complete, fun s' own => ?_⟩⟩
        rw [given] at own
        exact Option.some.inj own ▸ chosen
      have text : (e.itemText dialect scope).toList ++ tail =
          (e.text dialect scope).toList ++ (" AS ".toList ++ (s.toList ++ tail)) := by
        rw [itemText, given, Option.elim_some]
        simp
      rw [text, item, given, Option.map_some, item?_append_alias_iff,
        exists_meantAlias_iff given follows.breaks, legible, and_assoc, and_assoc, and_assoc]

end Expression

/-! ### Legible expressions -/

variable {dialect : Dialect} {scope : Scope}

/-- A dialect that quotes identifiers makes them complete in themselves.  The generic dialect does
not, so there it has to be assumed. -/
theorem Dialect.isTerm_quote {name : String} (bare : dialect = .generic → IsTerm name) :
    IsTerm (dialect.quote name) := by
  cases dialect with
  | generic => exact bare rfl
  | postgresql => exact isTerm_enclosed rfl name
  | mysql => exact isTerm_enclosed rfl name

/-- What of a column is written as it is, is complete in itself: its qualifier, and in the generic
dialect its name. -/
structure Column.Legible (dialect : Dialect) (scope : Scope) (c : Column) : Prop where
  isTerm_qualifier : ∀ s, c.scopedQualifier? scope = some s → IsTerm s
  isTerm_name : dialect = .generic → IsTerm c.name

/-- A qualifier, a dot and a name make one term of two. -/
theorem Column.Legible.isTerm_text {c : Column} (h : c.Legible dialect scope) :
    IsTerm ((Expression.column c).text dialect scope) := by
  have name := Dialect.isTerm_quote h.isTerm_name
  show IsTerm (Fragment.write (.qualified (c.scopedQualifier? scope) c.name) { dialect }).1
  unfold Fragment.qualified
  split
  case h_1 s given =>
    obtain ⟨own, -⟩ := Option.filter_eq_some_iff.mp given
    have dot : IsTerm "." := by decide
    have whole := ((h.isTerm_qualifier s own).append dot).append name
    simpa [Fragment.write_cons, Piece.write] using whole
  case h_2 => simpa [Fragment.write_cons, Piece.write] using name

namespace Expression

/-- The text of an argument, between two others, as a function is written around it. -/
theorem text_wrapped (e : Expression) (before behind : String) :
    (Fragment.write (.sql before :: e.fragment scope ++ [.sql behind]) { dialect }).1 =
      before ++ e.text dialect scope ++ behind := by
  rw [List.cons_append, Fragment.write_cons, Fragment.write_append, write_fragment]
  simp [Fragment.write_cons, Piece.write, String.append_assoc]

/-- The offset and the length of a substring are written with digits and perhaps a sign. -/
theorem isBracket_of_mem_toString (i : Int) : ∀ c ∈ (toString i).toList, isBracket c = false := by
  intro c mem
  rcases Text.mem_toString_int mem with rfl | word
  · decide
  · by_contra bracket
    rw [Bool.not_eq_false, isBracket, isQuote] at bracket
    simp only [Bool.or_eq_true, beq_iff_eq] at bracket
    rcases bracket with (((rfl | rfl) | rfl) | rfl) | rfl <;> cases word

/-- **An expression is complete in itself** if the columns in it are.  The induction is over the
functions around the column: each opens a parenthesis and closes it again, and in between the blanks
and commas of an argument end nothing. -/
theorem isTerm_text {e : Expression}
    (columns : ∀ ref ∈ e.references .selected, ref.column.Legible dialect scope) :
    IsTerm (e.text dialect scope) := by
  induction e with
  | column c => exact (columns ⟨.selected, c⟩ List.mem_cons_self).isTerm_text
  | all table => exact (by decide : IsTerm "*")
  | countAll alias? => exact (by decide : IsTerm "COUNT(*)")
  | apply f argument alias? ih =>
      rw [text, fragment, text_wrapped]
      exact (ih columns).wrapped (by cases f <;> decide) (by decide)
  | count argument distinct alias? ih =>
      rw [text, fragment, text_wrapped]
      exact (ih columns).wrapped (by cases distinct <;> decide) (by decide)
  | substring argument offset length alias? ih =>
      rw [text, fragment, text_wrapped]
      -- the offset and the length are numbers, so nothing behind the argument but the last bracket
      -- changes the place
      have free : ∀ c ∈ (", " ++ toString offset ++ ", " ++ toString length).toList,
          isBracket c = false := by
        have comma : ∀ c ∈ [',', ' '], isBracket c = false :=
          List.forall_mem_cons.mpr ⟨rfl, List.forall_mem_singleton.mpr rfl⟩
        simp only [String.toList_append, List.forall_mem_append]
        exact ⟨⟨⟨comma, isBracket_of_mem_toString offset⟩, comma⟩,
          isBracket_of_mem_toString length⟩
      refine (ih columns).wrapped (by decide) ?_
      rw [String.toList_append, Place.after?_append_of_eq_some (Place.after?_of_isBracket free)]
      rfl

/-- Whatever columns are called, an expression is legible in a dialect that quotes identifiers, if
what the caller wrote beside the names is complete in itself. -/
theorem legible_of_columns {e : Expression}
    (columns : ∀ ref ∈ e.references .selected, ref.column.Legible dialect scope)
    (chosen : ∀ s, nonempty? e.alias? = some s → e.camelName? = none → IsTerm s) :
    e.Legible dialect scope :=
  ⟨isTerm_text columns, chosen⟩

end Expression

/-- A column that is selected under its name in camel case is sorted by that, so the sort key is in
quotes though the bare name would not be. -/
theorem Column.orderFragment_asCamelCase (c : Column) :
    (Expression.column c.asCamelCase).orderFragment =
      .ok [.sql ("\"" ++ Text.camelCase c.name ++ "\"" ++
        if c.descending then " DESC" else "")] := by
  have camel : (Expression.column c.asCamelCase).camelName? = some (Text.camelCase c.name) :=
    Expression.camelName?_eq_some_iff.mpr ⟨_, rfl, rfl, rfl⟩
  have own : nonempty? c.asCamelCase.alias? = some ("\"" ++ Text.camelCase c.name ++ "\"") :=
    Expression.nonempty?_alias?_of_camelName? camel
  have direction : (Expression.column c.asCamelCase).isDescending = c.descending := rfl
  rw [Expression.orderFragment, Expression.orderName?, orderName, own, Option.getD_some]
  simp only [direction]
  cases c.descending with
  | true => rfl
  | false => simp

/-! ### Select statements -/

namespace Select

/-- The clauses before the source, as they are written. -/
theorem write_headFragment (q : Query) (scope : Scope) (c : Context) :
    (q.headFragment scope).write c =
      ((if q.distinct then "SELECT DISTINCT " else "SELECT ") ++
        ", ".intercalate (q.columns.map (Expression.itemText c.dialect scope)) ++ " FROM ", c) := by
  have list := Fragment.write_joined (fun e => Expression.write_selectFragment e scope c) ", "
    q.columns
  rw [headFragment, List.cons_append, Fragment.write_cons, Fragment.write_append]
  simp only [Piece.write, list, Fragment.write_cons, Fragment.write_nil, String.append_empty,
    String.append_assoc]

/-- A statement that passes its check selects something. -/
theorem columns_ne_nil_of_check {q : Query} (checked : q.check Source.isSelect = .ok ()) :
    q.columns ≠ [] := by
  intro none
  rw [check, none] at checked
  exact absurd checked fail_ne_ok

/-- A statement that is written begins with its select list.  What follows the keyword of its source
is left open, since the reader stops there. -/
theorem exists_eq_of_renderIn {q : Query} {c after : Context} {text : String}
    (written : q.renderIn c = .ok (text, after)) :
    q.columns ≠ [] ∧ ∃ more, text = (if q.distinct then "SELECT DISTINCT " else "SELECT ") ++
      ", ".intercalate (q.columns.map
        (Expression.itemText c.dialect (q.scope Source.table?))) ++ " FROM " ++ more := by
  obtain ⟨f, hf, same⟩ := bind_eq_ok_iff.mp written
  rw [fragment_eq] at hf
  obtain ⟨_, checked, hf⟩ := bind_eq_ok_iff.mp hf
  obtain ⟨source, -, hf⟩ := bind_eq_ok_iff.mp hf
  obtain ⟨joined, -, hf⟩ := bind_eq_ok_iff.mp hf
  obtain ⟨tail, -, hf⟩ := bind_eq_ok_iff.mp hf
  obtain rfl := pure_eq_ok_iff.mp hf
  refine ⟨columns_ne_nil_of_check checked, ?_⟩
  have start := pure_eq_ok_iff.mp same
  simp only [List.append_assoc] at start
  rw [Fragment.write_append, write_headFragment] at start
  exact ⟨_, (Prod.mk.inj start).1.symm⟩

/-- **Aliases in camel case are read exactly if the names fit between quotes.**  The alias that a
column is selected under is an identifier in double quotes that reads as the name in camel case, and
so is the one that rows are sorted by, exactly if the name has an ASCII letter or digit or no double
quote.  The select list of a statement, in whatever context it is written, is read as one item for
each expression, with the name in camel case as the alias of each column that is selected under it,
exactly if these names fit between quotes and the items are legible otherwise.  They are, whatever
the columns are called, in a dialect that quotes identifiers, if the qualifiers and the aliases that
the caller chose are complete in themselves. -/
theorem camelCase_aliases_iff (column : Column) (q : Query) (c : Context) :
    (∃ name key, column.asCamelCase.alias? = some name ∧
      (Expression.column column.asCamelCase).orderFragment = .ok [.sql key] ∧
      (identifier? name.toList = some (Text.camelCase column.name) ↔ Text.FitsQuotes column.name) ∧
      (sortKey? key = some (Text.camelCase column.name, column.descending) ↔
        Text.FitsQuotes column.name)) ∧
    (∀ text after, q.renderIn c = .ok (text, after) →
      (read? q.distinct text =
          some (q.columns.map (Expression.item c.dialect (q.scope Source.table?))) ↔
        (∀ e ∈ q.columns, e.Legible c.dialect (q.scope Source.table?)) ∧
        ∀ own, .column own ∈ q.columns → own.alias? = own.asCamelCase.alias? →
          Text.FitsQuotes own.name)) ∧
    ∀ (scope : Scope) (e : Expression),
      (∀ ref ∈ e.references .selected, ref.column.Legible c.dialect scope) →
      (∀ s, nonempty? e.alias? = some s → e.camelName? = none → IsTerm s) →
      e.Legible c.dialect scope := by
  refine ⟨?_, fun text after written => ?_, fun _ _ => Expression.legible_of_columns⟩
  · have fits : Text.doubleQuote ∉ (Text.camelCase column.name).toList ↔
        Text.FitsQuotes column.name := Text.notMem_camelCase_iff
    refine ⟨_, _, rfl, column.orderFragment_asCamelCase, ?_, ?_⟩
    · rw [identifier?_between_iff, fits]
    · rw [sortKey?_between_iff, fits]
  · obtain ⟨present, more, rfl⟩ := exists_eq_of_renderIn written
    rw [read?_intercalate_iff present fun e _ rest tail follows =>
      Expression.item?_itemText_iff follows rest]
    constructor
    · intro reads
      refine ⟨fun e mem => (reads e mem).1, fun own mem camel => ?_⟩
      have named := Expression.camelName?_eq_some_iff.mpr ⟨own, rfl, camel, rfl⟩
      exact Text.notMem_camelCase_iff.mp ((reads _ mem).2 _ named)
    · rintro ⟨legible, fits⟩ e mem
      refine ⟨legible e mem, fun name named => ?_⟩
      obtain ⟨own, rfl, camel, rfl⟩ := Expression.camelName?_eq_some_iff.mp named
      exact Text.notMem_camelCase_iff.mpr (fits own mem camel)

/-- A column of blocks. -/
def blocksColumn (name : String) : Column := .plain name ⟨0, "blocks", none⟩ none

/-- A column of blocks under its name in camel case, sorted by it. -/
def blocksBy (name : String) : Query :=
  { kind := .select
    distinct := false
    columns := [.column (blocksColumn name).asCamelCase]
    from? := some ⟨.table (blocksColumn name).table, none⟩
    orderBy := [.column (blocksColumn name).asCamelCase] }

/-- The statement over such a column. -/
def blocksText (reference name : String) : String :=
  "SELECT " ++ reference ++ " AS " ++ name ++ " FROM \x22blocks\x22 ORDER BY " ++ name

/-- A name with letters, under which a column is read again, and a name that has no ASCII letter but
a mark for inches, under which none is. -/
theorem camelCase_aliases_iff_sample :
    (blocksBy "height_m").renderIn { dialect := .postgresql } =
        .ok (blocksText "\x22height_m\x22" "\x22heightM\x22", { dialect := .postgresql }) ∧
      read? false (blocksText "\x22height_m\x22" "\x22heightM\x22") =
        some [⟨"\x22height_m\x22", some (.quoted "heightM")⟩] ∧
      (blocksBy "高さ\x22").renderIn { dialect := .postgresql } =
        .ok (blocksText "\x22高さ\x22\x22\x22" "\x22高さ\x22\x22", { dialect := .postgresql }) ∧
      read? false (blocksText "\x22高さ\x22\x22\x22" "\x22高さ\x22\x22") ≠
        some [⟨"\x22高さ\x22\x22\x22", some (.quoted "高さ\x22")⟩] := by
  have fits : Text.FitsQuotes "height_m" := .inl ⟨'h', by simp, rfl⟩
  have unfit : ¬ Text.FitsQuotes "高さ\x22" := by simp [Text.FitsQuotes, Text.doubleQuote]
  obtain ⟨-, metric, legible⟩ := camelCase_aliases_iff (blocksColumn "height_m")
    (blocksBy "height_m") { dialect := .postgresql }
  obtain ⟨-, inches, -⟩ := camelCase_aliases_iff (blocksColumn "高さ\x22")
    (blocksBy "高さ\x22") { dialect := .postgresql }
  have plain : (blocksColumn "height_m").asCamelCase.Legible .postgresql
      ((blocksBy "height_m").scope Source.table?) := by
    constructor
    case isTerm_qualifier =>
      intro s given
      cases given
    case isTerm_name =>
      intro generic
      cases generic
  refine ⟨rfl, (metric _ _ rfl).mpr ⟨fun e mem => ?_, ?_⟩, rfl, fun read => ?_⟩
  · obtain rfl := List.mem_singleton.mp mem
    refine legible _ _ (fun ref mem => ?_) fun s _ chosen => ?_
    · obtain rfl := List.mem_singleton.mp mem
      exact plain
    · cases chosen
  · rintro own mem -
    obtain rfl := Expression.column.inj (List.mem_singleton.mp mem)
    exact fits
  · exact unfit (((inches _ _ rfl).mp read).2 _ List.mem_cons_self rfl)

end Select

end BoundSql
