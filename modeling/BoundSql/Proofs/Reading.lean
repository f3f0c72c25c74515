import BoundSql.Proofs.Agreement.Record
import BoundSql.Proofs.Reading.Scanner

/-!
# Inserts read back

In a dialect that quotes identifiers the text of an insert of rows says again what it was made of.
The reader here knows the words and the punctuation of an insert; what stands between quotes it
leaves to the scanner.

## Why a reader

That names and constants are quoted properly is a property of the text: whatever is in them, it must
not be possible to take them for something else.  A reader that recovers them shows it, provided
that it does not know what it is to find.  It gets the text and the quote of the dialect and nothing
else.  Names and string constants are arbitrary.  So a table can be called by what looks like the
rest of an insert, and it is still read as a name.

## What is assumed, and why

Literal SQL is written as it is, so it can be anything, a comma or an unclosed quote included;
mappings to it are excluded.  A table in a schema is written as two identifiers with a dot between
them, which the reader does not know.  An insert of no records has no rows to read.  Nothing is
assumed of the mappings beyond this: those that the insert leaves out are left out of what is
recovered (`RecordInsert.keeps`), and that an insert which renders has at least one that takes
effect is shown.

## The shape of the proof

What is scanned and what is read are kept apart.  `Fragment.Scans.rows` says which tokens the rows
give, and `Fragment.rows?_rowTokens` what is read of these tokens; `Fragment.readInsert?_render`
puts both together for rows of pieces of any origin.  The four kinds of inserts then have to show
only that each value expression is one piece, and which.

* `Scanner.readInsert?` : the reader.
* `Dialect.reads_back_inserts` : from the texts of all inserts of rows it recovers the name of the
  table, the names of the columns in order, and for every row the value expressions in order.
-/

namespace BoundSql

/-! ### The reader -/

namespace Scanner

/-- A value expression as it is read: a string literal with its text, or a word, which can be a
placeholder or a keyword. -/
inductive Item where
  | word (s : String)
  | literal (s : String)
deriving DecidableEq, Repr

/-- An insert as it is read. -/
structure InsertText where
  table : String
  columns : List String
  rows : List (List Item)
deriving DecidableEq, Repr

/-- The identifier that a token is. -/
def Token.name? : Token → Option String
  | name s => some s
  | _ => none

/-- The value expression that a token is. -/
def Token.item? : Token → Option Item
  | word s => some (.word s)
  | literal s => some (.literal s)
  | _ => none

variable {α : Type}

/-- The members of a list up to its closing parenthesis, and the tokens behind it. -/
def members? (member? : Token → Option α) : List Token → Option (List α × List Token)
  | t :: .closing :: rest => (member? t).map fun x => ([x], rest)
  | t :: .comma :: rest => do
    let x ← member? t
    let (xs, rest) ← members? member? rest
    return (x :: xs, rest)
  | _ => none

/-- The members of a list between parentheses. -/
def tuple? (member? : Token → Option α) : List Token → Option (List α × List Token)
  | .opening :: rest => members? member? rest
  | _ => none

/-- Reading a list uses up tokens.  This is why the reading of rows comes to an end. -/
theorem length_lt_of_members? {member? : Token → Option α} {tokens rest : List Token}
    {xs : List α} (h : members? member? tokens = some (xs, rest)) :
    rest.length < tokens.length := by
  induction tokens using members?.induct generalizing xs with
  | case1 t rest' =>
      obtain ⟨x, -, same⟩ := Option.map_eq_some_iff.mp h
      rw [← (Prod.mk.inj same).2]
      exact Nat.lt_succ_of_lt (Nat.lt_succ_self _)
  | case2 t rest' ih =>
      simp only [members?, Option.bind_eq_bind, Option.bind_eq_some_iff] at h
      obtain ⟨x, -, ⟨xs', rest''⟩, inner, same⟩ := h
      obtain ⟨rfl, rfl⟩ := Prod.mk.inj (Option.some.inj same)
      exact Nat.lt_succ_of_lt (Nat.lt_succ_of_lt (ih inner))
  | case3 => simp_all [members?]

theorem length_lt_of_tuple? {member? : Token → Option α} {tokens rest : List Token}
    {xs : List α} (h : tuple? member? tokens = some (xs, rest)) : rest.length < tokens.length := by
  unfold tuple? at h
  split at h
  · exact Nat.lt_succ_of_lt (length_lt_of_members? h)
  · cases h

/-- The rows up to the end of the text.  Each but the last has a comma behind it, and nothing
follows the last. -/
def rows? (tokens : List Token) : Option (List (List Item)) :=
  match _h : tuple? Token.item? tokens with
  | some (row, []) => some [row]
  | some (row, .comma :: rest) => (rows? rest).map (row :: ·)
  | _ => none
termination_by tokens.length
decreasing_by exact Nat.lt_of_succ_lt (length_lt_of_tuple? _h)

/-- The insert that the tokens say. -/
def insert? : List Token → Option InsertText
  | .word "INSERT" :: .word "INTO" :: .name table :: rest => do
    let (columns, rest) ← tuple? Token.name? rest
    match rest with
    | .word "VALUES" :: rest => (rows? rest).map fun rows => ⟨table, columns, rows⟩
    | _ => none
  | _ => none

/-- Reads the text of an insert, where identifiers are quoted by `q`. -/
def readInsert? (q : Char) (sql : String) : Option InsertText :=
  insert? (scan q .between sql.toList)

/-- What is read behind the name of a table. -/
theorem insert?_of_tuple {table : String} {columns : List String} {tokens rest : List Token}
    (read : tuple? Token.name? tokens = some (columns, .word "VALUES" :: rest)) :
    insert? (.word "INSERT" :: .word "INTO" :: .name table :: tokens) =
      (rows? rest).map fun rows => ⟨table, columns, rows⟩ := by
  rw [insert?, read]
  rfl

/-- A list is read as its members, if each of its tokens is read as one.  A list without members is
not read at all, since a parenthesis is no member. -/
theorem members?_intersperse {member? : Token → Option α} {tokens : List Token} {xs : List α}
    (each : List.Forall₂ (fun t x => member? t = some x) tokens xs) (present : tokens ≠ [])
    (rest : List Token) :
    members? member? (tokens.intersperse .comma ++ .closing :: rest) = some (xs, rest) := by
  induction each with
  | nil => exact absurd rfl present
  | @cons t x tokens xs first others ih =>
      cases tokens with
      | nil =>
          cases others
          simp [members?, first]
      | cons t' tokens =>
          have inner := ih (List.cons_ne_nil _ _)
          rw [List.intersperse_cons_cons, List.cons_append, List.cons_append, members?, inner,
            first]
          rfl

/-- A list between parentheses is read as its members. -/
theorem tuple?_intersperse {member? : Token → Option α} {tokens : List Token} {xs : List α}
    (each : List.Forall₂ (fun t x => member? t = some x) tokens xs) (present : tokens ≠ [])
    (rest : List Token) :
    tuple? member? (.opening :: (tokens.intersperse .comma ++ .closing :: rest)) =
      some (xs, rest) :=
  members?_intersperse each present rest

end Scanner

/-! ### Rows -/

open Scanner

/-- The value expression that a piece is read as, when some values were bound before it: their
number decides the name of the placeholder of a value. -/
def Piece.item (before : Nat) : Piece → Item
  | sql s | name s => .word s
  | literal s => .literal s
  | value _ => .word (placeholder ("p" ++ toString (before + 1)))
  | parameter p => .word (placeholder p)

/-- The piece is a word or a literal.  Identifiers are excluded, because a value expression of an
insert never is one. -/
structure Piece.IsItem (p : Piece) : Prop where
  word : p.IsWord
  unnamed : ∀ s, p ≠ .name s

/-- The token of such a piece is read as its value expression. -/
theorem Piece.IsItem.item?_token {p : Piece} (isItem : p.IsItem) (before : Nat) :
    (p.token before).item? = some (p.item before) := by
  cases p with
  | name s => exact absurd rfl (isItem.unnamed s)
  | sql s => rfl
  | literal s => rfl
  | value v => rfl
  | parameter name => rfl

namespace Fragment

/-- The value expressions that a row of pieces is read as. -/
def items (before : Nat) : Fragment → List Item
  | [] => []
  | p :: ps => p.item before :: items (before + p.count) ps

/-- The value expressions that rows are read as. -/
def rowItems (before : Nat) : List Fragment → List (List Item)
  | [] => []
  | row :: rows => row.items before :: rowItems (before + row.count) rows

/-- The tokens of rows.  The last row is a case of its own, having no comma behind it. -/
def rowTokens (before : Nat) : List Fragment → List Token
  | [] => []
  | [row] => .opening :: ((tokens before row).intersperse .comma ++ [.closing])
  | row :: row' :: rows =>
    .opening :: ((tokens before row).intersperse .comma ++
      .closing :: .comma :: rowTokens (before + row.count) (row' :: rows))

/-- Rows of pieces, as they stand in an insert. -/
def rows (rows : List Fragment) : Fragment :=
  joined ", " (rows.map fun row => (listed row).parenthesized)

theorem forall₂_item?_tokens {row : Fragment} (all : ∀ p ∈ row, p.IsItem) (before : Nat) :
    List.Forall₂ (fun t x => Token.item? t = some x) (tokens before row) (row.items before) := by
  induction row generalizing before with
  | nil => exact .nil
  | cons p ps ih =>
      exact .cons ((all p List.mem_cons_self).item?_token before)
        (ih (fun p' mem => all p' (.tail _ mem)) _)

theorem tokens_ne_nil {row : Fragment} (present : row ≠ []) (before : Nat) :
    tokens before row ≠ [] := by
  cases row with
  | nil => exact absurd rfl present
  | cons p ps => exact List.cons_ne_nil _ _

/-- Rows of pieces are scanned row by row.  The number of values that are bound is passed on from
row to row, since they are numbered through the whole statement. -/
theorem Scans.rows {dialect : Dialect} {q : Char} (quotes : dialect.quoteChar? = some q)
    {before : Nat} {rows : List Fragment} (words : ∀ row ∈ rows, ∀ p ∈ row, p.IsWord) :
    Scans dialect q before (Fragment.rows rows) (rowTokens before rows) := by
  induction rows generalizing before with
  | nil => exact .nil
  | cons row rows ih =>
      have own := words row List.mem_cons_self
      have apart (f : Fragment) : BeginsApart (.sql ")" :: f) := beginsApart_sql rfl rfl f
      cases rows with
      | nil =>
          have closed : Scans dialect q (before + count row) [.sql ")"] [.closing] :=
            .sql [.closing] (fun _ => rfl) .nil
          exact .sql [.opening] (fun _ => rfl) (.listed quotes own (apart _) closed)
      | cons row' rows =>
          -- the scan of the rows behind goes on counting where this row has stopped
          have rest : Scans dialect q (before + count row) (Fragment.rows (row' :: rows)) _ :=
            ih fun r mem => words r (.tail _ mem)
          have closed := Scans.sql [.closing] (s := ")") (fun _ => rfl)
            (Scans.sql [.comma] (s := ", ") (fun _ => rfl) rest)
          have whole := Scans.sql [.opening] (s := "(") (fun _ => rfl)
            (.listed quotes own (apart _) closed)
          have text : Fragment.rows (row :: row' :: rows) =
              .sql "(" ::
                (Fragment.listed row ++ .sql ")" :: .sql ", " :: Fragment.rows (row' :: rows)) := by
            simp [Fragment.rows, joined, parenthesized]
          rw [text]
          exact whole

/-- Rows are read as their value expressions. -/
theorem rows?_rowTokens {rows : List Fragment} (present : rows ≠ [])
    (all : ∀ row ∈ rows, row ≠ [] ∧ ∀ p ∈ row, p.IsItem) (before : Nat) :
    rows? (rowTokens before rows) = some (rowItems before rows) := by
  induction rows generalizing before with
  | nil => exact absurd rfl present
  | cons row rows ih =>
      obtain ⟨some_pieces, items⟩ := all row List.mem_cons_self
      have read := tuple?_intersperse (forall₂_item?_tokens items before)
        (tokens_ne_nil some_pieces before)
      cases rows with
      | nil =>
          rw [rowTokens, rows?.eq_def, read []]
          rfl
      | cons row' rows =>
          have rest := ih (List.cons_ne_nil _ _) (fun r mem => all r (.tail _ mem))
            (before + row.count)
          rw [rowTokens, rows?.eq_def, read]
          simp only [rest]
          rfl

/-- Identifiers as pieces bind nothing and are read as names. -/
theorem tokens_names (before : Nat) (names : List String) :
    tokens before (names.map Piece.name) = names.map Token.name ∧
      count (names.map Piece.name) = 0 := by
  induction names with
  | nil => exact ⟨rfl, rfl⟩
  | cons name names ih =>
      refine ⟨congrArg (Token.name name :: ·) ih.1, ?_⟩
      rw [List.map_cons, count, ih.2]
      rfl

theorem forall₂_name? (names : List String) :
    List.Forall₂ (fun t x => Token.name? t = some x) (names.map Token.name) names := by
  rw [List.forall₂_map_left_iff]
  exact List.forall₂_same.mpr fun _ _ => rfl

/-- The parts of an insert of rows of pieces.  Without a schema the table is one identifier. -/
theorem insertFragment_eq {table : Table} (unqualified : nonempty? table.schema? = none)
    (names : List String) (rows : List Fragment) :
    insertFragment table.fragment names (rows.map fun row => row.map fun p => [p]) =
      .sql "INSERT INTO " :: .name table.name :: .sql " (" ::
        (listed (names.map Piece.name) ++ .sql ")" :: .sql " VALUES " :: Fragment.rows rows) := by
  have own : table.fragment = [.name table.name] := by
    rw [Table.fragment, qualified, unqualified]
  simp [insertFragment, insertHead, own, listed, Fragment.rows, Function.comp_def]

/-- **An insert of rows is read as it was made.**  That there are columns, rows, and value
expressions in every row is assumed here; the reader could not tell an insert without columns from
something else. -/
theorem readInsert?_render {dialect : Dialect} {q : Char} (quotes : dialect.quoteChar? = some q)
    {table : Table} (unqualified : nonempty? table.schema? = none) {names : List String}
    (some_names : names ≠ []) {rows : List Fragment} (some_rows : rows ≠ [])
    (all : ∀ row ∈ rows, row ≠ [] ∧ ∀ p ∈ row, p.IsItem) :
    readInsert? q ((insertFragment table.fragment names
      (rows.map fun row => row.map fun p => [p])).render dialect).sql =
        some ⟨table.name, names, rowItems 0 rows⟩ := by
  obtain ⟨names_tokens, names_count⟩ := tokens_names 0 names
  -- The text from its end to its start: each scan is given the one for what stands behind it.
  have values : Scans dialect q 0 (Fragment.rows rows) (rowTokens 0 rows) :=
    .rows quotes fun row mem p hp => ((all row mem).2 p hp).word
  have words : Scans dialect q 0 (.sql " VALUES " :: Fragment.rows rows) _ :=
    .sql [.word "VALUES"] (fun rest => by cases dialect <;> cases quotes <;> rfl) values
  have closed : Scans dialect q (0 + count (names.map Piece.name)) (.sql ")" :: _) _ :=
    .sql [.closing] (fun _ => rfl) (by rw [names_count]; exact words)
  have quoted : ∀ p ∈ names.map Piece.name, p.IsWord := by
    intro p mem
    obtain ⟨s, -, rfl⟩ := List.mem_map.mp mem
    trivial
  have columns := Scans.listed quotes quoted (beginsApart_sql rfl rfl _) closed
  have named := Scans.piece quotes (p := .name table.name) trivial
    (beginsApart_sql rfl rfl _) (Scans.sql [.opening] (s := " (") (fun _ => rfl) columns)
  have whole : Scans dialect q 0 (.sql "INSERT INTO " :: _) _ :=
    .sql [.word "INSERT", .word "INTO"]
      (fun rest => by cases dialect <;> cases quotes <;> rfl) named
  have columns_read := tuple?_intersperse (forall₂_name? names)
    (fun none => some_names (List.map_eq_nil_iff.mp none))
    (.word "VALUES" :: rowTokens 0 rows)
  have scanned := whole { dialect } rfl rfl
  rw [names_tokens] at scanned
  rw [insertFragment_eq unqualified, readInsert?, render, scanned]
  refine (insert?_of_tuple columns_read).trans ?_
  rw [rows?_rowTokens some_rows all]
  rfl

end Fragment

/-! ### Mappings -/

namespace Mapping

variable {m : Mapping} {parameter : String → String}

/-- The value expression of a mapping without a value, as it is to be read. -/
def item (parameter : String → String) (m : Mapping) : Item :=
  match m.property?, m.origin with
  | some p, _ => .word (placeholder (parameter p))
  | none, .stringConstant text => .literal text
  | none, .constant sql => .word sql
  | none, _ => .word "NULL"

/-- The one piece that such a value expression is written as.  It is defined by the mapping, so that
the rows of all records have the same pieces up to the names of parameters. -/
def piece (parameter : String → String) (m : Mapping) : Piece :=
  match m.property?, m.origin with
  | some p, _ => .parameter (parameter p)
  | none, .stringConstant text => .literal text
  | none, .constant sql => .sql sql
  | none, _ => .sql "NULL"

/-- A literal is one piece. -/
theorem literal_eq_piece {f : Fragment} (h : m.literal = .ok f) : f = [m.piece parameter] := by
  obtain ⟨column, origin⟩ := m
  cases origin <;> cases h <;> rfl

/-- A value expression of a record insert is one piece, whatever the mapping is. -/
theorem rowExpression_eq_piece {f : Fragment} (h : rowExpression parameter m = .ok f) :
    f = [m.piece parameter] := by
  rw [rowExpression] at h
  split at h
  case h_1 p reads => rw [← Except.ok.inj h, piece, reads]
  case h_2 => exact literal_eq_piece h

theorem item_piece (before : Nat) : (m.piece parameter).item before = m.item parameter := by
  obtain ⟨column, origin⟩ := m
  cases origin <;> rfl

theorem count_piece : (m.piece parameter).count = 0 := by
  obtain ⟨column, origin⟩ := m
  cases origin <;> rfl

/-- A mapping of no literal SQL is written as a word or a literal, if parameters are.  Whether a
parameter is one depends on the property, which is for the insert to check. -/
theorem isItem_piece (quoted : ∀ sql, m.origin ≠ .constant sql)
    (named : ∀ p, m.property? = some p → IsWord (placeholder (parameter p))) :
    (m.piece parameter).IsItem := by
  have null : (Piece.sql "NULL").IsItem := ⟨⟨nofun, plain_of_any rfl⟩, fun _ => nofun⟩
  obtain ⟨column, origin⟩ := m
  cases origin with
  | property p => exact ⟨named p rfl, fun _ => nofun⟩
  | propertyWhenPresent p => exact ⟨named p rfl, fun _ => nofun⟩
  | stringConstant text => exact ⟨trivial, fun _ => nofun⟩
  | constant sql => exact absurd rfl (quoted sql)
  | unspecified => exact null
  | null => exact null
  | value v => exact null
  | valueWhenPresent v => exact null
  | expression e => exact null

/-- A row of mappings is read as their value expressions. -/
theorem items_pieces (before : Nat) (ms : List Mapping) :
    Fragment.items before (ms.map (piece parameter)) = ms.map (item parameter) ∧
      Fragment.count (ms.map (piece parameter)) = 0 := by
  induction ms generalizing before with
  | nil => exact ⟨rfl, rfl⟩
  | cons m ms ih =>
      constructor
      · rw [List.map_cons, Fragment.items, item_piece, (ih _).1, List.map_cons]
      · rw [List.map_cons, Fragment.count, count_piece, (ih before).2]

end Mapping

/-- Rows that bind nothing are read one by one. -/
theorem Fragment.rowItems_of_count {rows : List Fragment} (none : ∀ row ∈ rows, count row = 0)
    (before : Nat) : rowItems before rows = rows.map (items before) := by
  induction rows with
  | nil => rfl
  | cons row rows ih =>
      rw [rowItems, none row List.mem_cons_self, Nat.add_zero,
        ih fun r mem => none r (.tail _ mem), List.map_cons]

/-! ### Inserts of records -/

namespace RecordInsert

variable {catalog : Catalog} {dialect : Dialect} {b : RecordInsert}

/-- The number of rows in the text: a batch is executed once for every record. -/
def rowCount : RecordInsert → Nat
  | multiple i => i.records.length
  | row _ | batch _ => 1

/-- Does the insert keep the mapping?  Only the insert of one record drops a mapping, and only one
that counts when its property is present. -/
def keeps : RecordInsert → Mapping → Bool
  | row i, m =>
    match InsertRow.drops i.row m with
    | .ok dropped => !dropped
    | .error _ => true
  | batch _, _ | multiple _, _ => true

/-- The parameters of a property are words, because properties of sound mappings are identifiers and
what is put before them in a row slot has no delimiters. -/
theorem isWord_parameter (k : Nat) {p : String} (identifier : Text.isIdentifier p = true) :
    IsWord (placeholder (b.parameter k p)) := by
  have plain := Text.isDelimiter_of_isIdentifier identifier
  refine .placeholder ?_
  cases b with
  | row i => exact plain
  | batch i => exact plain
  | multiple i =>
      have parts : (rowSlotName k p).toList =
          rowStem.toList ++ (toString k).toList ++ "_".toList ++ p.toList := by
        show (rowStem ++ toString k ++ "_" ++ p).toList = _
        simp only [String.toList_append]
      intro c mem
      rw [show (multiple i).parameter k p = rowSlotName k p from rfl, parts, List.mem_append,
        List.mem_append, List.mem_append] at mem
      rcases mem with ((stem | digit) | line) | mem
      · exact plain_of_any rfl c stem
      · exact isDelimiter_of_mem_toString digit
      · rw [List.mem_singleton.mp line]
        decide
      · exact plain c mem

/-- Every tuple has the pieces of the mappings.  A batch has one tuple for all records, an insert of
many records has one for each. -/
theorem tuples_eq {table : Table} {columns : List Column} {mappings : List Mapping}
    (same : mappings.length = columns.length) {tuples : List (List Fragment)}
    (h : b.tuples ⟨table, columns.zip mappings⟩ = .ok tuples) :
    tuples = ((List.range b.rowCount).map fun k => mappings.map (Mapping.piece (b.parameter k))).map
      fun row => row.map fun p => [p] := by
  have own {parameter : String → String} {tuple : List Fragment}
      (h : Layout.tuple parameter ⟨table, columns.zip mappings⟩ = .ok tuple) :
      tuple = (mappings.map (Mapping.piece parameter)).map fun p => [p] := by
    rw [Layout.tuple_zip same] at h
    rw [List.map_map]
    exact eq_map_of_mapM h fun m _ f written => Mapping.rowExpression_eq_piece written
  cases b with
  | row i =>
      obtain ⟨tuple, written, rfl⟩ := map_eq_ok_iff.mp h
      rw [own written]
      rfl
  | batch i =>
      obtain ⟨tuple, written, rfl⟩ := map_eq_ok_iff.mp h
      rw [own written]
      rfl
  | multiple i =>
      rw [List.map_map]
      exact eq_map_of_mapM h fun k _ tuple written => own written

/-- What is resolved is not empty: an insert without mappings is refused. -/
theorem ne_nil_of_resolve {t : RowTarget} {kind : StatementKind} {sample : Record}
    {result : Table × List Mapping} (h : t.resolve kind catalog sample = .ok result) :
    result.2 ≠ [] := by
  obtain ⟨table?, mappings⟩ := t
  cases table? with
  | none => cases h
  | some table =>
      rw [RowTarget.resolve_some] at h
      obtain ⟨chosen, -, h⟩ := bind_eq_ok_iff.mp h
      obtain ⟨present, -, rfl⟩ := RowTarget.accept_eq_ok h
      exact present

/-- A rendered insert has a mapping that takes effect.  For the insert of one record this needs an
argument of its own, since it may drop all of its mappings and is refused then. -/
theorem ne_nil_of_render {product : Product} (h : b.builder.render catalog dialect = .ok product)
    {table : Table} {mappings : List Mapping}
    (effective : b.effective catalog = .ok (table, mappings)) : mappings ≠ [] := by
  cases b with
  | row i =>
      obtain ⟨r, h, -⟩ := map_eq_ok_iff.mp h
      obtain ⟨⟨own, resolved⟩, hresolved, h⟩ := bind_eq_ok_iff.mp h
      obtain ⟨kept, hkept, h⟩ := bind_eq_ok_iff.mp h
      obtain ⟨⟨own', resolved'⟩, hresolved', effective⟩ := bind_eq_ok_iff.mp effective
      obtain ⟨rfl, rfl⟩ := Prod.mk.inj (Except.ok.inj (hresolved.symm.trans hresolved'))
      obtain ⟨kept', hkept', effective⟩ := bind_eq_ok_iff.mp effective
      obtain rfl := Except.ok.inj (hkept.symm.trans hkept')
      obtain ⟨-, rfl⟩ := Prod.mk.inj (pure_eq_ok_iff.mp effective)
      rintro rfl
      exact absurd h fail_ne_ok
  | batch i =>
      obtain ⟨target, _ | ⟨sample, rest⟩⟩ := i
      · exact absurd effective fail_ne_ok
      · exact ne_nil_of_resolve effective
  | multiple i =>
      obtain ⟨target, _ | ⟨sample, rest⟩⟩ := i
      · exact absurd effective fail_ne_ok
      · exact ne_nil_of_resolve effective

/-- Mappings of the caller's take effect as they are, those apart that are dropped.  Without any,
the mappings are inferred from the table, and there is nothing to compare them with. -/
theorem effective_eq_filter {table : Table} {mappings : List Mapping}
    (effective : b.effective catalog = .ok (table, mappings)) (mapped : b.target.mappings ≠ []) :
    mappings = b.target.mappings.filter b.keeps := by
  have own {t : RowTarget} {kind : StatementKind} {sample : Record} {resolved : List Mapping}
      (h : t.resolve kind catalog sample = .ok (table, resolved)) (mapped : t.mappings ≠ []) :
      resolved = t.mappings := by
    obtain ⟨-, ⟨-, same⟩ | ⟨none, -⟩⟩ := RowTarget.resolve_eq_ok h
    · exact same
    · exact absurd none mapped
  cases b with
  | row i =>
      obtain ⟨⟨table', resolved⟩, hresolved, effective⟩ := bind_eq_ok_iff.mp effective
      obtain ⟨kept, hkept, effective⟩ := bind_eq_ok_iff.mp effective
      obtain ⟨rfl, rfl⟩ := Prod.mk.inj (pure_eq_ok_iff.mp effective)
      rw [own hresolved mapped] at hkept
      refine filter_of_filterM hkept fun m keeps found => ?_
      obtain ⟨dropped, hdropped, rfl⟩ := map_eq_ok_iff.mp found
      rw [RecordInsert.keeps, hdropped]
  | batch i =>
      obtain ⟨target, _ | ⟨sample, rest⟩⟩ := i
      · exact absurd effective fail_ne_ok
      · rw [own effective mapped]
        exact (List.filter_eq_self.mpr fun _ _ => rfl).symm
  | multiple i =>
      obtain ⟨target, _ | ⟨sample, rest⟩⟩ := i
      · exact absurd effective fail_ne_ok
      · rw [own effective mapped]
        exact (List.filter_eq_self.mpr fun _ _ => rfl).symm

/-- The mappings that take effect are written as value expressions.  Inferred ones read a property
and are no literal SQL, so that the hypothesis is about the caller's only. -/
theorem isItem_of_effective {result : Table × List Mapping}
    (effective : b.effective catalog = .ok result)
    (quoted : ∀ m ∈ b.target.mappings, ∀ sql, m.origin ≠ .constant sql) (k : Nat) :
    ∀ m ∈ result.2, (m.piece (b.parameter k)).IsItem := by
  obtain ⟨kind, sample, resolved, hresolved, chosen, -⟩ := effective_eq_ok effective
  obtain ⟨-, choice⟩ := RowTarget.resolve_eq_ok hresolved
  intro m mem
  have sound := RowTarget.problem?_of_resolve hresolved (chosen m mem)
  refine Mapping.isItem_piece ?_ fun p reads => isWord_parameter k ?_
  · rcases choice with ⟨-, rfl⟩ | ⟨-, properties, rfl⟩
    · exact quoted m (chosen m mem)
    · obtain ⟨column, rfl⟩ := RowTarget.exists_of_mem_inferred (chosen m mem)
      exact fun _ => nofun
  · exact RowTarget.isIdentifier_of_sound sound reads

/-- **The text of an insert of records is read as it was made.**  The three kinds differ in their
rows and in the names of their parameters, and are alike in everything else. -/
theorem readInsert?_text {q : Char} (quotes : dialect.quoteChar? = some q) {product : Product}
    (h : b.builder.render catalog dialect = .ok product) (present : b.records ≠ [])
    (unqualified : ∀ table, b.target.table? = some table → nonempty? table.schema? = none)
    (quoted : ∀ m ∈ b.target.mappings, ∀ sql, m.origin ≠ .constant sql) :
    ∃ table mappings columns, b.target.table? = some table ∧
      b.effective catalog = .ok (table, mappings) ∧ mappings.mapM Mapping.named = .ok columns ∧
      readInsert? q product.text = some ⟨table.name, columns.map (·.name),
        (List.range b.rowCount).map fun k => mappings.map (Mapping.item (b.parameter k))⟩ := by
  obtain ⟨l, tuples, layout, written, text⟩ := exists_layout present h
  obtain ⟨⟨table, mappings⟩, effective, layout⟩ := bind_eq_ok_iff.mp layout
  obtain ⟨columns, named, layout⟩ := bind_eq_ok_iff.mp layout
  obtain rfl := pure_eq_ok_iff.mp layout
  have same := Layout.length_eq_of_named named
  have some_mappings := ne_nil_of_render h effective
  obtain ⟨kind, sample, resolved, hresolved, -⟩ := effective_eq_ok effective
  obtain ⟨into, -⟩ := RowTarget.resolve_eq_ok hresolved
  have isItem := isItem_of_effective effective quoted
  refine ⟨table, mappings, columns, into, effective, named, ?_⟩
  -- the reader takes no empty tuple and no empty list of rows, and neither is rendered
  have some_columns : columns.map (·.name) ≠ [] := by
    intro none
    have empty : mappings.length = 0 := by rw [same, List.map_eq_nil_iff.mp none, List.length_nil]
    exact some_mappings (List.length_eq_zero_iff.mp empty)
  have some_rows : List.range b.rowCount ≠ [] := by
    rw [Ne, List.range_eq_nil]
    cases b with
    | row i => exact Nat.one_ne_zero
    | batch i => exact Nat.one_ne_zero
    | multiple i => exact fun none => present (List.length_eq_zero_iff.mp none)
  rw [text, Layout.text, Layout.names_zip same, tuples_eq same written]
  rw [Fragment.readInsert?_render quotes (unqualified table into) some_columns
    (mt List.map_eq_nil_iff.mp some_rows), Fragment.rowItems_of_count, List.map_map]
  · refine congrArg (fun rows => some (InsertText.mk _ _ rows)) (List.map_congr_left fun k _ => ?_)
    exact (Mapping.items_pieces 0 mappings).1
  · intro row mem
    obtain ⟨k, -, rfl⟩ := List.mem_map.mp mem
    exact (Mapping.items_pieces 0 mappings).2
  · intro row mem
    obtain ⟨k, -, rfl⟩ := List.mem_map.mp mem
    refine ⟨mt List.map_eq_nil_iff.mp some_mappings, fun p hp => ?_⟩
    obtain ⟨m, hm, rfl⟩ := List.mem_map.mp hp
    exact isItem k m hm

end RecordInsert

/-! ### Inserts of given values -/

namespace InsertValues

/-- The value expressions of mappings, as they are to be read: values are numbered. -/
def items (before : Nat) : List Mapping → List Item
  | [] => []
  | m :: ms =>
    match m.value? with
    | some _ => .word (placeholder ("p" ++ toString (before + 1))) :: items (before + 1) ms
    | none => m.item id :: items before ms

/-- The mapping is written as a piece that is read as its value expression.  A value is written as a
placeholder with the next number, everything else as in an insert of records. -/
structure Writes (m : Mapping) (p : Piece) : Prop where
  isItem : p.IsItem
  item_eq : ∀ before, p.item before =
    if m.value?.isSome then .word (placeholder ("p" ++ toString (before + 1))) else m.item id
  count_eq : p.count = if m.value?.isSome then 1 else 0

/-- A mapping of no literal SQL is written as one piece that is read as its value expression. -/
theorem exists_writes {m : Mapping} (quoted : ∀ sql, m.origin ≠ .constant sql) {f : Fragment}
    (h : expression m = .ok f) : ∃ p, f = [p] ∧ Writes m p := by
  unfold expression at h
  split at h
  case h_1 v supplies =>
    obtain ⟨w, -, h⟩ := bind_eq_ok_iff.mp h
    refine ⟨.value w, (pure_eq_ok_iff.mp h).symm, ⟨trivial, fun _ => nofun⟩, fun before => ?_, ?_⟩
    · rw [supplies]
      rfl
    · rw [supplies]
      rfl
  case h_2 none =>
    refine ⟨m.piece id, Mapping.literal_eq_piece h, Mapping.isItem_piece quoted ?_, ?_, ?_⟩
    · intro p reads
      obtain ⟨column, origin⟩ := m
      cases origin <;> cases reads <;> cases h
    · intro before
      rw [none, Mapping.item_piece]
      rfl
    · rw [none, Mapping.count_piece]
      rfl

/-- A row of pieces is read as the value expressions of its mappings.  The number that a placeholder
gets is the number of values before it, in the row as well as among the mappings. -/
theorem items_eq {ms : List Mapping} {row : Fragment} (each : List.Forall₂ Writes ms row)
    (before : Nat) : row.items before = items before ms := by
  induction each generalizing before with
  | nil => rfl
  | @cons m p ms row first _ ih =>
      rw [Fragment.items, first.item_eq, first.count_eq, items]
      cases m.value? with
      | none => exact congrArg (_ :: ·) (ih before)
      | some v => exact congrArg (_ :: ·) (ih (before + 1))

theorem isItem_of_writes {ms : List Mapping} {row : Fragment} (each : List.Forall₂ Writes ms row) :
    ∀ p ∈ row, p.IsItem := by
  induction each with
  | nil => simp
  | cons first _ ih =>
      rintro p (_ | ⟨_, mem⟩)
      · exact first.isItem
      · exact ih p mem

/-- The names and the value expressions of entries are taken from the same mappings. -/
theorem exists_parts {ms : List Mapping} {entries : List (String × Fragment)}
    (quoted : ∀ m ∈ ms, ∀ sql, m.origin ≠ .constant sql) (made : ms.mapM entry = .ok entries) :
    ∃ columns row, ms.mapM Mapping.named = .ok columns ∧ List.Forall₂ Writes ms row ∧
      entries.map Prod.fst = columns.map (·.name) ∧
      entries.map Prod.snd = row.map fun p => [p] := by
  have results := mapM_eq_ok_iff.mp made
  clear made
  induction results with
  | nil => exact ⟨[], [], rfl, .nil, rfl, rfl⟩
  | @cons m entry ms entries first _ ih =>
      obtain ⟨columns, row, named, each, names, values⟩ := ih fun m mem => quoted m (.tail _ mem)
      obtain ⟨f, hf, first⟩ := bind_eq_ok_iff.mp first
      obtain ⟨column, hcolumn, first⟩ := bind_eq_ok_iff.mp first
      obtain rfl := pure_eq_ok_iff.mp first
      obtain ⟨p, rfl, writes⟩ := exists_writes (quoted m List.mem_cons_self) hf
      refine ⟨column :: columns, p :: row, ?_, .cons writes each, ?_, ?_⟩
      · rw [List.mapM_cons, hcolumn, named]
        rfl
      · rw [List.map_cons, names, List.map_cons]
      · rw [List.map_cons, values, List.map_cons]

/-- **The text of an insert of given values is read as it was made.** -/
theorem readInsert?_sql {dialect : Dialect} {q : Char} (quotes : dialect.quoteChar? = some q)
    {i : InsertValues} {r : Rendered} (h : i.render dialect = .ok r)
    (unqualified : nonempty? i.table.schema? = none)
    (quoted : ∀ m ∈ i.mappings, ∀ sql, m.origin ≠ .constant sql) :
    ∃ columns, (i.mappings.filter (!·.declines)).mapM Mapping.named = .ok columns ∧
      readInsert? q r.sql = some ⟨i.table.name, columns.map (·.name),
        [items 0 (i.mappings.filter (!·.declines))]⟩ := by
  obtain ⟨f, hf, h⟩ := bind_eq_ok_iff.mp h
  obtain rfl := pure_eq_ok_iff.mp h
  obtain ⟨entries, made, hf⟩ := bind_eq_ok_iff.mp hf
  have remaining : ∀ m ∈ i.mappings.filter (!·.declines), ∀ sql, m.origin ≠ .constant sql :=
    fun m mem => quoted m (List.mem_filter.mp mem).1
  generalize i.mappings.filter (!·.declines) = ms at made remaining ⊢
  obtain ⟨columns, row, named, each, names, values⟩ := exists_parts remaining made
  refine ⟨columns, named, ?_⟩
  split at hf
  case isTrue => exact absurd hf fail_ne_ok
  case isFalse some_entries =>
    obtain rfl := Except.ok.inj hf
    have some_columns : columns.map (·.name) ≠ [] := by
      rw [← names]
      exact fun none => some_entries (List.isEmpty_iff.mpr (List.map_eq_nil_iff.mp none))
    have some_pieces : row ≠ [] := by
      rintro rfl
      obtain rfl := List.map_eq_nil_iff.mp values
      exact some_entries rfl
    have all : ∀ r ∈ [row], r ≠ [] ∧ ∀ p ∈ r, p.IsItem := by
      intro r mem
      rw [List.mem_singleton.mp mem]
      exact ⟨some_pieces, isItem_of_writes each⟩
    rw [names, values]
    refine (Fragment.readInsert?_render quotes unqualified some_columns (List.cons_ne_nil _ _)
      all).trans ?_
    rw [Fragment.rowItems, Fragment.rowItems, items_eq each]

end InsertValues

/-! ### Main result -/

/-- **Inserts of rows read back.**  In a dialect that quotes identifiers, whatever the insert of a
record, of a batch, of many records or of given values renders to, without literal SQL and for a
table without a schema, a reader that knows nothing of quotes but that they are doubled recovers the
name of the table, the names of the columns in order, and for every row the value expressions in
the order of the columns, string constants with their texts. -/
theorem Dialect.reads_back_inserts {dialect : Dialect} {q : Char}
    (quotes : dialect.quoteChar? = some q) :
    (∀ (catalog : Catalog) (b : RecordInsert) (product : Product),
      b.builder.render catalog dialect = .ok product → b.records ≠ [] →
      (∀ table, b.target.table? = some table → nonempty? table.schema? = none) →
      (∀ m ∈ b.target.mappings, ∀ sql, m.origin ≠ .constant sql) →
      ∃ table mappings columns, b.target.table? = some table ∧
        b.effective catalog = .ok (table, mappings) ∧
        (b.target.mappings ≠ [] → mappings = b.target.mappings.filter b.keeps) ∧
        mappings.mapM Mapping.named = .ok columns ∧
        readInsert? q product.text = some ⟨table.name, columns.map (·.name),
          (List.range b.rowCount).map fun k => mappings.map (Mapping.item (b.parameter k))⟩) ∧
    ∀ (i : InsertValues) (r : Rendered), i.render dialect = .ok r →
      nonempty? i.table.schema? = none → (∀ m ∈ i.mappings, ∀ sql, m.origin ≠ .constant sql) →
      ∃ columns, (i.mappings.filter (!·.declines)).mapM Mapping.named = .ok columns ∧
        readInsert? q r.sql = some ⟨i.table.name, columns.map (·.name),
          [InsertValues.items 0 (i.mappings.filter (!·.declines))]⟩ := by
  constructor
  · intro catalog b product h present unqualified quoted
    obtain ⟨table, mappings, columns, into, effective, named, read⟩ :=
      RecordInsert.readInsert?_text quotes h present unqualified quoted
    exact ⟨table, mappings, columns, into, effective,
      RecordInsert.effective_eq_filter effective, named, read⟩
  · exact fun i r h unqualified quoted => InsertValues.readInsert?_sql quotes h unqualified quoted

/-- A table whose name has quotes, and columns whose names look like the punctuation of an insert,
filled from two records. -/
def quotedInsert : RecordInsert :=
  let items : Table := ⟨0, "it\x22ems", none⟩
  .multiple ⟨⟨some items, [⟨.column (.plain "a\x22, (b" items none), .property "qty"⟩,
    ⟨.column (.plain "" items none), .stringConstant "it's), ('"⟩]⟩,
    [.mapping [(.text "qty", .int 1)], .mapping [(.text "qty", .int 2)]]⟩

/-- The statement of the insert. -/
def quotedInsertStatement : Rendered :=
  ⟨"INSERT INTO \x22it\x22\x22ems\x22 (\x22a\x22\x22, (b\x22, \x22\x22) VALUES " ++
    "(:records_0_qty, 'it''s), ('''), (:records_1_qty, 'it''s), (''')",
    [("records_0_qty", .int 1), ("records_1_qty", .int 2)]⟩

/-- The insert is read as it was made. -/
theorem Dialect.reads_back_inserts_sample :
    quotedInsert.builder.render {} .postgresql = .ok (.statement quotedInsertStatement) ∧
    readInsert? Text.doubleQuote quotedInsertStatement.sql =
      some ⟨"it\x22ems", ["a\x22, (b", ""],
        [[.word ":records_0_qty", .literal "it's), ('"],
          [.word ":records_1_qty", .literal "it's), ('"]]⟩ := by
  have rendered : quotedInsert.builder.render {} .postgresql =
      .ok (.statement quotedInsertStatement) := rfl
  refine ⟨rendered, ?_⟩
  obtain ⟨inserts, -⟩ := reads_back_inserts (show Dialect.quoteChar? .postgresql = _ from rfl)
  obtain ⟨table, mappings, columns, into, -, own, named, read⟩ :=
    inserts {} quotedInsert _ rendered (List.cons_ne_nil _ _)
      (fun table into => by rw [← Option.some.inj into]; rfl)
      (fun m mem => by
        rcases List.mem_cons.mp mem with rfl | mem
        · exact fun _ => nofun
        · rw [List.mem_singleton.mp mem]
          exact fun _ => nofun)
  obtain rfl := Option.some.inj into
  obtain rfl := own (List.cons_ne_nil _ _)
  obtain rfl := Except.ok.inj named
  exact read

end BoundSql
