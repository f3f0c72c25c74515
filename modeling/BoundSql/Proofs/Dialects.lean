import BoundSql.Proofs.Agreement.Record
import BoundSql.Proofs.Dialects.Quotes

/-!
# What the dialect decides

A statement is put together before a dialect is chosen, so the dialect can decide nothing but how
identifiers are written: not whether the statement is refused, and not what is bound under which
name.  `Outline` is what a builder puts together, and every builder is rendered by its outline.

## Why outlines

The renderings of a builder in two dialects could be compared step by step, through all of the code
that puts a statement together.  An outline makes this unnecessary.  It is a value in whose type no
dialect occurs, so that a computation which yields an outline, or an error, cannot depend on one;
and once `Builder.render_eq_outline` is shown, what is left to look at are the three ways of turning
an outline into text.

The second half of the main result says what the difference in the text is.  Leaving out the quotes
would not give the text of the generic dialect if a name contained the quote, since in a name it is
doubled, so that two of them would be left out where one belongs to the name.  It is assumed
therefore that no text of the builder has the quote (`Builder.texts`); the names that the builder
makes up itself, such as those of parameters, are shown to have none.

* `Rendered.mapText`, `Product.mapText` : a statement or a batch under another text.
* `Outline`, `Builder.outline` : what a builder is before a dialect is chosen.
* `Builder.render_eq_outline` : the dialect is chosen last.
* `Builder.dialects_differ_in_quotes` : two dialects give the same up to the text, and the text is
  that of the generic dialect when the quotes are left out.
-/

namespace BoundSql

/-! ### Other texts -/

/-- The statement under another text. -/
def Rendered.mapText (change : String → String) (r : Rendered) : Rendered :=
  { r with sql := change r.sql }

/-- The statement or the batch under another text. -/
def Product.mapText (change : String → String) : Product → Product
  | statement r => statement (r.mapText change)
  | batch b => batch { b with sql := change b.sql }

/-- The statements of a batch have the text of the batch. -/
theorem Product.statements_mapText (change : String → String) (p : Product) :
    (p.mapText change).statements = List.map (Rendered.mapText change) <$> p.statements := by
  cases p with
  | statement r => rfl
  | batch b =>
      show List.mapM _ b.records = _ <$> List.mapM _ b.records
      rw [← mapM_result_eq]
      refine congrArg (List.mapM · b.records) (funext fun record => ?_)
      simp only [Batch.statement, map_eq_pure_bind, bind_assoc, pure_bind]
      rfl

/-! ### Outlines -/

/-- What a builder is before a dialect is chosen: a text whose values are still to be numbered, a
text with its parameters, or the text of a batch with what is bound for each record. -/
inductive Outline where
  | numbered (text : Fragment)
  | settled (text : Fragment) (parameters : Parameters)
  | batch (text : Fragment) (records : List Record) (bindings : List Binding)

namespace Outline

/-- The text of the outline. -/
def text : Outline → Fragment
  | numbered text | settled text _ | batch text _ _ => text

/-- The statement or the batch in a dialect. -/
def render (dialect : Dialect) : Outline → Product
  | numbered text => .statement (text.render dialect)
  | settled text parameters => .statement ⟨(text.render dialect).sql, parameters⟩
  | batch text records bindings => .batch ⟨(text.render dialect).sql, records, bindings⟩

/-- Two dialects give the same up to the text.  Values are numbered while the text is written, but
in the order of the pieces, which is the same in both. -/
theorem render_erased (o : Outline) (dialect other : Dialect) :
    (o.render other).mapText (fun _ => "") = (o.render dialect).mapText fun _ => "" := by
  cases o with
  | numbered text =>
      show Product.statement ⟨"", (text.render other).parameters⟩ =
        Product.statement ⟨"", (text.render dialect).parameters⟩
      rw [Fragment.render_parameters, Fragment.render_parameters]
  | settled text parameters => rfl
  | batch text records bindings => rfl

/-- With the quotes left out, the text is that of the generic dialect. -/
theorem without_render {dialect : Dialect} {q : Char} (quotes : dialect.quoteChar? = some q)
    {o : Outline} (unmarked : o.text.Unmarked q) :
    (o.render dialect).mapText (Text.without q) = o.render .generic := by
  have plain : Text.without q (o.text.render dialect).sql = (o.text.render .generic).sql :=
    unmarked.without_render quotes
  cases o with
  | numbered text =>
      have bound : (text.render dialect).parameters = (text.render .generic).parameters := by
        rw [Fragment.render_parameters, Fragment.render_parameters]
      show Product.statement ⟨Text.without q (text.render dialect).sql,
        (text.render dialect).parameters⟩ = Product.statement (text.render .generic)
      rw [bound]
      exact congrArg (fun sql => Product.statement ⟨sql, _⟩) plain
  | settled text parameters => exact congrArg (fun sql => Product.statement ⟨sql, _⟩) plain
  | batch text records bindings => exact congrArg (fun sql => Product.batch ⟨sql, _, _⟩) plain

end Outline

/-! ### The outlines of builders -/

/-- The outline of the insert of one record. -/
def InsertRow.outline (catalog : Catalog) (i : InsertRow Record) : Except Error Outline := do
  let (table, mappings) ← i.target.resolve .insert catalog i.row
  let mappings ← mappings.filterM fun m => (!·) <$> drops i.row m
  if mappings.isEmpty then fail .nothingToInsert .insert
  let columns ← mappings.mapM Mapping.named
  let values ← mappings.mapM (rowExpression id)
  let text := insertFragment table.fragment (columns.map (·.name)) [values]
  let parameters ← bindRecord .insert id i.row (bindingsOf columns mappings)
  return .settled text parameters

/-- The outline of a batch; without records there is no text. -/
def InsertBatch.outline (catalog : Catalog) (i : InsertBatch Record) : Except Error Outline :=
  match i.records with
  | [] => if i.target.table?.isNone then fail .missingTable .insertBatch else .ok (.batch [] [] [])
  | sample :: _ => do
    let (table, mappings) ← i.target.resolve .insertBatch catalog sample
    let columns ← mappings.mapM Mapping.named
    let values ← mappings.mapM (rowExpression id)
    let text := insertFragment table.fragment (columns.map (·.name)) [values]
    return .batch text i.records (bindingsOf columns mappings)

/-- The outline of an insert of many records. -/
def InsertMultiple.outline (catalog : Catalog) (i : InsertMultiple Record) :
    Except Error Outline :=
  match i.records with
  | [] => fail .noRecords .insertMultiple
  | sample :: _ => do
    let (table, mappings) ← i.target.resolve .insertMultiple catalog sample
    let rows ← (List.range i.records.length).mapM (rowExpressions mappings)
    let columns ← mappings.mapM Mapping.named
    let text := insertFragment table.fragment (columns.map (·.name)) rows
    let bindings := bindingsOf columns mappings
    let parameters ← i.records.zipIdx.mapM fun (record, index) =>
      bindRecord .insertMultiple (rowSlotName index) record bindings
    return .settled text (parameters.foldl Assoc.putAll [])

section

variable (catalog : Catalog) (dialect : Dialect)

/-- The insert of one record is rendered by its outline; what is bound for the record does not
depend on the text. -/
theorem InsertRow.render_eq_outline (i : InsertRow Record) :
    Product.statement <$> i.render catalog dialect =
      Outline.render dialect <$> i.outline catalog := by
  unfold render outline
  simp only [map_eq_pure_bind, bind_assoc]
  refine bind_congr fun resolved => bind_congr fun kept => ?_
  cases kept.isEmpty with
  | true => rfl
  | false => simp only [bind_assoc, pure_bind, Outline.render, Bool.false_eq_true, if_false]

/-- So is a batch, with and without records. -/
theorem InsertBatch.render_eq_outline (i : InsertBatch Record) :
    Product.batch <$> i.render catalog dialect = Outline.render dialect <$> i.outline catalog := by
  obtain ⟨target, records⟩ := i
  cases records with
  | nil => cases h : target.table? <;> simp [render, outline, settled?, h] <;> rfl
  | cons sample rest =>
      simp only [render, outline, map_eq_pure_bind, bind_assoc, pure_bind, Outline.render]

/-- So is the insert of many records, whose rows are numbered before the text is written. -/
theorem InsertMultiple.render_eq_outline (i : InsertMultiple Record) :
    Product.statement <$> i.render catalog dialect =
      Outline.render dialect <$> i.outline catalog := by
  obtain ⟨target, records⟩ := i
  cases records with
  | nil => rfl
  | cons sample rest =>
      simp only [render, outline, map_eq_pure_bind, bind_assoc, pure_bind, Outline.render]

end

/-- The outline of a builder. -/
def Builder.outline (catalog : Catalog) : Builder → Except Error Outline
  | numbered b => Outline.numbered <$> b.fragment
  | insertRow i => i.outline catalog
  | insertBatch i => i.outline catalog
  | insertMultiple i => i.outline catalog

/-- **The dialect is chosen last**: a builder is rendered by its outline, which knows no dialect. -/
theorem Builder.render_eq_outline (b : Builder) (catalog : Catalog) (dialect : Dialect) :
    b.render catalog dialect = Outline.render dialect <$> b.outline catalog := by
  cases b with
  | numbered b =>
      show Product.statement <$> b.render dialect =
        Outline.render dialect <$> Outline.numbered <$> b.fragment
      rw [b.render_eq]
      cases b.fragment <;> rfl
  | insertRow i => exact i.render_eq_outline catalog dialect
  | insertBatch i => exact i.render_eq_outline catalog dialect
  | insertMultiple i => exact i.render_eq_outline catalog dialect

/-! ### The texts of builders -/

/-- The texts of the table and the mappings of a record insert. -/
def RowTarget.texts (t : RowTarget) : List String :=
  t.table?.toList.flatMap Table.texts ++ t.mappings.flatMap Mapping.texts

/-- The texts of a builder: names, schemas, aliases, qualifiers and constants.  What a statement
could take a quote from is among them. -/
def Builder.texts : Builder → List String
  | numbered b => b.texts
  | insertRow i => i.target.texts
  | insertBatch i => i.target.texts
  | insertMultiple i => i.target.texts

variable {q : Char}

/-- What a record insert writes of the mapping has not the character: neither the name of its
column, nor a constant, nor the property that its parameter is called after. -/
structure Mapping.Unmarked (q : Char) (m : Mapping) : Prop where
  name : ∀ {column}, m.named = .ok column → q ∉ column.name.toList
  constant : ∀ {s}, m.origin = .constant s ∨ m.origin = .stringConstant s → q ∉ s.toList
  property : ∀ {p}, m.property? = some p → q ∉ p.toList

namespace Mapping

variable {m : Mapping}

/-- The properties of sound mappings are identifiers. -/
theorem notMem_property (mark : Text.isMark q = true) (sound : RowTarget.problem? m = none)
    {p : String} (reads : m.property? = some p) : q ∉ p.toList :=
  Text.notMem_of_isIdentifier mark (RowTarget.isIdentifier_of_sound sound reads)

/-- A mapping of the caller's has the character only if one of its texts has. -/
theorem unmarked_of_plain (mark : Text.isMark q = true) (plain : Plain q m.texts)
    (sound : RowTarget.problem? m = none) : m.Unmarked q where
  name := m.plain_named plain
  constant := by
    rintro s (origin | origin) <;> refine plain s (List.mem_append_right _ ?_) <;>
      · rw [origin]
        exact List.mem_singleton_self s
  property := notMem_property mark sound

/-- A mapping that is inferred from the columns of a table is sound only if the name of the column
is an identifier, and no quote is part of one. -/
theorem unmarked_of_inferred (mark : Text.isMark q = true) {own : Column}
    (inferred : m = ⟨.column own, .property own.name⟩) (sound : RowTarget.problem? m = none) :
    m.Unmarked q := by
  have name : q ∉ own.name.toList := notMem_property mark sound (by rw [inferred]; rfl)
  subst inferred
  constructor
  case name =>
    intro column named
    rw [← Except.ok.inj named]
    exact name
  case constant =>
    intro s origin
    rcases origin with origin | origin <;> cases origin
  case property => exact notMem_property mark sound

/-- The value expression of a mapping has the character only if the mapping has.  The names of
parameters are made from properties, in a way that is not to add the character. -/
theorem Unmarked.rowExpression (mark : Text.isMark q = true) (unmarked : m.Unmarked q)
    {parameter : String → String} (names : ∀ p, q ∉ p.toList → q ∉ (parameter p).toList)
    {f : Fragment} (h : rowExpression parameter m = .ok f) : f.Unmarked q := by
  unfold BoundSql.rowExpression at h
  split at h
  case h_1 p reads =>
    obtain rfl := Except.ok.inj h
    exact .cons (names p (unmarked.property reads)) .nil
  case h_2 =>
    unfold literal at h
    split at h
    case h_1 =>
      obtain rfl := Except.ok.inj h
      exact .cons (Text.notMem_of_markFree mark (s := "NULL") (by decide)) .nil
    case h_2 text origin =>
      obtain rfl := Except.ok.inj h
      exact .cons (unmarked.constant (.inr origin)) .nil
    case h_3 sql origin =>
      obtain rfl := Except.ok.inj h
      exact .cons (unmarked.constant (.inl origin)) .nil
    case h_4 => cases h

end Mapping

/-- What a record insert takes over has the character only if the builder has.  The mappings are the
caller's, or else those of the columns of the table, which the catalog knows and the builder does
not. -/
theorem RowTarget.unmarked_of_resolve (mark : Text.isMark q = true) {t : RowTarget}
    (plain : Plain q t.texts) {kind : StatementKind} {catalog : Catalog} {sample : Record}
    {table : Table} {mappings : List Mapping}
    (h : t.resolve kind catalog sample = .ok (table, mappings)) :
    Plain q table.texts ∧ ∀ m ∈ mappings, m.Unmarked q := by
  obtain ⟨table_plain, mappings_plain⟩ := plain_append.mp plain
  obtain ⟨table_eq, choice⟩ := resolve_eq_ok h
  constructor
  · rw [table_eq] at table_plain
    simpa using table_plain
  · intro m mem
    have sound := problem?_of_resolve h mem
    rcases choice with ⟨-, rfl⟩ | ⟨-, properties, rfl⟩
    · exact Mapping.unmarked_of_plain mark (plain_flatMap.mp mappings_plain m mem) sound
    · obtain ⟨own, inferred⟩ := exists_of_mem_inferred mem
      exact Mapping.unmarked_of_inferred mark inferred sound

/-- Rows without the character make an insert without it. -/
theorem Fragment.Unmarked.insertFragment (mark : Text.isMark q = true) {t : Table}
    (table_plain : Plain q t.texts) {mappings : List Mapping}
    (unmarked : ∀ m ∈ mappings, m.Unmarked q) {columns : List Column}
    (named : mappings.mapM Mapping.named = .ok columns) {rows : List (List Fragment)}
    (made : ∀ row ∈ rows, ∀ f ∈ row, Fragment.Unmarked q f) :
    (insertFragment t.fragment (columns.map (·.name)) rows).Unmarked q := by
  have columns_plain : ∀ name ∈ columns.map (·.name), q ∉ name.toList := by
    intro name mem
    obtain ⟨column, hcolumn, rfl⟩ := List.mem_map.mp mem
    obtain ⟨m, hm, found⟩ := exists_of_mem_mapM named hcolumn
    exact (unmarked m hm).name found
  have head := Fragment.Unmarked.ofWritten (written_insertHead mark table_plain columns_plain)
  have separator : q ∉ ", ".toList := Text.notMem_of_markFree mark (by decide)
  refine head.append (.cons (Text.notMem_of_markFree mark (s := " VALUES ") (by decide)) ?_)
  refine .joined separator fun f mem => ?_
  obtain ⟨row, hrow, rfl⟩ := List.mem_map.mp mem
  exact (Fragment.Unmarked.joined separator (made row hrow)).parenthesized mark

/-- The name of a row slot has no mark that the property has not: what is put before it consists of
letters, digits and underscores. -/
theorem notMem_rowSlotName (mark : Text.isMark q = true) (k : Nat) {p : String}
    (absent : q ∉ p.toList) : q ∉ (rowSlotName k p).toList := by
  have parts : (rowSlotName k p).toList =
      rowStem.toList ++ (toString (k : Int)).toList ++ "_".toList ++ p.toList := by
    simp only [rowSlotName, String.toList_append]
  rw [parts, List.mem_append, List.mem_append, List.mem_append]
  rintro (((stem | digit) | line) | mem)
  · exact Text.notMem_of_markFree mark (by decide) stem
  · exact Text.notMem_toString_int mark k digit
  · exact Text.notMem_of_markFree mark (by decide) line
  · exact absent mem

/-- The value expressions of the mappings, under names that have not the character. -/
theorem unmarked_of_mapM_rowExpression (mark : Text.isMark q = true) {mappings : List Mapping}
    (unmarked : ∀ m ∈ mappings, m.Unmarked q) {parameter : String → String}
    (names : ∀ p, q ∉ p.toList → q ∉ (parameter p).toList) {row : List Fragment}
    (h : mappings.mapM (rowExpression parameter) = .ok row) :
    ∀ f ∈ row, Fragment.Unmarked q f := by
  intro f mem
  obtain ⟨m, hm, written⟩ := exists_of_mem_mapM h mem
  exact (unmarked m hm).rowExpression mark names written

namespace Builder

/-- **The text of a builder has a mark only if one of its texts has.**  The numbered builders are
covered by the sites of their text; the inserts of records by their mappings and the names that are
made for their parameters. -/
theorem unmarked_outline (mark : Text.isMark q = true) {b : Builder} (plain : Plain q b.texts)
    {catalog : Catalog} {o : Outline} (h : b.outline catalog = .ok o) : o.text.Unmarked q := by
  cases b with
  | numbered b =>
      obtain ⟨f, hf, rfl⟩ := map_eq_ok_iff.mp h
      exact .ofWritten (b.written_fragment mark plain hf)
  | insertRow i =>
      obtain ⟨⟨table, mappings⟩, resolved, h⟩ := bind_eq_ok_iff.mp h
      obtain ⟨kept, hkept, h⟩ := bind_eq_ok_iff.mp h
      obtain ⟨table_plain, all⟩ := RowTarget.unmarked_of_resolve mark plain resolved
      have unmarked : ∀ m ∈ kept, m.Unmarked q :=
        fun m mem => all m ((mem_filterM_iff hkept).mp mem).1
      dsimp only at h
      split at h
      case isTrue => exact absurd h fail_ne_ok
      case isFalse =>
        obtain ⟨columns, named, h⟩ := bind_eq_ok_iff.mp h
        obtain ⟨row, written, h⟩ := bind_eq_ok_iff.mp h
        obtain ⟨parameters, -, h⟩ := bind_eq_ok_iff.mp h
        rw [← pure_eq_ok_iff.mp h]
        have made := unmarked_of_mapM_rowExpression mark unmarked (fun _ => id) written
        exact .insertFragment mark table_plain unmarked named
          fun row' mem => List.mem_singleton.mp mem ▸ made
  | insertBatch i =>
      obtain ⟨target, _ | ⟨sample, rest⟩⟩ := i
      -- no records: the text is empty, whether or not there is a table
      · have empty : o = .batch [] [] [] := by
          simp only [outline, InsertBatch.outline] at h
          split at h
          · exact absurd h fail_ne_ok
          · exact (Except.ok.inj h).symm
        rw [empty]
        exact .nil
      · obtain ⟨⟨table, mappings⟩, resolved, h⟩ := bind_eq_ok_iff.mp h
        obtain ⟨table_plain, unmarked⟩ := RowTarget.unmarked_of_resolve mark plain resolved
        obtain ⟨columns, named, h⟩ := bind_eq_ok_iff.mp h
        obtain ⟨row, written, h⟩ := bind_eq_ok_iff.mp h
        rw [← pure_eq_ok_iff.mp h]
        have made := unmarked_of_mapM_rowExpression mark unmarked (fun _ => id) written
        exact .insertFragment mark table_plain unmarked named
          fun row' mem => List.mem_singleton.mp mem ▸ made
  | insertMultiple i =>
      obtain ⟨target, _ | ⟨sample, rest⟩⟩ := i
      · exact absurd h fail_ne_ok
      · obtain ⟨⟨table, mappings⟩, resolved, h⟩ := bind_eq_ok_iff.mp h
        obtain ⟨table_plain, unmarked⟩ := RowTarget.unmarked_of_resolve mark plain resolved
        obtain ⟨rows, written, h⟩ := bind_eq_ok_iff.mp h
        obtain ⟨columns, named, h⟩ := bind_eq_ok_iff.mp h
        obtain ⟨parameters, -, h⟩ := bind_eq_ok_iff.mp h
        rw [← pure_eq_ok_iff.mp h]
        refine .insertFragment mark table_plain unmarked named fun row mem => ?_
        obtain ⟨k, -, own⟩ := exists_of_mem_mapM written mem
        exact unmarked_of_mapM_rowExpression mark unmarked
          (fun p => notMem_rowSlotName mark k) own

/-! ### Main result -/

/-- **The dialect changes only how identifiers are quoted.**  In any two dialects a builder is
refused with the same error, or gives a statement or batch that is the same but for its text, and
so are the statements that are executed.  If no text of the builder has the quote of a dialect,
leaving the quotes out gives exactly what the generic dialect gives. -/
theorem dialects_differ_in_quotes (b : Builder) (catalog : Catalog) (dialect : Dialect) :
    (∀ other,
      Product.mapText (fun _ => "") <$> b.render catalog other =
        Product.mapText (fun _ => "") <$> b.render catalog dialect ∧
      List.map (Rendered.mapText fun _ => "") <$> b.statements catalog other =
        List.map (Rendered.mapText fun _ => "") <$> b.statements catalog dialect) ∧
    ∀ q, dialect.quoteChar? = some q → Plain q b.texts →
      Product.mapText (Text.without q) <$> b.render catalog dialect =
        b.render catalog .generic ∧
      List.map (Rendered.mapText (Text.without q)) <$> b.statements catalog dialect =
        b.statements catalog .generic := by
  -- the statements that are executed have the texts of what is rendered
  have executed (change : String → String) (d : Dialect) :
      List.map (Rendered.mapText change) <$> b.statements catalog d =
        (Product.mapText change <$> b.render catalog d) >>= Product.statements := by
    rw [statements, map_bind, bind_map_left]
    exact bind_congr fun p => (p.statements_mapText change).symm
  constructor
  · intro other
    have rendered : Product.mapText (fun _ => "") <$> b.render catalog other =
        Product.mapText (fun _ => "") <$> b.render catalog dialect := by
      rw [render_eq_outline, render_eq_outline]
      cases b.outline catalog with
      | error e => rfl
      | ok o => exact congrArg Except.ok (o.render_erased dialect other)
    rw [executed, executed, rendered]
    exact ⟨rfl, rfl⟩
  · intro q quotes plain
    have rendered : Product.mapText (Text.without q) <$> b.render catalog dialect =
        b.render catalog .generic := by
      rw [render_eq_outline, render_eq_outline]
      cases h : b.outline catalog with
      | error e => rfl
      | ok o =>
          have unmarked := unmarked_outline (Dialect.isMark_of_quoteChar? quotes) plain h
          exact congrArg Except.ok (o.without_render quotes unmarked)
    rw [executed, rendered]
    exact ⟨rfl, rfl⟩

/-- An update of a column to a string constant. -/
def quoted : Builder :=
  let orders : Table := ⟨0, "order", some "shop"⟩
  .numbered <| .update {
    table := orders
    mappings := [⟨.column (.plain "note" orders none), .stringConstant "it's"⟩]
    criteria := [.mk .and (.column (.plain "id" orders none)) (.compare .equal (.int 5) false) []] }

/-- The sample between grave accents, and without them. -/
theorem dialects_differ_in_quotes_sample :
    quoted.render {} .mysql = .ok (.statement
      ⟨"UPDATE shop.\x60order\x60 SET \x60note\x60 = 'it''s' WHERE \x60id\x60 = :p1",
        [("p1", .int 5)]⟩) ∧
    Product.mapText (Text.without Text.graveAccent) <$> quoted.render {} .mysql =
      quoted.render {} .generic ∧
    quoted.render {} .generic = .ok (.statement
      ⟨"UPDATE shop.order SET note = 'it''s' WHERE id = :p1", [("p1", .int 5)]⟩) :=
  ⟨rfl, ((dialects_differ_in_quotes quoted {} .mysql).2 Text.graveAccent rfl (by decide)).1, rfl⟩

end Builder

end BoundSql
