import BoundSql.Proofs.Blank.Record

/-!
# Bound data stays out of the text

Two builders that differ only in bound data render to the same text with the same names of
parameters, or fail with the same error: `Builder.render_eq_of_blank_eq`.  Data is what
`Builder.blank` takes out of a builder.  The caller's conversions are not to raise, for an error
that they raise may say anything about the data.

Every builder follows the blank one (`Builder.render_follows`, `Builder.statements_follows`), and so
two builders that are blank alike follow one and the same.

## Why two runs are compared

That data is not in a text cannot be said of one run.  A text may well contain the characters of a
value, by way of a name that happens to be the same, and a value may be missing from a text into
which it has been encoded.  What is meant is that the text would have been the same with other data,
and that is a statement about two builders.  It includes errors: a message with a value in it would
give the value away as the text would.

The proof goes by way of a third builder.  It has no data, and what is done with it can be compared
with what is done with either of the two, step by step, whereas these cannot be compared with each
other where a conversion raises in one and not in the other.

## What is not data

Some of what a caller supplies does decide what is written: whether a value is null, how many values
a list has, whether a limit is negative, and which properties a record has.  `Builder.blank` keeps
these, and nothing else.
-/

namespace BoundSql

/-! ### Record inserts -/

/-- The value expressions of a tuple are texts and slots, and the blank mappings have the same. -/
theorem mapM_rowExpression_blank (parameter : String → String) (mappings : List Mapping) :
    (mappings.map Mapping.blank).mapM (rowExpression parameter) =
      mappings.mapM (rowExpression parameter) := by
  rw [List.mapM_map]
  exact congrArg (mappings.mapM ·) (funext fun m => rowExpression_blank parameter m)

namespace InsertRow

/-- A mapping that counts only when its property is present is dropped for the blank record when it
is dropped for the record: a null is kept a null. -/
theorem drops_blank (record : Record) (m : Mapping) :
    drops record.blank m.blank = drops record m := by
  obtain ⟨column, origin⟩ := m
  cases origin with
  | propertyWhenPresent name =>
      show Value.isNull <$> record.blank.read name .insert =
        Value.isNull <$> record.read name .insert
      rw [record.read_blank]
      cases record.read name .insert with
      | error e => rfl
      | ok v => exact congrArg Except.ok v.isNull_blank
  | _ => rfl

/-- The insert of a record follows that of the blank one. -/
theorem render_follows (catalog : Catalog) (i : InsertRow Record) (dialect : Dialect) :
    Follows (fun r r' => r.shape = r'.shape) (i.render catalog dialect)
      (InsertRow.render catalog.unconverted ⟨i.target.blank, i.row.blank⟩ dialect) := by
  rw [render, render, RowTarget.resolve_blank]
  refine (Follows.image _ _).bind fun settled blank same => ?_
  subst same
  obtain ⟨table, mappings⟩ := settled
  have kept : ((mappings.map Mapping.blank).filterM fun m => (!·) <$> drops i.row.blank m) =
      List.map Mapping.blank <$> mappings.filterM fun m => (!·) <$> drops i.row m :=
    filterM_map_eq (fun m => by rw [drops_blank]) mappings
  dsimp only
  rw [kept]
  refine (Follows.image _ _).bind fun present blank same => ?_
  subst same
  simp only [List.isEmpty_map]
  split
  · exact .error _
  · rw [mapM_named_blank, mapM_rowExpression_blank]
    refine (Follows.image _ _).bind fun columns blank same => ?_
    subst same
    refine (Follows.ofEq rfl).bind fun values _ same => ?_
    subst same
    rw [bindingsOf_blank]
    refine (bindRecord_follows .insert id i.row _).bind fun p q names => .ok ?_
    rw [List.map_map]
    exact Prod.ext rfl names

end InsertRow

/-- The batch without its data. -/
def Batch.blank (b : Batch Record) : Batch Record :=
  ⟨b.sql, b.records.map Record.blank, b.bindings.map Binding.blank⟩

/-- A batch renders as the blank one does. -/
theorem InsertBatch.render_blank (catalog : Catalog) (i : InsertBatch Record) (dialect : Dialect) :
    InsertBatch.render catalog.unconverted ⟨i.target.blank, i.records.map Record.blank⟩ dialect =
      Batch.blank <$> i.render catalog dialect := by
  obtain ⟨target, records⟩ := i
  cases records with
  | nil =>
      obtain ⟨table?, mappings⟩ := target
      cases table? <;> rfl
  | cons sample rest =>
      rw [List.map_cons, render, render]
      dsimp only
      rw [RowTarget.resolve_blank]
      simp only [map_eq_pure_bind, bind_assoc, pure_bind]
      refine congrArg (_ >>= ·) (funext fun settled => ?_)
      rw [mapM_named_blank, mapM_rowExpression_blank]
      simp only [map_eq_pure_bind, bind_assoc, pure_bind]
      refine congrArg (_ >>= ·) (funext fun columns => ?_)
      refine congrArg (_ >>= ·) (funext fun values => ?_)
      rw [bindingsOf_blank, List.map_map]
      rfl

/-- The statements of a batch follow those of the blank one. -/
theorem Batch.statements_follows (b : Batch Record) :
    Follows (List.Forall₂ fun r r' => r.shape = r'.shape) b.statements b.blank.statements :=
  Follows.mapM fun record _ =>
    (bindRecord_follows .insertBatch id record b.bindings).bind fun _ _ names =>
      .ok (Prod.ext rfl names)

namespace InsertMultiple

/-- The value expressions of an insert of many records do not depend on the values. -/
theorem rowExpressions_blank (mappings : List Mapping) :
    rowExpressions (mappings.map Mapping.blank) = rowExpressions mappings :=
  funext fun index => mapM_rowExpression_blank (rowSlotName index) mappings

/-- Dictionaries with the same keys are merged into one with the same keys. -/
private theorem keys_foldl_putAll {ps qs : List Parameters}
    (h : List.Forall₂ (fun p q => Assoc.keys p = Assoc.keys q) ps qs) :
    ∀ {entries others : Parameters}, Assoc.keys entries = Assoc.keys others →
      Assoc.keys (ps.foldl Assoc.putAll entries) = Assoc.keys (qs.foldl Assoc.putAll others) := by
  induction h with
  | nil => exact fun same => same
  | cons first _ ih => exact fun same => ih (Assoc.keys_putAll first same)

/-- The insert of many records follows that of the blank ones. -/
theorem render_follows (catalog : Catalog) (i : InsertMultiple Record) (dialect : Dialect) :
    Follows (fun r r' => r.shape = r'.shape) (i.render catalog dialect)
      (InsertMultiple.render catalog.unconverted ⟨i.target.blank, i.records.map Record.blank⟩
        dialect) := by
  obtain ⟨target, records⟩ := i
  cases records with
  | nil => exact .error _
  | cons sample rest =>
      rw [List.map_cons, render, render]
      dsimp only
      rw [RowTarget.resolve_blank]
      refine (Follows.image _ _).bind fun settled blank same => ?_
      subst same
      obtain ⟨table, mappings⟩ := settled
      dsimp only
      rw [rowExpressions_blank, mapM_named_blank, ← List.map_cons, List.length_map]
      refine (Follows.ofEq rfl).bind fun rows _ same => ?_
      subst same
      refine (Follows.image _ _).bind fun columns blank same => ?_
      subst same
      rw [bindingsOf_blank, List.zipIdx_map]
      have read : Follows (List.Forall₂ fun p q => Assoc.keys p = Assoc.keys q)
          ((sample :: rest).zipIdx.mapM fun r =>
            bindRecord .insertMultiple (rowSlotName r.2) r.1 (bindingsOf columns mappings))
          (((sample :: rest).zipIdx.map (Prod.map Record.blank id)).mapM fun r =>
            bindRecord .insertMultiple (rowSlotName r.2) r.1
              ((bindingsOf columns mappings).map Binding.blank)) :=
        Follows.mapM fun r _ => bindRecord_follows .insertMultiple (rowSlotName r.2) r.1 _
      refine read.bind fun parameters blank related => .ok ?_
      rw [List.map_map]
      exact Prod.ext rfl (keys_foldl_putAll related rfl)

end InsertMultiple

/-! ### Builders -/

/-- What a reader of a rendered builder sees without its data. -/
def Product.shape : Product → String × List String
  | statement r => r.shape
  | batch b => (b.sql, [])

/-- The second product is the first one without its data.  A batch has its data still in it when it
is rendered, and so it is compared with the batch that has none. -/
inductive Product.Alike : Product → Product → Prop
  | statement {r r' : Rendered} (same : r.shape = r'.shape) : Alike (.statement r) (.statement r')
  | batch (b : Batch Record) : Alike (.batch b) (.batch b.blank)

namespace Builder

variable (catalog : Catalog) (dialect : Dialect)

/-- **Every builder renders as the blank one does**, the data apart. -/
theorem render_follows (b : Builder) :
    Follows Product.Alike (b.render catalog dialect)
      (b.blank.render catalog.unconverted dialect) := by
  cases b with
  | numbered b =>
      have text : Follows (fun r r' => r.shape = r'.shape) (b.render dialect)
          (b.blank.render dialect) := by
        rw [b.render_eq, b.blank.render_eq]
        exact b.fragment_follows.map fun f g alike => alike.render dialect
      exact text.map fun r r' same => .statement same
  | insertRow i => exact (i.render_follows catalog dialect).map fun r r' same => .statement same
  | insertBatch i =>
      show Follows _ (Product.batch <$> i.render catalog dialect)
        (Product.batch <$> InsertBatch.render catalog.unconverted _ dialect)
      rw [i.render_blank]
      refine (Follows.image _ _).map fun b blank same => ?_
      rw [same]
      exact .batch b
  | insertMultiple i =>
      exact (i.render_follows catalog dialect).map fun r r' same => .statement same

/-- The statements that are executed follow those of the blank builder. -/
theorem statements_follows (b : Builder) :
    Follows (fun rs rs' => rs.map Rendered.shape = rs'.map Rendered.shape)
      (b.statements catalog dialect) (b.blank.statements catalog.unconverted dialect) := by
  refine (b.render_follows catalog dialect).bind fun p q alike => ?_
  cases alike with
  | statement same => exact .ok (congrArg (fun shape => [shape]) same)
  | batch b =>
      refine b.statements_follows.imp fun rs rs' related => ?_
      induction related with
      | nil => rfl
      | cons first _ ih => rw [List.map_cons, List.map_cons, first, ih]

/-- **Bound data stays out of the text.**  Two builders that differ only in bound data, none of
which a conversion raises at, fail with the same error or render to the same text with the same
names of parameters; and so do the statements that are executed. -/
theorem render_eq_of_blank_eq {b b' : Builder} (same : b.blank = b'.blank)
    (calm : ∀ e, b.statements catalog dialect ≠ .error (.raised e))
    (calm' : ∀ e, b'.statements catalog dialect ≠ .error (.raised e)) :
    Product.shape <$> b.render catalog dialect = Product.shape <$> b'.render catalog dialect ∧
      List.map Rendered.shape <$> b.statements catalog dialect =
        List.map Rendered.shape <$> b'.statements catalog dialect := by
  -- the statements are made from the product, so a product that raises makes them raise as well
  have render_calm : ∀ b : Builder, (∀ e, b.statements catalog dialect ≠ .error (.raised e)) →
      ∀ e, b.render catalog dialect ≠ .error (.raised e) := by
    intro b calm e raised
    refine calm e ?_
    rw [statements, raised]
    rfl
  constructor
  · have seen : ∀ p q : Product, p.Alike q → p.shape = q.shape := by
      rintro p q (same | b)
      · exact same
      · rfl
    have follows := (b.render_follows catalog dialect).imp seen
    rw [same] at follows
    exact follows.agree ((b'.render_follows catalog dialect).imp seen) (render_calm b calm)
      (render_calm b' calm')
  · have follows := b.statements_follows catalog dialect
    rw [same] at follows
    exact follows.agree (b'.statements_follows catalog dialect) calm calm'

/-- A statement that is restricted by a text and a nested statement, and limited. -/
def sample (text : String) (limit : Int) : Builder :=
  let users : Table := ⟨0, "users", none⟩
  let name : Expression := .column (.plain "name" users (some .ok))
  let nested : Query :=
    { kind := .select
      distinct := false
      columns := [name]
      from? := some ⟨.table users, none⟩
      criteria := [.mk .and name (.member false [.text text, .int limit]) []] }
  .numbered (.select
    { kind := .select
      distinct := false
      columns := [name]
      from? := some ⟨.subquery nested, some "u"⟩
      criteria := [.mk .and name (.compare .equal (.text text) true) []]
      limit? := some (.int limit) })

/-- Whatever the text holds, the sample renders to one text. -/
theorem render_eq_of_blank_eq_sample :
    (sample "x" 1).blank = (sample "y OR 1 = 1" 20).blank ∧
      Product.shape <$> (sample "x" 1).render {} .mysql =
        Product.shape <$> (sample "y OR 1 = 1" 20).render {} .mysql := by
  have calm : ∀ text limit, (∃ rs, (sample text limit).statements {} .mysql = .ok rs) →
      ∀ e, (sample text limit).statements {} .mysql ≠ .error (.raised e) := by
    rintro text limit ⟨rs, h⟩ e raised
    rw [h] at raised
    cases raised
  exact ⟨rfl, (render_eq_of_blank_eq {} .mysql rfl (calm _ _ ⟨_, rfl⟩) (calm _ _ ⟨_, rfl⟩)).1⟩

end Builder

end BoundSql
