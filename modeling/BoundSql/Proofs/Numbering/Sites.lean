import BoundSql.Proofs.Builder
import BoundSql.Proofs.Nesting

/-!
# Binding sites

A *binding site* is a place of a builder where a value is supplied: a value of a condition that is
written, a value that a column is set to, or a number that limits the rows.  The value is bound as
the expression demands that it was supplied for.

`NumberedBuilder.sites` lists the sites of a builder in order of the text: what columns are set to
comes first, then the source behind `FROM`, then every join with its source and its criteria, then
the restriction, the limit and the offset.  `NumberedBuilder.texts` lists the texts that the builder
takes over: names, schemas, aliases, qualifiers and constants.

Neither mentions how a statement is written; that they agree with it is proved in
`BoundSql.Proofs.Numbering`.  For the same reason `BindingSite.Supplies` does not mention the
conversion that is used in writing.  It is a relation with three cases: a null is bound as null,
whatever the column, and any other value is converted if the column has a conversion, and bound as
it is otherwise.

Criteria that decline have no sites, and a group counts whether or not the criterion that it belongs
to declines.  That is a decision of the listing and not a consequence of anything; it is right
because the group of a criterion that declines is written in its place.
-/

namespace BoundSql

/-! ### What a site supplies -/

/-- A place where a value is supplied, for an expression or for none. -/
structure BindingSite where
  expression? : Option Expression
  value : Value

/-- The column that a conversion comes from: a function has that of its argument, a count and
the projection of all columns have none. -/
def Expression.baseColumn? : Expression → Option Column
  | column c => some c
  | apply _ argument _ => argument.baseColumn?
  | substring argument _ _ _ => argument.baseColumn?
  | all _ | count _ _ _ | countAll _ => none

namespace BindingSite

/-- The conversion of the values supplied at the site. -/
def converter? (site : BindingSite) : Option Converter := do
  let expression ← site.expression?
  let column ← expression.baseColumn?
  column.converter?

/-- The value that is bound for the site: null as it is, any other value converted if there is
a conversion. -/
inductive Supplies (site : BindingSite) : Value → Prop
  | null : site.value = .null → Supplies site .null
  | asGiven : site.converter? = none → Supplies site site.value
  | converted {f : Converter} {v : Value} : site.value ≠ .null → site.converter? = some f →
      f site.value = .ok v → Supplies site v

end BindingSite

/-- A column converts the values supplied for it.  The site need not be one of the column, as long
as it has the same conversion: this is what a function of a column needs. -/
theorem Column.supplies_of_convert {c : Column} {site : BindingSite} {v : Value}
    (converter : site.converter? = c.converter?) (h : c.convert site.value = .ok v) :
    site.Supplies v := by
  unfold Column.convert at h
  split at h
  case isTrue absent =>
    cases h
    rw [Value.isNull_eq_true_iff] at absent
    rw [absent]
    exact .null absent
  case isFalse present =>
    have value : site.value ≠ .null := fun null => present (Value.isNull_eq_true_iff.mpr null)
    cases hf : c.converter? with
    | none =>
        rw [hf] at h converter
        cases h
        exact .asGiven converter
    | some f =>
        rw [hf] at h converter
        exact .converted value converter (mapError_eq_ok_iff.mp h)

/-- An expression converts the values supplied for it.  By induction over the expression, functions
hand a value on to their argument and counts leave it as it is. -/
theorem Expression.supplies_of_convert {e : Expression} {v w : Value}
    (h : e.convert v = .ok w) : (⟨some e, v⟩ : BindingSite).Supplies w := by
  suffices general : ∀ site : BindingSite, site.value = v →
      site.converter? = e.baseColumn?.bind (·.converter?) → site.Supplies w from
    general ⟨some e, v⟩ rfl rfl
  rintro site rfl converter
  induction e with
  | column c => exact Column.supplies_of_convert converter h
  | apply f argument alias? ih => exact ih h converter
  | substring argument offset length alias? ih => exact ih h converter
  | all table => cases h; exact .asGiven converter
  | count argument distinct alias? ih => cases h; exact .asGiven converter
  | countAll alias? => cases h; exact .asGiven converter

/-! ### The sites of a builder -/

/-- The values of a condition, in order.  A comparison with null is a test of its own and supplies
none, and neither does a comparison with another expression. -/
def Condition.suppliedValues : Condition → List Value
  | null _ | equalTo _ => []
  | compare _ value _ => [value]
  | between _ low high => [low, high]
  | member _ values => values

mutual

/-- The sites of a criterion and its group; a condition that declines has none. -/
def Criterion.sites : Criterion → List BindingSite
  | .mk _ column condition group =>
    (if condition.renders then condition.suppliedValues.map fun v => ⟨some column, v⟩ else []) ++
      Criterion.listSites group

/-- The sites of a list of criteria. -/
def Criterion.listSites : List Criterion → List BindingSite
  | [] => []
  | c :: cs => Criterion.sites c ++ Criterion.listSites cs

end

/-- The site of a mapping that supplies a value and does not decline. -/
def Mapping.sites (m : Mapping) : List BindingSite :=
  if m.declines then [] else m.value?.toList.map fun v => ⟨some m.column, v⟩

/-- The site of a number that limits the rows. -/
def boundSites (bound? : Option Value) : List BindingSite := bound?.toList.map fun v => ⟨none, v⟩

/-- The sites that a level of a select statement has itself.  Those of its sources come in between,
which is what a visit says. -/
def Visit.sites : Visit BindingSite where
  join := fun j => Criterion.listSites j.criteria
  tail := fun q =>
    Criterion.listSites q.criteria ++ boundSites q.limit? ++ boundSites q.offset?

/-- The sites of a select statement, on all of its levels. -/
def Select.sites (q : Query) : List BindingSite := q.visit Visit.sites

/-- The sites of a builder, in order of the text. -/
def NumberedBuilder.sites : NumberedBuilder → List BindingSite
  | select q => q.sites
  | delete d => Criterion.listSites d.criteria
  | update u => u.mappings.flatMap Mapping.sites ++ Criterion.listSites u.criteria
  | insertValues i => i.mappings.flatMap Mapping.sites
  | insertSelect i => (i.query?.map Select.sites).getD []

/-! ### The texts of a builder -/

/-- The texts of a table. -/
def Table.texts (t : Table) : List String := t.name :: t.schema?.toList

/-- The texts of a column. -/
def Column.texts (c : Column) : List String := c.name :: (c.alias?.toList ++ c.qualifier?.toList)

/-- The texts of an expression. -/
def Expression.texts : Expression → List String
  | column c => c.texts
  | all _ => []
  | apply _ argument alias? => argument.texts ++ alias?.toList
  | substring argument _ _ alias? => argument.texts ++ alias?.toList
  | count argument _ alias? => argument.texts ++ alias?.toList
  | countAll alias? => alias?.toList

/-- The texts of a condition. -/
def Condition.texts : Condition → List String
  | equalTo right => right.texts
  | _ => []

mutual

/-- The texts of a criterion and its group. -/
def Criterion.texts : Criterion → List String
  | .mk _ column condition group =>
    column.texts ++ condition.texts ++ Criterion.listTexts group

/-- The texts of a list of criteria. -/
def Criterion.listTexts : List Criterion → List String
  | [] => []
  | c :: cs => Criterion.texts c ++ Criterion.listTexts cs

end

/-- The texts of a mapping: those of its column and its constant, if it has one. -/
def Mapping.texts (m : Mapping) : List String :=
  m.column.texts ++
    match m.origin with
    | .constant sql => [sql]
    | .stringConstant text => [text]
    | .expression e => e.texts
    | _ => []

/-- The texts of a source that is no select statement. -/
def Source.ownTexts : Source → List String
  | .table t => t.texts
  | .named schema? name => name :: schema?.toList
  | _ => []

/-- The texts of one level of a select statement. -/
def Select.ownTexts (q : Query) : List String :=
  q.columns.flatMap Expression.texts ++ (q.from?.bind (·.alias?)).toList ++
    (q.joins.flatMap fun j => j.alias?.toList ++ Criterion.listTexts j.criteria) ++
    Criterion.listTexts q.criteria ++ q.groupBy.flatMap Expression.texts ++
    q.orderBy.flatMap Expression.texts

/-- The texts that a level of a select statement has itself. -/
def Visit.texts : Visit String where
  leaf := Source.ownTexts
  head := Select.ownTexts

/-- The texts of a select statement, on all of its levels. -/
def Select.texts (q : Query) : List String := q.visit Visit.texts

/-- The texts of a builder. -/
def NumberedBuilder.texts : NumberedBuilder → List String
  | select q => q.texts
  | delete d => d.table.texts ++ Criterion.listTexts d.criteria
  | update u =>
    u.table.texts ++ u.mappings.flatMap Mapping.texts ++ Criterion.listTexts u.criteria
  | insertValues i => i.table.texts ++ i.mappings.flatMap Mapping.texts
  | insertSelect i =>
    i.table.texts ++ i.columns.flatMap Expression.texts ++ (i.query?.map Select.texts).getD []

end BoundSql
