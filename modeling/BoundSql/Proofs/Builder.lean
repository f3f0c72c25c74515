import BoundSql.Delete
import BoundSql.Insert.Query
import BoundSql.Insert.Row
import BoundSql.Insert.Values
import BoundSql.Update

/-!
# Builders

Statements of all kinds with their sources and records in place, so that a theorem can speak of
every builder at once.  They fall into two families: those whose values are supplied by calls, which
are numbered in order of the text, and those whose values are read from records, which are named by
property.

The two families are kept apart because what is proved of them differs.  The parameters of a
numbered statement are those of a text, and no two of them have a name in common; so a theorem about
them is a theorem about `Fragment`, whatever the statement is, and it is enough to know that the
statement is its text written into a fresh context (`NumberedBuilder.render_eq`).  The parameters of
a statement for records depend on the records, and not on the text alone: of these `RecordInsert` is
the general form.

A batch renders to one text and is expanded later, so a builder has two outcomes: `Builder.render`,
the statement or the batch, and `Builder.statements`, what is executed.  An error can come from
either of them, and a theorem about errors has to speak of the second, since a batch that renders
can still fail when its records are read.
-/

namespace BoundSql

/-- The builders whose values are supplied by calls. -/
inductive NumberedBuilder where
  | select (q : Query)
  | delete (d : Delete)
  | update (u : Update)
  | insertValues (i : InsertValues)
  | insertSelect (i : InsertSelect Query)

namespace NumberedBuilder

/-- The text of the statement, before a dialect is chosen. -/
def fragment : NumberedBuilder → Except Error Fragment
  | select q => q.fragment
  | delete d => d.fragment
  | update u => u.fragment
  | insertValues i => i.fragment
  | insertSelect i => i.fragment

/-- The statement in a dialect. -/
def render (dialect : Dialect) : NumberedBuilder → Except Error Rendered
  | select q => q.render dialect
  | delete d => d.render dialect
  | update u => u.render dialect
  | insertValues i => i.render dialect
  | insertSelect i => i.render dialect

/-- A numbered statement is its text, written into a fresh context. -/
theorem render_eq (b : NumberedBuilder) (dialect : Dialect) :
    b.render dialect = (fun f : Fragment => f.render dialect) <$> b.fragment := by
  cases b <;> rfl

end NumberedBuilder

/-- A builder of any kind.  The queries and the records that it refers to are in place: a theorem
about a builder is about what its references stand for when it is rendered. -/
inductive Builder where
  | numbered (b : NumberedBuilder)
  | insertRow (i : InsertRow Record)
  | insertBatch (i : InsertBatch Record)
  | insertMultiple (i : InsertMultiple Record)

/-- What a builder renders to: a statement, or a batch. -/
inductive Product where
  | statement (r : Rendered)
  | batch (b : Batch Record)

/-- The statements that are executed.  For a batch these are one for each record, and reading a
record can fail. -/
def Product.statements : Product → Except Error (List Rendered)
  | statement r => .ok [r]
  | batch b => b.statements

namespace Builder

/-- The statement or the batch, in a dialect. -/
def render (catalog : Catalog) (dialect : Dialect) : Builder → Except Error Product
  | numbered b => Product.statement <$> b.render dialect
  | insertRow i => Product.statement <$> i.render catalog dialect
  | insertBatch i => Product.batch <$> i.render catalog dialect
  | insertMultiple i => Product.statement <$> i.render catalog dialect

/-- The statements that are executed, a batch expanded. -/
def statements (catalog : Catalog) (dialect : Dialect) (b : Builder) :
    Except Error (List Rendered) := do
  let product ← b.render catalog dialect
  product.statements

end Builder

end BoundSql
