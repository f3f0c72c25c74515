/-!
# Kinds of statements and mappings

Error messages and log events name the kind of statement being built, and some of them the kind
of column mapping at fault.  The names below are the ones they use.
-/

namespace BoundSql

/-- The kinds of statement a builder can be for. -/
inductive StatementKind where
  | select
  | selectDistinct
  | count
  | countDistinct
  | countFrom
  | delete
  | update
  | insert
  | insertBatch
  | insertMultiple
  | insertInto
  | insertSelect
deriving DecidableEq, Repr

/-- The name of a statement kind in messages and events. -/
def StatementKind.name : StatementKind → String
  | select => "select"
  | selectDistinct => "select_distinct"
  | count => "count"
  | countDistinct => "count_distinct"
  | countFrom => "count_from"
  | delete => "delete"
  | update => "update"
  | insert => "insert"
  | insertBatch => "insert_batch"
  | insertMultiple => "insert_multiple"
  | insertInto => "insert_into"
  | insertSelect => "insert_select"

/-- The kinds of column mapping, by where the column's value comes from. -/
inductive MappingKind where
  | plain
  | null
  | constant
  | stringConstant
  | property
  | propertyWhenPresent
  | value
  | valueWhenPresent
  | columnToColumn
deriving DecidableEq, Repr

/-- The name of a mapping kind in messages. -/
def MappingKind.name : MappingKind → String
  | plain => "ColumnMapping"
  | null => "NullMapping"
  | constant => "ConstantMapping"
  | stringConstant => "StringConstantMapping"
  | property => "PropertyMapping"
  | propertyWhenPresent => "PropertyWhenPresentMapping"
  | value => "ValueMapping"
  | valueWhenPresent => "ValueWhenPresentMapping"
  | columnToColumn => "ColumnToColumnMapping"

end BoundSql
