import BoundSql.Assoc
import BoundSql.Error

/-!
# Database drivers

The driver of a database address is named by a family, or by a family and one of its members.  Among
the members of the family for database files there are other things besides drivers; an address that
names one of them is refused in the words for what it is.

This is the part of the stand-in that is data only.  The names and the refusals are those of the
library that opens connections, in a setting where no driver is installed besides the one for
database files; nothing is decided here that a statement about queries could depend on.

## Main definitions

* `DatabaseAddress.drivers` : the drivers of each family, and the libraries that are missing.
* `DatabaseAddress.fileMember?` : what else the family of database files contains.
* `DatabaseAddress.driverFault?` : why a driver cannot be used.
-/

namespace BoundSql.DatabaseAddress

/-- The drivers of the family that two databases share. -/
def mysqlDrivers : List (String × Option String) :=
  [("base", some "MySQLdb"), ("mysqldb", some "MySQLdb"), ("pymysql", some "pymysql"),
   ("mysqlconnector", some "mysql"), ("asyncmy", some "asyncmy"), ("aiomysql", some "aiomysql"),
   ("cymysql", some "cymysql"), ("pyodbc", some "pyodbc"),
   ("mariadbconnector", some "mariadb")]

/-- The members of each family that are drivers, each with the library that it needs, if that is
not installed.  A family named alone stands for its member `base`. -/
def drivers : List (String × List (String × Option String)) :=
  [("sqlite",
      [("base", none), ("pysqlite", none), ("aiosqlite", some "aiosqlite"),
       ("pysqlcipher", some "pysqlcipher3")]),
   ("postgresql",
      [("base", some "psycopg2"), ("psycopg2", some "psycopg2"), ("psycopg", some "psycopg"),
       ("psycopg_async", some "psycopg"), ("asyncpg", some "asyncpg"),
       ("pg8000", some "pg8000"), ("psycopg2cffi", some "psycopg2cffi")]),
   ("mysql", mysqlDrivers),
   ("mariadb", mysqlDrivers),
   ("oracle",
      [("base", some "cx_Oracle"), ("cx_oracle", some "cx_Oracle"),
       ("oracledb", some "oracledb")]),
   ("mssql",
      [("base", some "pyodbc"), ("pyodbc", some "pyodbc"), ("pymssql", some "pymssql"),
       ("aioodbc", some "aioodbc")])]

/-- The modules among the members of the family of database files that are no drivers. -/
def fileModules : List String := ["dml", "json"]

/-- The types among the members of the family, each with the name that it gives itself. -/
def fileTypes : List (String × String) :=
  [("dialect", "SQLiteDialect_pysqlite"), ("__class__", "module")] ++
    (["BLOB", "BOOLEAN", "CHAR", "DATE", "DATETIME", "DECIMAL", "FLOAT", "INTEGER", "JSON",
      "JSONB", "NUMERIC", "REAL", "SMALLINT", "TEXT", "TIME", "TIMESTAMP", "VARCHAR",
      "Insert"].map
        fun name => (name, name))

/-- The values among the members of the family, by the names of their types. -/
def fileValues : List (String × List String) :=
  [("function", ["insert"]),
   ("tuple", ["__all__"]),
   ("str", ["__name__", "__package__", "__file__", "__cached__"]),
   ("NoneType", ["__doc__"]),
   ("list", ["__path__"]),
   ("dict", ["__dict__", "__builtins__", "__annotations__"]),
   ("ModuleSpec", ["__spec__"]),
   ("SourceFileLoader", ["__loader__"]),
   ("method-wrapper", ["__init__", "__repr__", "__str__", "__hash__", "__eq__", "__ne__",
      "__lt__", "__le__", "__gt__", "__ge__", "__getattribute__", "__setattr__",
      "__delattr__"]),
   ("builtin_function_or_method", ["__dir__", "__format__", "__getstate__",
      "__init_subclass__", "__new__", "__reduce__", "__reduce_ex__", "__sizeof__",
      "__subclasshook__"])]

/-- A member of the family of database files that is no driver, as messages describe it. -/
def fileMember? (name : String) : Option String :=
  if fileModules.contains name then some ("module 'sqlalchemy.dialects.sqlite." ++ name ++ "'")
  else
    match Assoc.get? name fileTypes with
    | some type => some ("type object '" ++ type ++ "'")
    | none =>
      (fileValues.find? fun entry => entry.2.contains name).map fun entry =>
        "'" ++ entry.1 ++ "' object"

/-- What is wrong with a member of a family, if anything is: its library is not installed, or its
name stands for something else or for nothing. -/
def memberFault? (family member : String) : Option AddressFault :=
  match Assoc.get? member ((Assoc.get? family drivers).getD []) with
  | some library? => library?.map .driverMissing
  | none =>
    let what? := if family = "sqlite" then fileMember? member else none
    some ((what?.map .notADriver).getD (.unknownPlugin "dialects" (family ++ "." ++ member)))

/-- Why a driver cannot be used, if it cannot.  It is named by a family, or by a family and one
of its members with the sign `+` between them. -/
def driverFault? (driver : String) : Option AddressFault :=
  match driver.splitOn "+" with
  | [family] =>
    if (Assoc.get? family drivers).isSome then memberFault? family "base"
    else some (.unknownPlugin "dialects" family)
  | [family, member] => memberFault? family member
  | _ => some .severalMembers

end BoundSql.DatabaseAddress
