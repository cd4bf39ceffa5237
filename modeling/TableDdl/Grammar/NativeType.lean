/-
The native type of a column in each dialect.

A dialect that lacks a type takes the nearest one it has.  Lengths and digit counts left open
get a default, except in SQLite, which has neither.
-/
import TableDdl.Connection

namespace TableDdl

/-- Type words with their parameters. -/
def sizedType (word : String) (size : Option UInt32) : String :=
  word ++ "(" ++ toString (size.getD 255).toNat ++ ")"

def numericType (word : String) (total places : UInt32) : String :=
  word ++ "(" ++ toString total.toNat ++ ", " ++ toString places.toNat ++ ")"

/-- The allowed values of a column as literals. -/
def Column.allowedList (c : Column) : String :=
  ", ".intercalate (c.allowed.map Text.quoteLiteral)

namespace Column

def mysqlType (c : Column) : String :=
  match c.type with
  | .char => sizedType "char" c.length
  | .string => sizedType "varchar" c.length
  | .text => "text"
  | .mediumText => "mediumtext"
  | .longText => "longtext"
  | .json => "json"
  | .integer => "int"
  | .bigInteger => "bigint"
  | .mediumInteger => "mediumint"
  | .smallInteger => "smallint"
  | .tinyInteger => "tinyint"
  | .float => numericType "float" (c.total.getD 8) (c.places.getD 2)
  | .double =>
      match c.total, c.places with
      | some total, some places =>
          if 0 < total ∧ 0 < places then numericType "double" total places else "double"
      | _, _ => "double"
  | .decimal => numericType "decimal" (c.total.getD 8) (c.places.getD 2)
  | .boolean => "tinyint(1)"
  | .enumeration => "enum(" ++ c.allowedList ++ ")"
  | .date => "date"
  | .datetime => "datetime"
  | .time => "time"
  | .timestamp => if c.nullable then "timestamp" else "timestamp default 0"
  | .binary => "blob"

/-- Here `name` is the quoted reference to the column, for the check on an enumeration. -/
def postgresType (c : Column) (name : String) : String :=
  match c.type with
  | .char => sizedType "char" c.length
  | .string => sizedType "varchar" c.length
  | .text | .mediumText | .longText => "text"
  | .json => "json"
  | .integer => if c.autoIncrement then "serial" else "integer"
  | .mediumInteger => "integer"
  | .bigInteger => if c.autoIncrement then "bigserial" else "bigint"
  | .smallInteger | .tinyInteger => "smallint"
  | .float => "real"
  | .double => "double precision"
  | .decimal => numericType "decimal" (c.total.getD 8) (c.places.getD 2)
  | .boolean => "boolean"
  | .enumeration => "varchar(255) check (" ++ name ++ " in (" ++ c.allowedList ++ "))"
  | .date => "date"
  | .datetime | .timestamp => "timestamp"
  | .time => "time"
  | .binary => "bytea"

def sqlServerType (c : Column) : String :=
  match c.type with
  | .char => sizedType "nchar" c.length
  | .string => sizedType "nvarchar" c.length
  | .text | .mediumText | .longText | .json => "nvarchar(max)"
  | .integer | .mediumInteger => "int"
  | .bigInteger => "bigint"
  | .smallInteger => "smallint"
  | .tinyInteger => "tinyint"
  | .float | .double => "float"
  | .decimal => numericType "decimal" (c.total.getD 8) (c.places.getD 2)
  | .boolean => "bit"
  | .enumeration => "nvarchar(255)"
  | .date => "date"
  | .datetime | .timestamp => "datetime"
  | .time => "time"
  | .binary => "varbinary(max)"

def sqliteType (c : Column) : String :=
  match c.type with
  | .char | .string | .enumeration => "varchar"
  | .text | .mediumText | .longText | .json => "text"
  | .integer | .bigInteger | .mediumInteger | .smallInteger | .tinyInteger => "integer"
  | .float | .double | .decimal => "float"
  | .boolean => "tinyint"
  | .date => "date"
  | .datetime | .timestamp => "datetime"
  | .time => "time"
  | .binary => "blob"

end Column

/-- The native type of a column. -/
def Grammar.nativeType (g : Grammar) (c : Column) : String :=
  match g.dialect with
  | .mysql => c.mysqlType
  | .postgres => c.postgresType (g.reference c.name)
  | .sqlServer => c.sqlServerType
  | .sqlite => c.sqliteType

end TableDdl
