/-
Columns: a name, an abstract type, and the attributes set on it.

A column is declared by a `Declaration` and then changed by modifiers, each of which writes one
attribute.  Modifiers are data, so a column is a function of the list of modifiers applied.
-/
import TableDdl.Binary64
import TableDdl.Text.Blank
import TableDdl.Text.Literal

namespace TableDdl

/-- The abstract types, which every dialect maps to its own. -/
inductive ColumnType where
  | char | string | text | mediumText | longText | json
  | integer | bigInteger | mediumInteger | smallInteger | tinyInteger
  | float | double | decimal
  | boolean | enumeration
  | date | datetime | time | timestamp
  | binary
deriving DecidableEq, Repr

namespace ColumnType

def all : List ColumnType :=
  [char, string, text, mediumText, longText, json, integer, bigInteger, mediumInteger,
   smallInteger, tinyInteger, float, double, decimal, boolean, enumeration, date, datetime, time,
   timestamp, binary]

def name : ColumnType → String
  | char => "char"
  | string => "string"
  | text => "text"
  | mediumText => "medium_text"
  | longText => "long_text"
  | json => "json"
  | integer => "integer"
  | bigInteger => "big_integer"
  | mediumInteger => "medium_integer"
  | smallInteger => "small_integer"
  | tinyInteger => "tiny_integer"
  | float => "float"
  | double => "double"
  | decimal => "decimal"
  | boolean => "boolean"
  | enumeration => "enum"
  | date => "date"
  | datetime => "datetime"
  | time => "time"
  | timestamp => "timestamp"
  | binary => "binary"

end ColumnType

/-- The default of a column.  An expression is SQL text; everything else is a literal. -/
inductive DefaultValue where
  | boolean (value : Bool)
  | integer (value : Int64)
  | float (value : Binary64)
  | string (value : String)
  | expression (sql : String)
deriving DecidableEq

namespace DefaultValue

def plainText : DefaultValue → String
  | boolean value => if value then "1" else "0"
  | integer value => toString value.toInt
  | float value => value.text
  | string value => value
  | expression sql => sql

def sql : DefaultValue → String
  | expression sql => sql
  | value => Text.quoteLiteral value.plainText

end DefaultValue

/-- An index asked for on the column itself; without a name it gets the conventional one. -/
inductive IndexMarker where
  | unnamed
  | named (name : String)
deriving DecidableEq

namespace IndexMarker

def ofName? : Option String → IndexMarker
  | none => unnamed
  | some name => named name

def name? : IndexMarker → Option String
  | unnamed => none
  | named name => some name

end IndexMarker

structure Column where
  name : String
  type : ColumnType
  /-- For `char` and `string`. -/
  length : Option UInt32 := none
  /-- Digits in all, for `float`, `double` and `decimal`. -/
  total : Option UInt32 := none
  /-- Digits after the point. -/
  places : Option UInt32 := none
  allowed : List String := []
  unsigned : Bool := false
  nullable : Bool := false
  defaultValue : Option DefaultValue := none
  autoIncrement : Bool := false
  after : Option String := none
  primary : Option IndexMarker := none
  unique : Option IndexMarker := none
  index : Option IndexMarker := none
deriving DecidableEq

inductive ColumnModifier where
  | nullable
  | unsigned
  | autoIncrement
  | defaultValue (value : DefaultValue)
  | after (column : String)
  | primary (marker : IndexMarker)
  | unique (marker : IndexMarker)
  | index (marker : IndexMarker)
  | length (length : Option UInt32)
  | total (total : Option UInt32)
  | places (places : Option UInt32)
  | allowed (values : List String)
deriving DecidableEq

inductive ColumnFault where
  | blankName
  | noAllowedValues
deriving DecidableEq

def ColumnFault.message : ColumnFault → String
  | blankName => "column name is empty"
  | noAllowedValues => "enum column has no allowed values"

namespace Column

def modify (c : Column) : ColumnModifier → Column
  | .nullable => { c with nullable := true }
  | .unsigned => { c with unsigned := true }
  | .autoIncrement => { c with autoIncrement := true }
  | .defaultValue value => { c with defaultValue := some value }
  | .after column => { c with after := some column }
  | .primary marker => { c with primary := some marker }
  | .unique marker => { c with unique := some marker }
  | .index marker => { c with index := some marker }
  | .length length => { c with length := length }
  | .total total => { c with total := total }
  | .places places => { c with places := places }
  | .allowed values => { c with allowed := values }

def modifyAll (c : Column) (modifiers : List ColumnModifier) : Column := modifiers.foldl modify c

/-- What is wrong with the column.  A blank name is reported before missing values. -/
def fault? (c : Column) : Option ColumnFault :=
  if Text.isBlankText c.name then some .blankName
  else if c.type = .enumeration ∧ c.allowed = [] then some .noAllowedValues
  else none

end Column

inductive Declaration where
  | increments | bigIncrements
  | char (length : UInt32) | string (length : UInt32)
  | text | mediumText | longText | json
  | integer | bigInteger | mediumInteger | smallInteger | tinyInteger
  | unsignedInteger | unsignedBigInteger
  | float (total places : UInt32) | double | preciseDouble (total places : UInt32)
  | decimal (total places : UInt32)
  | boolean | enumeration (allowed : List String)
  | date | datetime | time | timestamp
  | binary
deriving DecidableEq

def Declaration.column (name : String) : Declaration → Column
  | increments => { name, type := .integer, unsigned := true, autoIncrement := true }
  | bigIncrements => { name, type := .bigInteger, unsigned := true, autoIncrement := true }
  | char length => { name, type := .char, length }
  | string length => { name, type := .string, length }
  | text => { name, type := .text }
  | mediumText => { name, type := .mediumText }
  | longText => { name, type := .longText }
  | json => { name, type := .json }
  | integer => { name, type := .integer }
  | bigInteger => { name, type := .bigInteger }
  | mediumInteger => { name, type := .mediumInteger }
  | smallInteger => { name, type := .smallInteger }
  | tinyInteger => { name, type := .tinyInteger }
  | unsignedInteger => { name, type := .integer, unsigned := true }
  | unsignedBigInteger => { name, type := .bigInteger, unsigned := true }
  | float total places => { name, type := .float, total, places }
  | double => { name, type := .double }
  | preciseDouble total places => { name, type := .double, total, places }
  | decimal total places => { name, type := .decimal, total, places }
  | boolean => { name, type := .boolean }
  | enumeration allowed => { name, type := .enumeration, allowed }
  | date => { name, type := .date }
  | datetime => { name, type := .datetime }
  | time => { name, type := .time }
  | timestamp => { name, type := .timestamp }
  | binary => { name, type := .binary }

end TableDdl
