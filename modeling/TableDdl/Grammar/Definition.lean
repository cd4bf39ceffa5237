/-
Column definitions: the quoted name, the native type, and the clauses that the attributes of the
column call for, in the order of the dialect.
-/
import TableDdl.Grammar.NativeType

namespace TableDdl

/-- The clauses that may follow the type of a column. -/
inductive Clause where
  | unsigned
  | nullable
  | default
  | increment
  | after
deriving DecidableEq, Repr

def Clause.name : Clause → String
  | unsigned => "unsigned"
  | nullable => "nullable"
  | default => "default"
  | increment => "increment"
  | after => "after"

namespace Dialect

/-- The clauses the dialect knows, in the order in which they are written. -/
def clauses : Dialect → List Clause
  | mysql => [.unsigned, .nullable, .default, .increment, .after]
  | postgres | sqlServer => [.increment, .nullable, .default]
  | sqlite => [.nullable, .default, .increment]

/-- The types that count up by themselves. -/
def serialTypes : Dialect → List ColumnType
  | mysql => [.bigInteger, .integer, .mediumInteger, .smallInteger, .tinyInteger]
  | postgres | sqlServer | sqlite => [.bigInteger, .integer]

/-- What makes a column count up.  It is the primary key as well. -/
def incrementClause : Dialect → String
  | mysql => " auto_increment primary key"
  | postgres => " primary key"
  | sqlServer => " identity primary key"
  | sqlite => " primary key autoincrement"

end Dialect

/-- Whether a column accepts no value. -/
def nullability (nullable : Bool) : String := if nullable then " null" else " not null"

namespace Grammar

/-- Whether the column counts up by itself in this dialect. -/
def isSerial (g : Grammar) (c : Column) : Bool :=
  c.autoIncrement && g.dialect.serialTypes.contains c.type

/-- The text of one clause, if the dialect writes that clause and the column calls for it. -/
def clause? (g : Grammar) (clause : Clause) (c : Column) : Option String :=
  if clause ∈ g.dialect.clauses then
    match clause with
    | .unsigned => if c.unsigned then some " unsigned" else none
    | .nullable => if g.isSerial c then none else some (nullability c.nullable)
    | .default => c.defaultValue.map fun value => " default " ++ value.sql
    | .increment => if g.isSerial c then some g.dialect.incrementClause else none
    | .after => c.after.map fun column => " after " ++ g.reference column
  else none

/-- The clauses of a column, one after the other. -/
def clauses (g : Grammar) (c : Column) : String :=
  String.join (g.dialect.clauses.filterMap fun clause => g.clause? clause c)

def definition (g : Grammar) (c : Column) : String :=
  g.reference c.name ++ " " ++ g.nativeType c ++ g.clauses c

end Grammar
end TableDdl
