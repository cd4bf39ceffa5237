/-
What a statement depends on besides the blueprint: the connection it is written for, and the
grammar, which is a dialect with a table prefix.

The prefix of the grammar is the one that counts.  `Connection.grammar` carries the connection's
own.
-/
import TableDdl.Dialect
import TableDdl.Identifier
import TableDdl.SchemaError

namespace TableDdl

structure Connection where
  dialect : Dialect
  /-- The default character set of created tables. -/
  charset : Option String := none
  /-- The default collation of created tables. -/
  collation : Option String := none
  /-- The database asked when a table or its columns are looked up. -/
  database : Option String := none
  tablePrefix : String := ""
deriving DecidableEq

structure Grammar where
  dialect : Dialect
  tablePrefix : String := ""
deriving DecidableEq

def Connection.grammar (c : Connection) : Grammar := ⟨c.dialect, c.tablePrefix⟩

/-- The dialect an identifier selects, or an error that carries the identifier as written. -/
def Dialect.resolve (identifier : String) : Except SchemaError Dialect :=
  match Dialect.ofIdentifier? identifier with
  | some dialect => .ok dialect
  | none => .error (.unsupportedDialect identifier)

namespace Grammar

def quoteChar (g : Grammar) : Char := g.dialect.quoteChar

def quote (g : Grammar) (name : String) : String :=
  String.ofList (Identifier.quoted g.quoteChar name.toList)

/-- A quoted reference, which may be dotted or aliased. -/
def reference (g : Grammar) (s : String) : String :=
  String.ofList (Identifier.reference g.quoteChar g.tablePrefix.toList s.toList)

def tableName (g : Grammar) (table : String) : String := g.tablePrefix ++ table

def tableReference (g : Grammar) (table : String) : String := g.reference (g.tableName table)

def columnList (g : Grammar) (columns : List String) : String :=
  ", ".intercalate (columns.map g.reference)

end Grammar
end TableDdl
