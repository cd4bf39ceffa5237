/-
What can go wrong between a dialect name and a statement that ran.
-/
import TableDdl.Column

namespace TableDdl

inductive SchemaError where
  /-- No dialect goes by this identifier. -/
  | unsupportedDialect (identifier : String)
  /-- The database refused a statement. -/
  | execution (statement message : String)
  /-- A command has to read the live table and there is nothing to read it from. -/
  | introspectionUnavailable (command : String)
  /-- The live table could not be read. -/
  | introspection (message : String)
  | invalidColumn (table column : String) (fault : ColumnFault)
  | columnNotFound (table column : String)
deriving DecidableEq

namespace SchemaError

def message : SchemaError → String
  | unsupportedDialect identifier => "Unsupported schema grammar: " ++ identifier
  | execution statement message => "Failed to execute '" ++ statement ++ "': " ++ message
  | introspectionUnavailable command =>
      "Command '" ++ command ++ "' requires schema introspection, but no introspector is available"
  | introspection message => "Introspection error: " ++ message
  | invalidColumn table column fault =>
      "Invalid column '" ++ column ++ "' on table '" ++ table ++ "': " ++ fault.message
  | columnNotFound table column => "Column '" ++ column ++ "' not found on table '" ++ table ++ "'"

end SchemaError
end TableDdl
