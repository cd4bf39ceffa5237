/-
Changes to the columns of a table that exists, and the statements that make them.

A diff holds the table as it was found beside what is to become of its columns.  Renames come
before removals, each in the order asked for.  Its table name already carries the prefix, so the
statements quote it under a grammar that has none.
-/
import TableDdl.Connection

namespace TableDdl

/-- A column as the database reports it. -/
structure LiveColumn where
  name : String
  nativeType : String
  nullable : Bool := true
  /-- The default as an SQL expression. -/
  defaultSql : Option String := none
  primaryKey : Bool := false
deriving DecidableEq

def LiveColumn.renamed (c : LiveColumn) (new : String) : LiveColumn :=
  { c with name := new }

structure TableDiff where
  table : String
  /-- The columns of the table as it stands. -/
  columns : List LiveColumn
  /-- Old names, each with the column under its new name. -/
  renamed : List (String × LiveColumn) := []
  /-- Names to be removed, each with the column found under it. -/
  removed : List (String × LiveColumn) := []
deriving DecidableEq

namespace TableDiff

def isEmpty (d : TableDiff) : Bool := d.renamed.isEmpty && d.removed.isEmpty

/-- The full definition that MySQL asks for when a column is renamed. -/
def restated (c : LiveColumn) : String :=
  c.nativeType ++ (if c.nullable then "" else " not null") ++
    (match c.defaultSql with
      | none => ""
      | some sql => " default " ++ sql)

def renameStatement (dialect : Dialect) (d : TableDiff) (old : String) (new : LiveColumn) :
    String :=
  let bare : Grammar := { dialect }
  match dialect with
  | .mysql =>
      "alter table " ++ bare.reference d.table ++ " change " ++ bare.reference old ++ " " ++
        bare.reference new.name ++ " " ++ restated new
  | .postgres | .sqlite =>
      "alter table " ++ bare.reference d.table ++ " rename column " ++ bare.reference old ++
        " to " ++ bare.reference new.name
  | .sqlServer =>
      "sp_rename '" ++ Text.escapeQuotes d.table ++ "." ++ Text.escapeQuotes old ++ "', '" ++
        Text.escapeQuotes new.name ++ "', 'COLUMN'"

def removeStatement (dialect : Dialect) (d : TableDiff) (column : String) : String :=
  let bare : Grammar := { dialect }
  "alter table " ++ bare.reference d.table ++ " drop column " ++ bare.reference column

/-- The statements that apply the diff. -/
def statements (dialect : Dialect) (d : TableDiff) : List String :=
  d.renamed.map (fun (old, new) => d.renameStatement dialect old new) ++
    d.removed.map (fun (column, _) => d.removeStatement dialect column)

end TableDiff
end TableDdl
