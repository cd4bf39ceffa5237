/-
Queries that look up a table and its columns in the catalogue of the database.
-/
import TableDdl.Connection
import TableDdl.Text.Literal

namespace TableDdl

/-- A query and the values of its `?` marks, in order. -/
structure Query where
  sql : String
  bindings : List String := []
deriving DecidableEq

namespace Grammar

/-- A query with some result exactly when the table exists. -/
def tableQuery (g : Grammar) (table : String) (database : Option String) : Query :=
  match g.dialect with
  | .mysql =>
      { sql := "select * from information_schema.tables where table_schema = ? and table_name = ?"
        bindings := [database.getD "", g.tableName table] }
  | .postgres =>
      { sql := "select * from information_schema.tables where table_name = ?"
        bindings := [g.tableName table] }
  | .sqlServer =>
      { sql := "select * from sysobjects where type = 'U' and name = ?"
        bindings := [g.tableName table] }
  | .sqlite =>
      { sql := "select * from sqlite_master where type = 'table' and name = ?"
        bindings := [g.tableName table] }

/-- A name in which two underscores stand for each dot. -/
def undotted (s : String) : String :=
  String.ofList (s.toList.flatMap fun c => if c = '.' then ['_', '_'] else [c])

/-- A query whose first result column holds the names of the table's columns. -/
def columnQuery (g : Grammar) (table : String) (database : Option String) : Query :=
  match g.dialect with
  | .mysql =>
      { sql := "select column_name from information_schema.columns " ++
          "where table_schema = ? and table_name = ?"
        bindings := [database.getD "", g.tableName table] }
  | .postgres =>
      { sql := "select column_name from information_schema.columns where table_name = ?"
        bindings := [g.tableName table] }
  | .sqlServer =>
      { sql := "select col.name from sys.columns as col " ++
          "join sys.objects as obj on col.object_id = obj.object_id " ++
          "where obj.type = 'U' and obj.name = ?"
        bindings := [g.tableName table] }
  | .sqlite =>
      { sql := "select name from pragma_table_info(" ++
          Text.quoteLiteral (undotted (g.tableName table)) ++ ")" }

end Grammar
end TableDdl
