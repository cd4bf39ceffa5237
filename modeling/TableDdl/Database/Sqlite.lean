/-
SQLite as a database: an executor and an introspector over one connection.

In a dry run statements are printed and not sent, while queries still are.  SQLite refuses to
drop a column that an index covers, so the indexes on a removed column are dropped first.
-/
import TableDdl.Database.Printer

namespace TableDdl

/-- A connection to SQLite.  Failures carry the message of the database. -/
structure SqliteConnection (σ : Type) where
  query : String → List String → σ → Except String (List Row) × σ
  execute : String → σ → Except String Unit × σ
  /-- The columns of a table, none when it does not exist. -/
  columns : String → σ → Except String (List LiveColumn) × σ
  /-- The indexes made by hand that cover a column of a table. -/
  indexesOn : String → String → σ → Except String (List String) × σ

namespace SqliteConnection

variable {σ α : Type}

/-- Asks the connection, and turns its message into an error. -/
def ask (request : σ → Except String α × σ) (error : String → SchemaError) : Run Output σ α :=
  fun s =>
    let (result, s') := request s
    ⟨result.mapError error, [], s'⟩

def logged (e : Event) : Run Output σ Unit := Run.note (.event e)

/-- A name between double quotes, with the quotes inside it doubled. -/
def quotedName (name : String) : String :=
  "\"" ++ String.ofList (Text.doubled '"' name.toList) ++ "\""

/-- The statement that lists the columns of a table. -/
def tableInfo (table : String) : String := "pragma table_info(" ++ quotedName table ++ ")"

def describe (c : SqliteConnection σ) (table : String) : Run Output σ (List LiveColumn) := do
  logged (.describing (tableInfo table))
  let columns ← ask (c.columns table) .introspection
  if columns.isEmpty then Run.fail (.introspection ("table " ++ table ++ " does not exist"))
  else return columns

/-- The indexes that cover any of the columns. -/
def indexesOnAll (c : SqliteConnection σ) (table : String) :
    List String → Run Output σ (List String)
  | [] => return []
  | column :: rest => do
      let first ← ask (c.indexesOn table column) .introspection
      let others ← c.indexesOnAll table rest
      return first ++ others

def alter (c : SqliteConnection σ) (diff : TableDiff) : Run Output σ (List String) := do
  let indexes ← c.indexesOnAll diff.table (diff.removed.map (·.1))
  let drops := indexes.eraseDups.map fun index => "drop index " ++ quotedName index
  return drops ++ diff.statements .sqlite

def introspector (c : SqliteConnection σ) : Introspector σ := ⟨c.describe, c.alter⟩

def executor (c : SqliteConnection σ) (dryRun : Bool) : Executor σ where
  query sql bindings := do
    logged (.runningQuery sql bindings)
    ask (c.query sql bindings) (.execution sql)
  execute sql :=
    if dryRun then Run.note (.line (printedStatement sql))
    else ask (c.execute sql) (.execution sql)
  introspector := some c.introspector

end SqliteConnection

end TableDdl
