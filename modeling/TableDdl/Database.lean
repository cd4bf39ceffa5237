/-
The database as the library sees it: something that runs statements, and that may be able to
describe its tables.

Both are arbitrary step functions over a state.  What they say while they work is output, and
the library keeps it in its own trace beside a note of each call it made.
-/
import TableDdl.Event
import TableDdl.Run
import TableDdl.TableDiff

namespace TableDdl

/-- What a collaborator may show: a log record, or a line of text. -/
inductive Output where
  | event (event : Event)
  | line (text : String)
deriving DecidableEq

/-- What happens while a blueprint is compiled and run. -/
inductive Activity where
  | event (event : Event)
  | described (table : String)
  | altered (diff : TableDiff)
  | queried (sql : String) (bindings : List String)
  | executed (sql : String)
  | output (output : Output)
deriving DecidableEq

namespace Activity

/-- The log record, whoever wrote it. -/
def event? : Activity → Option Event
  | event e | output (.event e) => some e
  | _ => none

/-- What is shown to the user: log records and lines of text. -/
def output? : Activity → Option Output
  | event e => some (.event e)
  | output o => some o
  | _ => none

end Activity

/-- A result row; a missing cell is SQL's null. -/
abbrev Row := List (Option String)

/-- Describes live tables, and turns a diff into statements. -/
structure Introspector (σ : Type) where
  describe : String → Run Output σ (List LiveColumn)
  alter : TableDiff → Run Output σ (List String)

/-- Runs queries and statements.  It may come with an introspector. -/
structure Executor (σ : Type) where
  query : String → List String → Run Output σ (List Row)
  execute : String → Run Output σ Unit
  introspector : Option (Introspector σ) := none

variable {σ : Type}

def log (e : Event) : Run Activity σ Unit := Run.note (.event e)

namespace Introspector

def describeTable (i : Introspector σ) (table : String) : Run Activity σ (List LiveColumn) := do
  Run.note (.described table)
  (i.describe table).mapTrace .output

def alterTable (i : Introspector σ) (diff : TableDiff) : Run Activity σ (List String) := do
  Run.note (.altered diff)
  (i.alter diff).mapTrace .output

/-- The first column of a table with exactly this name.  The table is described anew. -/
def column (i : Introspector σ) (table name : String) : Run Activity σ LiveColumn := do
  let columns ← i.describeTable table
  match columns.find? (·.name == name) with
  | some column => Pure.pure column
  | none => Run.fail (.columnNotFound table name)

end Introspector

namespace Executor

def runQuery (e : Executor σ) (sql : String) (bindings : List String) :
    Run Activity σ (List Row) := do
  Run.note (.queried sql bindings)
  (e.query sql bindings).mapTrace .output

def runStatement (e : Executor σ) (sql : String) : Run Activity σ Unit := do
  Run.note (.executed sql)
  (e.execute sql).mapTrace .output

end Executor
end TableDdl
