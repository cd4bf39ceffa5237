/-
Operations on the tables of one connection.

Each operation that changes a table makes one blueprint and runs it.  The grammar is always the
connection's own, so table names carry the connection's prefix.
-/
import TableDdl.Compile
import TableDdl.Grammar.Query

namespace TableDdl

structure Schema (σ : Type) where
  connection : Connection
  executor : Executor σ

namespace Schema

variable {σ : Type}

def grammar (s : Schema σ) : Grammar := s.connection.grammar

def run (s : Schema σ) (b : Blueprint) : Run Activity σ Unit :=
  b.build s.connection s.grammar s.executor

/-- Changes a table that exists. -/
def alterTable (s : Schema σ) (table : String) (steps : List Step) : Run Activity σ Unit := do
  log (.alteringTable table)
  s.run (Blueprint.ofSteps table steps)

def createTable (s : Schema σ) (table : String) (steps : List Step) : Run Activity σ Unit := do
  log (.creatingTable table)
  s.run (Blueprint.ofSteps table (.create :: steps))

def dropTable (s : Schema σ) (table : String) : Run Activity σ Unit := do
  log (.droppingTable table)
  s.run (Blueprint.ofSteps table [.drop])

def dropTableIfExists (s : Schema σ) (table : String) : Run Activity σ Unit := do
  log (.droppingTableIfExists table)
  s.run (Blueprint.ofSteps table [.dropIfExists])

def renameTable (s : Schema σ) (old new : String) : Run Activity σ Unit := do
  log (.renamingTable old new)
  s.run (Blueprint.ofSteps old [.rename new])

def query (s : Schema σ) (q : Query) : Run Activity σ (List Row) :=
  s.executor.runQuery q.sql q.bindings

def hasTable (s : Schema σ) (table : String) : Run Activity σ Bool := do
  let rows ← s.query (s.grammar.tableQuery table s.connection.database)
  return !rows.isEmpty

/-- The columns of a table: the first cell of each row, when it holds a text. -/
def columns (s : Schema σ) (table : String) : Run Activity σ (List String) := do
  let rows ← s.query (s.grammar.columnQuery table s.connection.database)
  return rows.filterMap fun row => row.head?.join

/-- Whether the table has a column of this name, in any letter case. -/
def hasColumn (s : Schema σ) (table column : String) : Run Activity σ Bool := do
  let columns ← s.columns table
  return columns.any fun c => Text.lower c == Text.lower column

/-- The statements for a change to a table, worked out against the live table but not run. -/
def preview (s : Schema σ) (table : String) (steps : List Step) : Run Activity σ (List String) :=
  (Blueprint.ofSteps table steps).compile s.grammar s.connection s.executor.introspector

end Schema
end TableDdl
