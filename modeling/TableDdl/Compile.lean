/-
Compiling a blueprint, and running what it compiles to.

A blueprint is checked before anything else happens.  Then its finalized commands are compiled in
order, and the first failure ends it.  Only a blueprint that compiled as a whole is run, one
statement at a time, up to the first that the database refuses.
-/
import TableDdl.Database
import TableDdl.Grammar.Plan

namespace TableDdl

variable {σ : Type}

/-- An empty diff against the table as it stands. -/
def Grammar.diff (g : Grammar) (b : Blueprint) (i : Introspector σ) : Run Activity σ TableDiff := do
  let table := g.tableName b.table
  let columns ← i.describeTable table
  return { table, columns }

/-- The columns under these names, each looked up on its own. -/
def Introspector.columns (i : Introspector σ) (table : String) :
    List String → Run Activity σ (List (String × LiveColumn))
  | [] => return []
  | name :: rest => do
      let column ← i.column table name
      let others ← i.columns table rest
      return (name, column) :: others

/-- Works an alteration out against the live table. -/
def Alteration.statements (g : Grammar) (b : Blueprint) (i : Introspector σ) :
    Alteration → Run Activity σ (List String)
  | rename old new => do
      let diff ← g.diff b i
      let column ← i.column diff.table old
      i.alterTable { diff with renamed := [(old, column.renamed new)] }
  | drop names => do
      let diff ← g.diff b i
      let removed ← i.columns diff.table names
      i.alterTable { diff with removed }

namespace Blueprint

/-- The statements of one command.  One without a form in the dialect is logged and passed over. -/
def compileCommand (b : Blueprint) (g : Grammar) (connection : Connection)
    (introspector : Option (Introspector σ)) (c : Command) : Run Activity σ (List String) :=
  match g.plan connection b c with
  | .unsupported => do
      log (.skipped c.name)
      return []
  | .statements statements => return statements
  | .alteration alteration =>
      match introspector with
      | none => Run.fail (.introspectionUnavailable alteration.command)
      | some i => alteration.statements g b i

def compileCommands (b : Blueprint) (g : Grammar) (connection : Connection)
    (introspector : Option (Introspector σ)) : List Command → Run Activity σ (List String)
  | [] => return []
  | c :: rest => do
      let first ← b.compileCommand g connection introspector c
      let others ← b.compileCommands g connection introspector rest
      return first ++ others

/-- Fails when a column cannot be compiled. -/
def check (b : Blueprint) : Except SchemaError Unit :=
  match b.fault? with
  | none => .ok ()
  | some (column, fault) => .error (.invalidColumn b.table column.name fault)

/-- The statements of a blueprint, in order. -/
def compile (b : Blueprint) (g : Grammar) (connection : Connection)
    (introspector : Option (Introspector σ)) : Run Activity σ (List String) := do
  Run.ofExcept b.check
  let f := b.finalized
  if connection.tablePrefix ≠ g.tablePrefix then
    log (.prefixMismatch connection.tablePrefix g.tablePrefix)
  log (.compiling f.table g.dialect f.commands.length)
  f.compileCommands g connection introspector f.commands

/-- The statements of a blueprint, worked out from the blueprint alone. -/
def preview (b : Blueprint) (connection : Connection) (g : Grammar) :
    Except SchemaError (List String) :=
  (b.compile g connection (none : Option (Introspector Unit)) ()).result

/-- Runs statements in order, up to the first that fails. -/
def execute (table : String) (executor : Executor σ) : List String → Run Activity σ Unit
  | [] => return ()
  | sql :: rest => do
      log (.executing sql)
      (executor.runStatement sql).noteFailure fun e => .event (.statementFailed table sql e)
      execute table executor rest

/-- Compiles a blueprint as a whole, then runs its statements. -/
def build (b : Blueprint) (connection : Connection) (g : Grammar) (executor : Executor σ) :
    Run Activity σ Unit := do
  let statements ← b.compile g connection executor.introspector
  execute b.table executor statements

end Blueprint
end TableDdl
