/-
What an invocation does: the configuration is read, a profile is chosen, and one task is carried
out on its tables.

SQLite profiles are opened, and in a dry run their statements are printed.  Other dialects have
no database here.  In a dry run a printer stands in for it; without one they are refused before
anything is compiled.
-/
import TableDdl.CommandLine.Arguments
import TableDdl.Database.Connect

namespace TableDdl
namespace CommandLine

variable {σ : Type}

inductive Failure where
  | setup (error : SetupError)
  /-- There is no database for the dialect, and none was asked to be left out. -/
  | notSupported (dialect : Dialect)
deriving DecidableEq

def Failure.message : Failure → String
  | setup error => error.message
  | notSupported dialect =>
      dialect.name ++ " connections are not supported; use --dry-run to print SQL"

structure Session (σ : Type) where
  shown : List Output
  result : Except Failure Unit
  state : σ

namespace Session

def failed (f : Failure) (s : σ) : Session σ := ⟨[], .error f, s⟩

/-- A run of a task, with records shown ahead of it. -/
def ofOutcome (before : List Event) (o : Outcome Activity σ Unit) : Session σ :=
  ⟨before.map .event ++ o.trace.filterMap Activity.output?,
    o.result.mapError fun e => .setup (.schema e), o.state⟩

end Session

def Task.run (s : Schema σ) : Task → Run Activity σ Unit
  | drop table => s.dropTable table
  | dropIfExists table => s.dropTableIfExists table
  | rename old new => s.renameTable old new
  | hasTable table => do log (.tableExists table (← s.hasTable table))
  | hasColumn table column => do log (.columnExists table column (← s.hasColumn table column))
  | dropColumns table columns => s.alterTable table [.dropColumn columns]
  | renameColumn table old new => s.alterTable table [.renameColumn old new]

def Invocation.perform (i : Invocation) (c : Config) (connect : Connector σ) (s : σ) :
    Session σ :=
  match c.profile i.profile with
  | .error e => .failed (.setup e) s
  | .ok profile =>
      match profile.connection with
      | .error e => .failed (.setup (.schema e)) s
      | .ok connection =>
          if connection.dialect = .sqlite then
            match connect profile.url s with
            | (.error fault, s') => .failed (.setup fault.error) s'
            | (.ok database, s') =>
                .ofOutcome [.connected profile.url]
                  (i.task.run ⟨connection, database.executor i.dryRun⟩ s')
          else if i.dryRun then
            .ofOutcome [.dryRun] (i.task.run ⟨connection, Executor.printer⟩ s)
          else .failed (.notSupported connection.dialect) s

/-- Reads the configuration with `read`, and carries the task out. -/
def Invocation.session (i : Invocation) (read : String → Option String) (connect : Connector σ)
    (s : σ) : Session σ :=
  match read i.config with
  | none => .failed (.setup .unreadable) s
  | some document =>
      match Config.parse document with
      | .error e => .failed (.setup e) s
      | .ok c => i.perform c connect s

structure Report where
  code : Nat
  /-- Texts on standard output, each with a line break behind it. -/
  stdout : List String := []
  stderr : Option String := none
deriving DecidableEq

/-- A line without the carriage return that may end it. -/
def unreturned (line : List Char) : List Char :=
  if line.getLast? = some '\r' then line.dropLast else line

/-- The lines of a printed text.  A carriage return is part of the line break it stands in. -/
def lines (s : String) : List String :=
  (s.toList.splitOn '\n').map fun line => String.ofList (unreturned line)

namespace Report

def stdoutLines (r : Report) : List String := r.stdout.flatMap lines

def errorLine? (r : Report) : Option String := r.stderr.bind fun text => (lines text).head?

end Report

/-- What one thing shown prints; records below the level asked for are left out. -/
def printed? (verbose : Bool) : Output → Option String
  | .line text => some text
  | .event e =>
      let least := if verbose then LogLevel.debug else LogLevel.info
      if least.weight ≤ e.level.weight then some e.line else none

def Session.report (s : Session σ) (verbose : Bool) : Report :=
  let stdout := s.shown.filterMap (printed? verbose)
  match s.result with
  | .ok () => { code := 0, stdout }
  | .error f => { code := 1, stdout, stderr := some ("Error: " ++ f.message) }

def versionLine : String := "oxide-schema 0.1.0"

def usageLine : String := "Usage: oxide-schema [OPTIONS] <COMMAND>"

def report (environment : Environment) (arguments : List String) (read : String → Option String)
    (connect : Connector σ) (s : σ) : Report :=
  match parse environment arguments with
  | .run i => (i.session read connect s).report i.verbose
  | .version => { code := 0, stdout := [versionLine] }
  | .help => { code := 0, stdout := [usageLine] }
  | .misuse => { code := 2, stderr := some usageLine }

end CommandLine
end TableDdl
