/-
Opening the database of a profile.

Only SQLite can be opened; for any other dialect no connection is even tried.  How a URL is
opened is left to the caller.  Opening acts on the state, since it makes a file that is missing.
-/
import TableDdl.Config
import TableDdl.Database.Sqlite
import TableDdl.Schema

namespace TableDdl

/-- An open SQLite database, and whether its statements are printed in place of being sent. -/
structure SqliteDatabase (σ : Type) where
  connection : SqliteConnection σ
  dryRun : Bool := false

namespace SqliteDatabase

variable {σ : Type}

def executor (d : SqliteDatabase σ) : Executor σ := d.connection.executor d.dryRun

/-- How the database reads in a log. -/
def display (d : SqliteDatabase σ) : String :=
  "SqliteExecutor \x7b dry_run: " ++ Event.answerText d.dryRun ++ ", .. \x7d"

end SqliteDatabase

/-- Connects to the database at a URL. -/
abbrev Connector (σ : Type) := String → σ → Except ConnectFault (SqliteConnection σ) × σ

/-- The connection of a profile with its database. -/
structure Opened (σ : Type) where
  connection : Connection
  database : SqliteDatabase σ

namespace Opened

variable {σ : Type}

def schema (o : Opened σ) : Schema σ := ⟨o.connection, o.database.executor⟩

end Opened

/-- Opens a profile of a configuration. -/
def Config.openProfile {σ : Type} (c : Config) (connect : Connector σ) (name : Option String)
    (s : σ) : Except SetupError (Opened σ) × σ :=
  match c.profile name with
  | .error e => (.error e, s)
  | .ok profile =>
      match profile.connection with
      | .error e => (.error (.schema e), s)
      | .ok connection =>
          if connection.dialect = .sqlite then
            match connect profile.url s with
            | (.error fault, s') => (.error fault.error, s')
            | (.ok database, s') => (.ok { connection, database := { connection := database } }, s')
          else (.error (.unusable (.notConnectable connection.dialect)), s)

end TableDdl
