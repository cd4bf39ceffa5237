/-
The log: what it can say, how loudly, and how a record reads on one line.
-/
import TableDdl.Dialect
import TableDdl.SchemaError
import TableDdl.Text.Display

namespace TableDdl

inductive LogLevel where
  | trace
  | debug
  | info
  | warn
deriving DecidableEq, Repr

namespace LogLevel

def name : LogLevel → String
  | trace => "TRACE"
  | debug => "DEBUG"
  | info => "INFO"
  | warn => "WARN"

/-- How much the level matters. -/
def weight : LogLevel → Nat
  | trace => 0
  | debug => 1
  | info => 2
  | warn => 3

end LogLevel

/-- The value of a field of a log record.  A tag is written between quotes on a line. -/
inductive FieldValue where
  | text (text : String)
  | tag (tag : String)
deriving DecidableEq

namespace FieldValue

def plain : FieldValue → String
  | .text t | .tag t => t

def onLine : FieldValue → String
  | .text t => t
  | .tag t => Text.displayQuoted t

end FieldValue

inductive Event where
  /-- A blueprint is compiled under a prefix that is not the connection's. -/
  | prefixMismatch (connection grammar : String)
  | compiling (table : String) (dialect : Dialect) (commands : Nat)
  | skipped (command : String)
  | executing (sql : String)
  | statementFailed (table sql : String) (error : SchemaError)
  | alteringTable (table : String)
  | creatingTable (table : String)
  | droppingTable (table : String)
  | droppingTableIfExists (table : String)
  | renamingTable (old new : String)
  | connected (url : String)
  | runningQuery (sql : String) (bindings : List String)
  | describing (sql : String)
  | dryRun
  | tableExists (table : String) (answer : Bool)
  | columnExists (table column : String) (answer : Bool)
deriving DecidableEq

namespace Event

def level : Event → LogLevel
  | skipped _ => .trace
  | compiling .. | executing _ | runningQuery .. | describing _ => .debug
  | alteringTable _ | creatingTable _ | droppingTable _ | droppingTableIfExists _
  | renamingTable .. | connected _ | dryRun | tableExists .. | columnExists .. => .info
  | prefixMismatch .. | statementFailed .. => .warn

def answerText (answer : Bool) : String := if answer then "true" else "false"

def message : Event → String
  | prefixMismatch .. =>
      "Table prefix differs between connection and grammar, using the grammar's"
  | compiling .. => "Compiling blueprint"
  | skipped _ => "No compiler for command, skipping"
  | executing _ => "Executing SQL"
  | statementFailed .. => "Statement failed"
  | alteringTable _ => "Altering table"
  | creatingTable _ => "Creating table"
  | droppingTable _ => "Dropping table"
  | droppingTableIfExists _ => "Dropping table if exists"
  | renamingTable .. => "Renaming table"
  | connected _ => "Connected to SQLite"
  | runningQuery .. => "Running query"
  | describing _ => "Describing table"
  | dryRun => "Dry run mode - SQL will be printed but not executed."
  | tableExists table answer => "Table " ++ table ++ " exists: " ++ answerText answer
  | columnExists table column answer =>
      "Column " ++ table ++ "." ++ column ++ " exists: " ++ answerText answer

def fields : Event → List (String × FieldValue)
  | prefixMismatch connection grammar =>
      [("connection_prefix", .text connection), ("grammar_prefix", .text grammar)]
  | compiling table dialect commands =>
      [("table", .text table), ("dialect", .tag dialect.name),
       ("commands", .text (toString commands))]
  | skipped command => [("command", .tag command)]
  | executing sql => [("sql", .text sql)]
  | statementFailed table sql error =>
      [("table", .text table), ("sql", .text sql), ("error", .text error.message)]
  | alteringTable table | creatingTable table | droppingTable table | droppingTableIfExists table =>
      [("table", .text table)]
  | renamingTable old new => [("from", .text old), ("to", .text new)]
  | connected url => [("url", .text url)]
  | runningQuery sql bindings =>
      [("sql", .text sql), ("bindings", .text (Text.displayList bindings))]
  | describing sql => [("sql", .text sql)]
  | dryRun | tableExists .. | columnExists .. => []

/-- The record on one line: the level in five columns, the message, and the fields. -/
def line (e : Event) : String :=
  let level := e.level.name
  String.ofList (List.replicate (5 - level.length) ' ') ++ level ++ " " ++
    Text.guarded e.message ++
    String.join (e.fields.map fun (key, value) => " " ++ key ++ "=" ++ value.onLine)

end Event
end TableDdl
