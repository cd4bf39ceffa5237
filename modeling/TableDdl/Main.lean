/-
The command: it reads the environment and the configuration file, and prints the report.
-/
import TableDdl.CommandLine.Session
import TableDdl.Database.Sqlite.Empty

namespace TableDdl
namespace CommandLine

/-- The file that an invocation names, if it can be read. -/
def readConfig (environment : Environment) (arguments : List String) : IO (Option String) :=
  match parse environment arguments with
  | .run i => do
      try
        return some (← IO.FS.readFile i.config)
      catch _ => return none
  | _ => return none

end CommandLine
end TableDdl

open TableDdl.CommandLine in
def main (arguments : List String) : IO UInt32 := do
  let environment : Environment :=
    { config := ← IO.getEnv "OXIDE_SCHEMA_CONFIG", profile := ← IO.getEnv "OXIDE_SCHEMA_PROFILE" }
  let document ← readConfig environment arguments
  let r := report environment arguments (fun _ => document) TableDdl.Connector.empty ()
  for text in r.stdout do
    IO.println text
  match r.stderr with
  | some text => IO.eprintln text
  | none => pure ()
  return UInt32.ofNat r.code
