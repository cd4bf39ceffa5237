/-
What can go wrong between a configuration and a table operation.
-/
import TableDdl.Dialect
import TableDdl.SchemaError

namespace TableDdl

/-- Why a configuration that reads well is of no use. -/
inductive ConfigFault where
  | noProfiles
  | blankUrl (profile : String)
  /-- The library can print statements for the dialect, but not run them. -/
  | notConnectable (dialect : Dialect)
deriving DecidableEq

def ConfigFault.message : ConfigFault → String
  | noProfiles => "no profiles defined"
  | blankUrl profile => "profile '" ++ profile ++ "' has an empty url"
  | notConnectable dialect => "cannot connect to " ++ dialect.name ++ " databases; use --dry-run"

inductive SetupError where
  | schema (error : SchemaError)
  /-- The database could not be opened. -/
  | unopened
  /-- The system failed to read a file, or to set up what runs requests. -/
  | unreadable
  /-- The configuration is not a document of the right form. -/
  | malformed
  | noSuchProfile (profile : String)
  | unusable (fault : ConfigFault)
deriving DecidableEq

def SetupError.message : SetupError → String
  | schema error => error.message
  | unopened => "Database error:"
  | unreadable => "IO error:"
  | malformed => "Serialization error:"
  | noSuchProfile profile => "Connection profile not found: " ++ profile
  | unusable fault => "Invalid configuration: " ++ fault.message

/-- Why nothing was connected to. -/
inductive ConnectFault where
  /-- What runs the requests of a connection could not be set up. -/
  | noRuntime
  /-- The URL is of no use, or the database refused. -/
  | refused
deriving DecidableEq

def ConnectFault.error : ConnectFault → SetupError
  | noRuntime => .unreadable
  | refused => .unopened

end TableDdl
