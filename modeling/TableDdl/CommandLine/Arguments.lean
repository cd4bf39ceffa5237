/-
The arguments of the command.

Options come before the subcommand, save for `--dry-run`, which may also come after it.  The value
of an option is attached to it or is the next argument, unless that starts with a dash.  Short
options may be written together.  No option is given twice at one level, and `--` makes every
later argument a name.  A lone dash is a name.

What the arguments leave open comes from the environment, and then from a fixed default.
-/

namespace TableDdl
namespace CommandLine

inductive Task where
  | drop (table : String)
  | dropIfExists (table : String)
  | rename (old new : String)
  | hasTable (table : String)
  | hasColumn (table column : String)
  | dropColumns (table : String) (columns : List String)
  | renameColumn (table old new : String)
deriving DecidableEq

structure Invocation where
  config : String
  profile : Option String
  verbose : Bool
  dryRun : Bool
  task : Task
deriving DecidableEq

structure Environment where
  config : Option String := none
  profile : Option String := none

inductive Request where
  | run (invocation : Invocation)
  | version
  | help
  | misuse
deriving DecidableEq

inductive Subcommand where
  | drop
  | dropIfExists
  | rename
  | hasTable
  | hasColumn
  | dropColumn
  | renameColumn
deriving DecidableEq

namespace Subcommand

def all : List Subcommand :=
  [drop, dropIfExists, rename, hasTable, hasColumn, dropColumn, renameColumn]

def name : Subcommand → String
  | drop => "drop"
  | dropIfExists => "drop-if-exists"
  | rename => "rename"
  | hasTable => "has-table"
  | hasColumn => "has-column"
  | dropColumn => "drop-column"
  | renameColumn => "rename-column"

def ofName? (name : String) : Option Subcommand := all.find? (·.name == name)

/-- How many names the subcommand takes at most; without a bound it takes any number. -/
def capacity? : Subcommand → Option Nat
  | drop | dropIfExists | hasTable => some 1
  | rename | hasColumn => some 2
  | renameColumn => some 3
  | dropColumn => none

def accepts (s : Subcommand) (count : Nat) : Bool :=
  match s.capacity? with
  | none => true
  | some capacity => decide (count < capacity)

def task? : Subcommand → List String → Option Task
  | drop, [table] => some (.drop table)
  | dropIfExists, [table] => some (.dropIfExists table)
  | rename, [old, new] => some (.rename old new)
  | hasTable, [table] => some (.hasTable table)
  | hasColumn, [table, column] => some (.hasColumn table column)
  | dropColumn, table :: column :: columns => some (.dropColumns table (column :: columns))
  | renameColumn, [table, old, new] => some (.renameColumn table old new)
  | _, _ => none

end Subcommand

structure Options where
  config : Option String := none
  profile : Option String := none
  verbose : Bool := false
  dryRun : Bool := false

inductive Setting where
  | config
  | profile

namespace Options

/-- Sets an option that was not set before.  The name of a file may not be empty. -/
def set? (o : Options) : Setting → String → Option Options
  | .config, value =>
      if o.config.isSome || value.isEmpty then none else some { o with config := some value }
  | .profile, value => if o.profile.isSome then none else some { o with profile := some value }

def setVerbose? (o : Options) : Option Options :=
  if o.verbose then none else some { o with verbose := true }

def setDryRun? (o : Options) : Option Options :=
  if o.dryRun then none else some { o with dryRun := true }

/-- Fills in what the arguments left open.  An empty file name is refused here as well. -/
def finish (o : Options) (environment : Environment) (dryRun : Bool) (task : Task) : Request :=
  let config := (o.config <|> environment.config).getD "database.json"
  if config.isEmpty then .misuse
  else
    .run {
      config
      profile := o.profile <|> environment.profile
      verbose := o.verbose
      dryRun := o.dryRun || dryRun
      task }

end Options

def isOption (argument : String) : Bool :=
  match argument.toList with
  | '-' :: _ :: _ => true
  | _ => false

/-- The arguments after the name of the subcommand. -/
def parseNames (s : Subcommand) (o : Options) (environment : Environment) (dryRun : Bool)
    (names : List String) : Bool → List String → Request
  | _, [] =>
      match s.task? names with
      | some task => o.finish environment dryRun task
      | none => .misuse
  | onlyNames, argument :: rest =>
      if onlyNames || !isOption argument then
        if s.accepts names.length then
          parseNames s o environment dryRun (names ++ [argument]) onlyNames rest
        else .misuse
      else
        match argument.toList with
        | ['-', '-'] => parseNames s o environment dryRun names true rest
        | ['-', '-', 'h', 'e', 'l', 'p'] => .help
        | '-' :: 'h' :: _ => .help
        | _ =>
            if argument = "--dry-run" ∧ dryRun = false then
              parseNames s o environment true names onlyNames rest
            else .misuse

/-- The arguments after `help`: nothing, or the name of what is to be explained. -/
def parseHelp : List String → Request
  | [] => .help
  | [topic] => if topic = "help" ∨ (Subcommand.ofName? topic).isSome then .help else .misuse
  | _ => .misuse

inductive ShortGroup where
  | options (options : Options)
  /-- The last option of the group still needs its value. -/
  | awaiting (options : Options) (setting : Setting)
  | version
  | help
  | misuse

/-- The value of a short option that stands right behind it, with or without `=`. -/
def attached : List Char → String
  | '=' :: value => String.ofList value
  | value => String.ofList value

def ShortGroup.ofSet : Option Options → ShortGroup
  | some o => options o
  | none => misuse

def parseShort (o : Options) : List Char → ShortGroup
  | [] => .options o
  | 'v' :: rest =>
      match o.setVerbose? with
      | some o => parseShort o rest
      | none => .misuse
  | 'V' :: _ => .version
  | 'h' :: _ => .help
  | ['c'] => .awaiting o .config
  | ['p'] => .awaiting o .profile
  | 'c' :: value => .ofSet (o.set? .config (attached value))
  | 'p' :: value => .ofSet (o.set? .profile (attached value))
  | _ => .misuse

/-- A long option: its name, and the value attached to it. -/
def splitLong (s : List Char) : String × Option String :=
  match s.dropWhile (· != '=') with
  | '=' :: value => (String.ofList (s.takeWhile (· != '=')), some (String.ofList value))
  | _ => (String.ofList s, none)

mutual
def parseOptions (environment : Environment) (o : Options) : List String → Request
  | [] => .misuse
  | argument :: rest =>
      match argument.toList with
      -- Nothing but names may follow, and there is no subcommand yet.
      | ['-', '-'] => .misuse
      | '-' :: '-' :: long =>
          match splitLong long with
          | ("config", some value) => continueWith environment (o.set? .config value) rest
          | ("profile", some value) => continueWith environment (o.set? .profile value) rest
          | ("config", none) => parseValue environment o .config rest
          | ("profile", none) => parseValue environment o .profile rest
          | ("verbose", none) => continueWith environment o.setVerbose? rest
          | ("dry-run", none) => continueWith environment o.setDryRun? rest
          | ("version", none) => .version
          | ("help", none) => .help
          | _ => .misuse
      | '-' :: c :: more =>
          match parseShort o (c :: more) with
          | .options o => parseOptions environment o rest
          | .awaiting o setting => parseValue environment o setting rest
          | .version => .version
          | .help => .help
          | .misuse => .misuse
      | _ =>
          match Subcommand.ofName? argument with
          | some s => parseNames s o environment false [] false rest
          | none => if argument = "help" then parseHelp rest else .misuse

def parseValue (environment : Environment) (o : Options) (setting : Setting) :
    List String → Request
  | [] => .misuse
  | value :: rest =>
      if isOption value then .misuse else continueWith environment (o.set? setting value) rest

def continueWith (environment : Environment) : Option Options → List String → Request
  | none, _ => .misuse
  | some o, rest => parseOptions environment o rest
end

def parse (environment : Environment) (arguments : List String) : Request :=
  parseOptions environment {} arguments

end CommandLine
end TableDdl
