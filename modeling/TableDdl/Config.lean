/-
Connection profiles, and the JSON document they are kept in.

A profile names its dialect and a URL, and may set a character set, a collation, a database and a
table prefix.  A configuration holds profiles by name and the name of the default one.  In the
document, both may stand as an object or as an array of their fields in order.  Members that
nobody asks for are passed over, members that are asked for may not be repeated, and of two
profiles under one name the later counts.
-/
import TableDdl.Connection
import TableDdl.Json.Reader
import TableDdl.Json.Writer
import TableDdl.NameMap
import TableDdl.SetupError

namespace TableDdl

structure Profile where
  /-- The identifier of the dialect, as written. -/
  identifier : String
  url : String
  charset : Option String := none
  collation : Option String := none
  database : Option String := none
  tablePrefix : Option String := none
deriving DecidableEq

namespace Profile

def dialect (p : Profile) : Except SchemaError Dialect := Dialect.resolve p.identifier

/-- What statements depend on.  Without a prefix of its own a profile has the empty one. -/
def connection (p : Profile) : Except SchemaError Connection :=
  p.dialect.map fun dialect =>
    { dialect
      charset := p.charset
      collation := p.collation
      database := p.database
      tablePrefix := p.tablePrefix.getD "" }

/-- What is wrong with a profile.  A blank URL is reported before an unknown dialect. -/
def fault? (name : String) (p : Profile) : Option SetupError :=
  if Text.isBlankText p.url then some (.unusable (.blankUrl name))
  else
    match p.dialect with
    | .ok _ => none
    | .error e => some (.schema e)

def requiredText? (field : Option Json) : Option String := field.bind Json.text?

def optionalText? : Option Json → Option (Option String)
  | none => some none
  | some j => j.optionalText?

/-- The profile with these fields, each missing or not. -/
def ofFields? (identifier url charset collation database tablePrefix : Option Json) :
    Option Profile := do
  return {
    identifier := ← requiredText? identifier
    url := ← requiredText? url
    charset := ← optionalText? charset
    collation := ← optionalText? collation
    database := ← optionalText? database
    tablePrefix := ← optionalText? tablePrefix }

def ofJson? : Json → Option Profile
  | .object members => do
      discard (Json.namedMembers? members)
      ofFields? (← Json.member? members "dialect") (← Json.member? members "url")
        (← Json.member? members "charset") (← Json.member? members "collation")
        (← Json.member? members "database") (← Json.member? members "table_prefix")
  | .array items =>
      if items.length ≤ 6 then
        ofFields? items[0]? items[1]? items[2]? items[3]? items[4]? items[5]?
      else none
  | _ => none

def optionalMember (name : String) : Option String → List (Option String × Json)
  | none => []
  | some value => [(some name, .string value)]

/-- The profile as an object; what is not set is left out. -/
def toJson (p : Profile) : Json :=
  .object
    ([(some "dialect", .string p.identifier), (some "url", .string p.url)] ++
      optionalMember "charset" p.charset ++ optionalMember "collation" p.collation ++
      optionalMember "database" p.database ++ optionalMember "table_prefix" p.tablePrefix)

end Profile

structure Config where
  /-- The profile used when none is asked for. -/
  default : String := "default"
  profiles : NameMap Profile

namespace Config

def profilesOfJson? : Json → Option (NameMap Profile)
  | .object members => do
      let named ← Json.namedMembers? members
      let profiles ← named.mapM fun (name, value) => (Profile.ofJson? value).map (name, ·)
      return NameMap.ofList profiles
  | _ => none

def ofFields? (default profiles : Option Json) : Option Config := do
  let profiles ← profiles.bind profilesOfJson?
  match default with
  | none => return { profiles }
  | some j => return { default := ← j.text?, profiles }

def ofJson? : Json → Option Config
  | .object members => do
      discard (Json.namedMembers? members)
      ofFields? (← Json.member? members "default") (← Json.member? members "profiles")
  | .array items => if items.length ≤ 2 then ofFields? items[0]? items[1]? else none
  | _ => none

def toJson (c : Config) : Json :=
  .object
    [(some "default", .string c.default),
     (some "profiles",
      .object (c.profiles.entries.map fun (name, profile) => (some name, profile.toJson)))]

/-- What is wrong with a configuration: the first fault in the order of the names. -/
def fault? (c : Config) : Option SetupError :=
  if c.profiles.entries.isEmpty then some (.unusable .noProfiles)
  else c.profiles.entries.findSome? fun (name, profile) => profile.fault? name

def validate (c : Config) : Except SetupError Unit :=
  match c.fault? with
  | none => .ok ()
  | some e => .error e

/-- Reads a configuration and makes sure that it is of use. -/
def parse (document : String) : Except SetupError Config :=
  match (Json.parse? document).bind ofJson? with
  | none => .error .malformed
  | some c => c.validate.map fun _ => c

def serialize (c : Config) : String := c.toJson.write

/-- The profile of this name, or the default one. -/
def profile (c : Config) (name : Option String) : Except SetupError Profile :=
  let wanted := name.getD c.default
  match c.profiles.find? wanted with
  | some profile => .ok profile
  | none => .error (.noSuchProfile wanted)

end Config
end TableDdl
