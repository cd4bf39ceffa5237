/-
JSON documents.

Only what a configuration can tell apart is kept.  No field of one is a number, so the digits of
a number are checked and dropped.  A string whose escapes leave a surrogate without its partner
denotes no text; such a string may stand where nobody reads it, so it is a value of its own.
-/

namespace TableDdl

inductive Json where
  | null
  | boolean (value : Bool)
  | number
  /-- Without content, a string that denotes no text. -/
  | string (content : Option String)
  | array (items : List Json)
  | object (members : List (Option String × Json))

namespace Json

/-- The content of a string. -/
def text? : Json → Option String
  | string content => content
  | _ => none

/-- The content of a string, or nothing for null. -/
def optionalText? : Json → Option (Option String)
  | null => some none
  | string (some content) => some (some content)
  | _ => none

/-- The value of a member: none when it is missing, and a failure when it is repeated. -/
def member? (members : List (Option String × Json)) (name : String) : Option (Option Json) :=
  match members.filter (·.1 == some name) with
  | [] => some none
  | [(_, value)] => some (some value)
  | _ => none

/-- The members of an object, if every name denotes a text. -/
def namedMembers? (members : List (Option String × Json)) : Option (List (String × Json)) :=
  members.mapM fun (name, value) => name.map (·, value)

end Json
end TableDdl
