/-
Writing JSON without any blanks.  In strings only quotes, backslashes and the controls below
U+0020 are escaped.
-/
import TableDdl.Json

namespace TableDdl
namespace Json

def hexDigit (n : Nat) : Char := Nat.digitChar n

def escaped (c : Char) : List Char :=
  match c with
  | '"' => ['\\', '"']
  | '\\' => ['\\', '\\']
  | '\x08' => ['\\', 'b']
  | '\x0c' => ['\\', 'f']
  | '\n' => ['\\', 'n']
  | '\r' => ['\\', 'r']
  | '\t' => ['\\', 't']
  | _ =>
      if c.toNat < 0x20 then ['\\', 'u', '0', '0', hexDigit (c.toNat / 16), hexDigit (c.toNat % 16)]
      else [c]

/-- A string.  One that denotes no text is written as a surrogate on its own. -/
def writeString : Option String → List Char
  | some content => '"' :: content.toList.flatMap escaped ++ ['"']
  | none => "\"\\ud800\"".toList

mutual
def writeChars : Json → List Char
  | null => "null".toList
  | boolean true => "true".toList
  | boolean false => "false".toList
  | number => ['0']
  | string content => writeString content
  | array items => '[' :: writeItems items ++ [']']
  | object members => '\x7b' :: writeMembers members ++ ['\x7d']

def writeItems : List Json → List Char
  | [] => []
  | [item] => writeChars item
  | item :: rest => writeChars item ++ ',' :: writeItems rest

def writeMembers : List (Option String × Json) → List Char
  | [] => []
  | [(name, value)] => writeString name ++ ':' :: writeChars value
  | (name, value) :: rest =>
      writeString name ++ ':' :: writeChars value ++ ',' :: writeMembers rest
end

def write (j : Json) : String := String.ofList j.writeChars

end Json
end TableDdl
