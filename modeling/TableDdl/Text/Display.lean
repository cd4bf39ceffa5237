/-
Text as a log shows it: between double quotes, with a backslash before quotes and backslashes,
short escapes for the usual controls, and code points for every other character that does not
show on its own.  A message stands without quotes, and only controls that would steer a terminal
are written in another way.
-/
import TableDdl.Text.HiddenTable

namespace TableDdl
namespace Text

def isHidden (c : Char) : Bool := inRanges hiddenRanges c.toNat

/-- A character by its number. -/
def codePoint (c : Char) : List Char := ['\\', 'u', '\x7b'] ++ Nat.toDigits 16 c.toNat ++ ['\x7d']

def displayChar (c : Char) : List Char :=
  match c with
  | '\x00' => ['\\', '0']
  | '\t' => ['\\', 't']
  | '\n' => ['\\', 'n']
  | '\r' => ['\\', 'r']
  | '"' => ['\\', '"']
  | '\\' => ['\\', '\\']
  | _ => if isHidden c then codePoint c else [c]

def displayQuoted (s : String) : String :=
  "\"" ++ String.ofList (s.toList.flatMap displayChar) ++ "\""

def displayList (values : List String) : String :=
  "[" ++ ", ".intercalate (values.map displayQuoted) ++ "]"

/-- A character of a message.  The controls that steer a terminal are written as their codes. -/
def guardedChar (c : Char) : List Char :=
  match c with
  | '\x07' => ['\\', 'x', '0', '7']
  | '\x08' => ['\\', 'x', '0', '8']
  | '\x0c' => ['\\', 'x', '0', 'c']
  | '\x1b' => ['\\', 'x', '1', 'b']
  | '\x7f' => ['\\', 'x', '7', 'f']
  | _ => if 0x80 ≤ c.toNat ∧ c.toNat ≤ 0x9F then codePoint c else [c]

def guarded (s : String) : String := String.ofList (s.toList.flatMap guardedChar)

end Text
end TableDdl
