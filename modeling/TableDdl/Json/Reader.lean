/-
Reading JSON, as strictly as the standard has it: no comments, no trailing commas, no leading
zeros, no control characters in strings, and nothing but blanks after the document.

Each reader takes a text and gives what it read with what is left.  Values nest, so the readers
that call each other count down a supply which starts at twice the length of the document.  Every
second call consumes a character, so it never runs out.
-/
import TableDdl.Json

namespace TableDdl
namespace Json

def skipBlanks (s : List Char) : List Char :=
  s.dropWhile fun c => c == ' ' || c == '\t' || c == '\n' || c == '\r'

/-- What is left after one digit or more. -/
def afterDigits? : List Char → Option (List Char)
  | [] => none
  | c :: rest => if c.isDigit then some (rest.dropWhile Char.isDigit) else none

/-- What is left after a whole number, which has no zero in front. -/
def afterWhole? : List Char → Option (List Char)
  | '0' :: rest => some rest
  | s => afterDigits? s

def afterFraction? : List Char → Option (List Char)
  | '.' :: rest => afterDigits? rest
  | s => some s

def afterSign : List Char → List Char
  | '+' :: rest | '-' :: rest => rest
  | s => s

def afterExponent? : List Char → Option (List Char)
  | 'e' :: rest | 'E' :: rest => afterDigits? (afterSign rest)
  | s => some s

def afterNumber? : List Char → Option (List Char)
  | '-' :: rest => ((afterWhole? rest).bind afterFraction?).bind afterExponent?
  | s => ((afterWhole? s).bind afterFraction?).bind afterExponent?

def hexDigit? (c : Char) : Option Nat :=
  if '0' ≤ c ∧ c ≤ '9' then some (c.toNat - '0'.toNat)
  else if 'a' ≤ c ∧ c ≤ 'f' then some (c.toNat - 'a'.toNat + 10)
  else if 'A' ≤ c ∧ c ≤ 'F' then some (c.toNat - 'A'.toNat + 10)
  else none

def hexCode? (a b c d : Char) : Option Nat := do
  return (((← hexDigit? a) * 16 + (← hexDigit? b)) * 16 + (← hexDigit? c)) * 16 + (← hexDigit? d)

/-- The character a short escape stands for. -/
def shortEscape? : Char → Option Char
  | '"' => some '"'
  | '\\' => some '\\'
  | '/' => some '/'
  | 'b' => some '\x08'
  | 'f' => some '\x0c'
  | 'n' => some '\n'
  | 'r' => some '\r'
  | 't' => some '\t'
  | _ => none

/-- The codes up to the closing quote, surrogates still apart. -/
def readCodes? : List Char → Option (List Nat × List Char)
  | [] => none
  | '"' :: rest => some ([], rest)
  | '\\' :: 'u' :: a :: b :: c :: d :: rest => do
      let code ← hexCode? a b c d
      let (codes, after) ← readCodes? rest
      return (code :: codes, after)
  | '\\' :: e :: rest => do
      let char ← shortEscape? e
      let (codes, after) ← readCodes? rest
      return (char.toNat :: codes, after)
  | c :: rest =>
      if c.toNat < 0x20 then none
      else do
        let (codes, after) ← readCodes? rest
        return (c.toNat :: codes, after)

def isHighSurrogate (code : Nat) : Bool := decide (0xD800 ≤ code) && decide (code < 0xDC00)

def isLowSurrogate (code : Nat) : Bool := decide (0xDC00 ≤ code) && decide (code < 0xE000)

/-- The characters that codes stand for; two surrogates make one, and none may be left over. -/
def charsOfCodes? : List Nat → Option (List Char)
  | [] => some []
  | [code] =>
      if isHighSurrogate code || isLowSurrogate code then none else some [Char.ofNat code]
  | first :: second :: rest =>
      if isHighSurrogate first && isLowSurrogate second then
        let code := 0x10000 + (first - 0xD800) * 0x400 + (second - 0xDC00)
        (charsOfCodes? rest).map (Char.ofNat code :: ·)
      else if isHighSurrogate first || isLowSurrogate first then none
      else (charsOfCodes? (second :: rest)).map (Char.ofNat first :: ·)

/-- The content of a string after its opening quote. -/
def readString? (s : List Char) : Option (Option String × List Char) :=
  (readCodes? s).map fun (codes, after) => ((charsOfCodes? codes).map String.ofList, after)

mutual
def readValue? : Nat → List Char → Option (Json × List Char)
  | 0, _ => none
  | supply + 1, s =>
      match skipBlanks s with
      | '"' :: rest => (readString? rest).map fun (content, after) => (.string content, after)
      | '[' :: rest =>
          match skipBlanks rest with
          | ']' :: after => some (.array [], after)
          | _ => (readItems? supply rest).map fun (items, after) => (.array items, after)
      | '{' :: rest =>
          match skipBlanks rest with
          | '}' :: after => some (.object [], after)
          | _ => (readMembers? supply rest).map fun (members, after) => (.object members, after)
      | 't' :: 'r' :: 'u' :: 'e' :: after => some (.boolean true, after)
      | 'f' :: 'a' :: 'l' :: 's' :: 'e' :: after => some (.boolean false, after)
      | 'n' :: 'u' :: 'l' :: 'l' :: after => some (.null, after)
      | rest => (afterNumber? rest).map fun after => (.number, after)

/-- One item or more, up to the closing bracket. -/
def readItems? : Nat → List Char → Option (List Json × List Char)
  | 0, _ => none
  | supply + 1, s => do
      let (item, after) ← readValue? supply s
      match skipBlanks after with
      | ',' :: rest =>
          let (items, after) ← readItems? supply rest
          return (item :: items, after)
      | ']' :: after => return ([item], after)
      | _ => none

/-- One member or more, up to the closing brace. -/
def readMembers? : Nat → List Char → Option (List (Option String × Json) × List Char)
  | 0, _ => none
  | supply + 1, s => do
      let (name, after) ←
        match skipBlanks s with
        | '"' :: rest => readString? rest
        | _ => none
      let (value, after) ←
        match skipBlanks after with
        | ':' :: rest => readValue? supply rest
        | _ => none
      match skipBlanks after with
      | ',' :: rest =>
          let (members, after) ← readMembers? supply rest
          return ((name, value) :: members, after)
      | '}' :: after => return ([(name, value)], after)
      | _ => none
end

def parse? (s : String) : Option Json :=
  match readValue? (2 * s.toList.length + 2) s.toList with
  | some (value, rest) => if (skipBlanks rest).isEmpty then some value else none
  | none => none

end Json
end TableDdl
