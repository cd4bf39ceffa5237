/-
The tokens of SQLite's SQL, as far as statements about tables and indexes need them.

A token keeps its text, which is what a refusal quotes.  A text ends at its first null character,
and a name whose end quote is missing is an illegal token that runs to the end.
-/
import TableDdl.Text.Literal

namespace TableDdl
namespace Sqlite

inductive TokenKind where
  /-- A name or a string between quotes, with what it says. -/
  | quoted (content : List Char)
  | word
  /-- A number, an operator or a mark of punctuation. -/
  | symbol
  | illegal
deriving DecidableEq

structure Token where
  kind : TokenKind
  text : List Char
deriving DecidableEq

def isSpace (c : Char) : Bool := c = ' ' || (decide ('\t' ≤ c) && decide (c ≤ '\r'))

/-- Characters that a word goes on with. -/
def isWordChar (c : Char) : Bool :=
  c.isAlphanum || c = '_' || c = '$' || decide (0x80 ≤ c.toNat)

/-- The operators of two characters. -/
def operators : List (Char × Char) :=
  [('-', '>'), ('<', '='), ('<', '>'), ('<', '<'), ('>', '='), ('>', '>'), ('=', '='),
   ('!', '='), ('|', '|')]

def punctuation : List Char :=
  ['(', ')', ';', '+', '-', '*', '/', '%', '=', '<', '>', '|', ',', '&', '~', '.']

/-- What follows a comment, when `s` starts inside it. -/
def afterComment : List Char → List Char
  | [] => []
  | '*' :: '/' :: rest => rest
  | _ :: rest => afterComment rest

/-- How many characters go on with a number, and whether a word runs into it. -/
def scanNumber (s : List Char) : TokenKind × Nat :=
  let digits := (s.takeWhile Char.isDigit).length
  let places :=
    match s.drop digits with
    | '.' :: rest => 1 + (rest.takeWhile Char.isDigit).length
    | _ => 0
  let tail := ((s.drop (digits + places)).takeWhile isWordChar).length
  (if tail = 0 then .symbol else .illegal, digits + places + tail)

/-- The kind of the token that starts with `c`, none for a blank or a comment, and how many of
the characters behind `c` belong to it. -/
def scan (c : Char) (rest : List Char) : Option TokenKind × Nat :=
  if c = '"' || c = '`' || c = '\'' then
    match Text.readQuoted? c rest with
    | some (content, after) => (some (.quoted content), rest.length - after.length)
    | none => (some .illegal, rest.length)
  else if c = '[' then
    let content := rest.takeWhile (· != ']')
    if content.length < rest.length then (some (.quoted content), content.length + 1)
    else (some .illegal, rest.length)
  else if isSpace c && c != '\x0b' then (none, (rest.takeWhile isSpace).length)
  else if c = '\uFEFF' then (none, 0)
  else if c = '-' && rest.head? = some '-' then (none, (rest.takeWhile (· != '\n')).length)
  else if c = '/' && rest.head? = some '*' && 1 < rest.length then
    (none, rest.length - (afterComment (rest.drop 1)).length)
  else if c.isDigit then
    let (kind, more) := scanNumber rest
    (some kind, more)
  else if c = '$' || c = '@' || c = ':' || c = '#' then
    let more := (rest.takeWhile isWordChar).length
    (some (if more = 0 then .illegal else .symbol), more)
  else if c = '?' then (some .symbol, (rest.takeWhile Char.isDigit).length)
  else if isWordChar c then (some .word, (rest.takeWhile isWordChar).length)
  else if operators.any fun o => c = o.1 && rest.head? = some o.2 then (some .symbol, 1)
  else if c = '.' && (rest.takeWhile Char.isDigit).length ≠ 0 then
    let (kind, more) := scanNumber rest
    (some kind, more)
  else (some (if punctuation.contains c then .symbol else .illegal), 0)

/-- The tokens of a text without null characters. -/
def tokensOf : List Char → List Token
  | [] => []
  | c :: rest =>
      let (kind?, more) := scan c rest
      let following := tokensOf (rest.drop more)
      match kind? with
      | some kind => ⟨kind, c :: rest.take more⟩ :: following
      | none => following
termination_by s => s.length
decreasing_by
  rw [List.length_drop, List.length_cons]
  omega

def tokens (sql : String) : List Token := tokensOf (sql.toList.takeWhile (· != '\x00'))

example :
    (tokens "drop table \"a\"\"b\".c -- d").map (fun t => String.ofList t.text) =
      ["drop", "table", "\"a\"\"b\"", ".", "c"] := by
  decide +kernel

end Sqlite
end TableDdl
