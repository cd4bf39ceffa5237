/-
SQLite without tables: what it replies to statements and queries.

The tables of the catalogue can be queried and have nothing to tell.  A statement about any other
table is refused, unless it allows for the table to be missing.  A statement with a fault in its
form is refused for that fault, whatever it is about.  Making tables is out of scope: `create
table` is accepted and leaves nothing behind.

It is what the command connects to.  The library itself knows a database by its `Connector` alone.
-/
import TableDdl.Database.Connect
import TableDdl.Database.Sqlite.Token

namespace TableDdl
namespace Sqlite

inductive Refusal where
  /-- The form of the statement does not allow this token here. -/
  | unexpected (token : List Char)
  | unrecognized (token : List Char)
  | incomplete
  | noSuchTable (name : List Char)
  | noSuchIndex (name : List Char)
deriving DecidableEq

def Refusal.message (r : Refusal) : String :=
  "error returned from database: (code: 1) " ++
    match r with
    | unexpected token => "near \"" ++ String.ofList token ++ "\": syntax error"
    | unrecognized token => "unrecognized token: \"" ++ String.ofList token ++ "\""
    | incomplete => "incomplete input"
    | noSuchTable name => "no such table: " ++ String.ofList name
    | noSuchIndex name => "no such index: " ++ String.ofList name

def refuse : List Token → Refusal
  | [] => .incomplete
  | ⟨.illegal, text⟩ :: _ => .unrecognized text
  | ⟨_, text⟩ :: _ => .unexpected text

def Token.isWord (word : String) (t : Token) : Bool :=
  t.kind = .word && t.text.map Char.toLower = word.toList

def Token.isSymbol (symbol : Char) (t : Token) : Bool := t.kind = .symbol && t.text = [symbol]

/-- What follows the words, when the tokens start with them. -/
def after? : List String → List Token → Option (List Token)
  | [], ts => some ts
  | word :: words, t :: ts => if t.isWord word then after? words ts else none
  | _ :: _, [] => none

/-- The first of some beginnings that the tokens have, and what follows it. -/
def firstAfter? {α : Type} (beginnings : List (List String × α)) (ts : List Token) :
    Option (α × List Token) :=
  beginnings.findSome? fun (words, a) => (after? words ts).map (a, ·)

def reservedWords : List String :=
  ["add", "all", "alter", "and", "as", "autoincrement", "between", "case", "check", "collate",
   "commit", "constraint", "create", "default", "deferrable", "delete", "distinct", "drop", "else",
   "escape", "except", "exists", "foreign", "from", "group", "having", "in", "index", "insert",
   "intersect", "into", "is", "isnull", "join", "limit", "not", "nothing", "notnull", "null", "on",
   "or", "order", "primary", "references", "returning", "select", "set", "table", "then", "to",
   "transaction", "union", "unique", "update", "using", "values", "when", "where"]

def Token.name? (t : Token) : Option (List Char) :=
  match t.kind with
  | .quoted content => some content
  | .word => if reservedWords.any t.isWord then none else some t.text
  | .symbol | .illegal => none

def readName : List Token → Except Refusal (List Char × List Token)
  | [] => .error .incomplete
  | t :: rest =>
      match t.name? with
      | some name => .ok (name, rest)
      | none => .error (refuse (t :: rest))

/-- Reads names with dots between them, at most `more` behind the first. -/
def readPath : Nat → List Token → Except Refusal (List Char × List Token)
  | 0, ts => readName ts
  | more + 1, ts => do
      let (first, rest) ← readName ts
      match rest with
      | [] => return (first, [])
      | t :: behind =>
          if t.isSymbol '.' then
            let (others, rest) ← readPath more behind
            return (first ++ '.' :: others, rest)
          else return (first, rest)

/-- Reads a name that may have the name of a database in front. -/
def readQualified : List Token → Except Refusal (List Char × List Token) := readPath 1

/-- Fails unless the statement ends here, and gives what follows it. -/
def readEnd : List Token → Except Refusal (List Token)
  | [] => .ok []
  | t :: rest => if t.isSymbol ';' then .ok rest else .error (refuse (t :: rest))

/-- The ways an `alter table` goes on behind the name of the table. -/
inductive TableChange where
  /-- What is added is not looked at, since the table is missed before it. -/
  | add
  | renameTable
  | renameColumn
  | dropColumn

def tableChanges : List (List String × TableChange) :=
  [(["add"], .add), (["rename", "to"], .renameTable), (["rename", "column"], .renameColumn),
   (["rename"], .renameColumn), (["drop", "column"], .dropColumn), (["drop"], .dropColumn)]

def checkTableChange (ts : List Token) : Except Refusal Unit := do
  match firstAfter? tableChanges ts with
  | none => throw (refuse ts)
  | some (.add, _) => return ()
  | some (.renameTable, rest) | some (.dropColumn, rest) =>
      discard (readEnd (← readName rest).2)
  | some (.renameColumn, rest) =>
      let (_, rest) ← readName rest
      match after? ["to"] rest with
      | some rest => discard (readEnd (← readName rest).2)
      | none => throw (refuse rest)

/-- Checks a list of columns from its opening parenthesis on, and the end of the statement.  The
count bounds the columns still to be read. -/
def checkColumns : Nat → List Token → Except Refusal Unit
  | 0, ts => .error (refuse ts)
  | count + 1, ts => do
      let (_, rest) ← readPath 2 ts
      match rest with
      | t :: more =>
          if t.isSymbol ',' then checkColumns count more
          else if t.isSymbol ')' then discard (readEnd more)
          else throw (refuse rest)
      | [] => throw .incomplete

/-- Reads what follows `create index`, and gives the table. -/
def readIndex (ts : List Token) : Except Refusal (List Char) := do
  let (_, rest) ← readQualified ts
  match after? ["on"] rest with
  | none => throw (refuse rest)
  | some rest =>
      let (table, rest) ← readName rest
      match rest with
      | [] => throw .incomplete
      | t :: more =>
          if t.isSymbol '(' then checkColumns more.length more else throw (refuse rest)
          return table

/-- Reads the name of a table and of its first column.  What is behind them is taken as it is. -/
def readDefinition (ts : List Token) : Except Refusal (List Token) := do
  let (_, rest) ← readQualified ts
  match rest with
  | [] => throw .incomplete
  | t :: more =>
      if t.isSymbol '(' then return (← readName more).2 else throw (refuse rest)

/-- The statements that are told apart, by their first words. -/
inductive Opening where
  | dropTable
  | dropTableIfExists
  | alterTable
  | createTable
  | createIndex
  | dropIndex

def openings : List (List String × Opening) :=
  [(["drop", "table", "if", "exists"], .dropTableIfExists), (["drop", "table"], .dropTable),
   (["alter", "table"], .alterTable), (["create", "table"], .createTable),
   (["create", "index"], .createIndex), (["create", "unique", "index"], .createIndex),
   (["drop", "index"], .dropIndex)]

/-- The reply to the first statement, and what follows it. -/
def replyFirst (ts : List Token) : Except Refusal (List Token) :=
  match firstAfter? openings ts with
  | none => .error (refuse ts)
  | some (.dropTable, rest) => do
      let (table, rest) ← readQualified rest
      discard (readEnd rest)
      throw (.noSuchTable table)
  | some (.dropTableIfExists, rest) => do readEnd (← readQualified rest).2
  | some (.alterTable, rest) => do
      let (table, rest) ← readQualified rest
      checkTableChange rest
      throw (.noSuchTable table)
  | some (.createTable, rest) => do
      let rest ← readDefinition rest
      return rest.dropWhile fun t => !t.isSymbol ';'
  | some (.createIndex, rest) => do
      let table ← readIndex rest
      throw (.noSuchTable ("main.".toList ++ table))
  | some (.dropIndex, rest) => do
      let (index, rest) ← readQualified rest
      discard (readEnd rest)
      throw (.noSuchIndex index)

/-- The reply to at most `count` statements, up to the first that is refused. -/
def replyUpTo : Nat → List Token → Except Refusal Unit
  | 0, _ => .ok ()
  | count + 1, ts =>
      match ts.dropWhile (·.isSymbol ';') with
      | [] => .ok ()
      | t :: rest => do replyUpTo count (← replyFirst (t :: rest))

/-- The reply to a text, which has no more statements than tokens. -/
def reply (ts : List Token) : Except Refusal Unit := replyUpTo ts.length ts

/-- A text that is read to its end is refused for its first illegal token. -/
def checkTokens (ts : List Token) : Except Refusal Unit :=
  match ts.find? (·.kind = .illegal) with
  | some t => .error (.unrecognized t.text)
  | none => .ok ()

/-- The reply to a query.  A function of the catalogue has a parenthesis behind it. -/
def replyQuery (ts : List Token) : Except Refusal Unit := do
  checkTokens ts
  let (table, rest) ← readQualified ((ts.dropWhile fun t => !t.isWord "from").drop 1)
  if table = "sqlite_master".toList || rest.head?.any (·.isSymbol '(') then return ()
  else throw (.noSuchTable table)

def passedOn {α : Type} (answer : α) (r : Except Refusal Unit) : Except String α :=
  (r.mapError Refusal.message).map fun _ => answer

end Sqlite

namespace SqliteConnection

open Sqlite

variable {σ : Type}

/-- The connection to a database without tables, which stays so. -/
def empty : SqliteConnection σ where
  query sql _ s := (passedOn [] (replyQuery (tokens sql)), s)
  execute sql s := (passedOn () (reply (tokens sql)), s)
  columns table s := (passedOn [] (checkTokens (tokens (tableInfo table))), s)
  indexesOn _ _ s := (.ok [], s)

end SqliteConnection

/-- A connector to databases without tables. -/
def Connector.empty : Connector Unit := fun _ s => (.ok .empty, s)

end TableDdl
