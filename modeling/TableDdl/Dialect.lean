/-
The database families, and how a driver name or a connection string selects one.

An identifier is read up to its first colon, so a whole connection string may stand for its
driver.  What is left is matched against a fixed list of names, without regard to case and to
blanks at the ends.
-/
import TableDdl.Text.Blank
import TableDdl.Text.Lowercase

namespace TableDdl

inductive Dialect where
  | mysql
  | postgres
  | sqlServer
  | sqlite
deriving DecidableEq, Repr

namespace Dialect

def all : List Dialect := [mysql, postgres, sqlServer, sqlite]

theorem mem_all (d : Dialect) : d ∈ all := by cases d <;> decide

def name : Dialect → String
  | mysql => "mysql"
  | postgres => "postgres"
  | sqlServer => "sqlserver"
  | sqlite => "sqlite"

/-- Every name that selects the dialect, in lower case. -/
def aliases : Dialect → List String
  | mysql => ["mysql", "mysqli", "pdo_mysql"]
  | postgres => ["pgsql", "postgres", "postgresql", "pdo_pgsql"]
  | sqlServer => ["sqlsrv", "sqlserver", "mssql", "pdo_sqlsrv"]
  | sqlite => ["sqlite", "sqlite3", "pdo_sqlite"]

/-- The driver name in an identifier: the text before the first colon, trimmed, in lower case. -/
def driverName (identifier : String) : String :=
  Text.lower (Text.trim (String.ofList (identifier.toList.takeWhile (· != ':'))))

/-- The dialect an identifier selects. -/
def ofIdentifier? (identifier : String) : Option Dialect :=
  all.find? fun d => d.aliases.contains (driverName identifier)

/-- The character around a quoted identifier. -/
def quoteChar : Dialect → Char
  | mysql => '`'
  | postgres | sqlServer | sqlite => '"'

/-- The format in which dates are stored. -/
def dateFormat (_ : Dialect) : String := "%Y-%m-%d %H:%M:%S"

end Dialect
end TableDdl
