/-
A database that answers from a script, the same way every time.

It serves to try out blueprints: the script says which tables exist, which statements fail and
what rows queries return.  Renames and removals are written as its dialect writes them.
-/
import TableDdl.Database

namespace TableDdl

structure Catalogue where
  dialect : Dialect
  tables : List (String × List LiveColumn)
  /-- With a message here, no diff can be turned into statements. -/
  alterError : Option String := none

namespace Catalogue

variable {σ : Type}

def describe (c : Catalogue) (table : String) : Except SchemaError (List LiveColumn) :=
  match c.tables.lookup table with
  | some columns => .ok columns
  | none => .error (.introspection ("table " ++ table ++ " does not exist"))

def alter (c : Catalogue) (diff : TableDiff) : Except SchemaError (List String) :=
  match c.alterError with
  | some message => .error (.introspection message)
  | none => .ok (diff.statements c.dialect)

def introspector (c : Catalogue) : Introspector σ where
  describe table := Run.ofExcept (c.describe table)
  alter diff := Run.ofExcept (c.alter diff)

end Catalogue

structure Script where
  /-- Statements that fail, each with the message of the database. -/
  failures : List (String × String) := []
  /-- The rows of queries. -/
  rows : List (String × List Row) := []
  catalogue : Option Catalogue := none

namespace Script

variable {σ : Type}

def answer (s : Script) (sql : String) : Except SchemaError (List Row) :=
  match s.failures.lookup sql with
  | some message => .error (.execution sql message)
  | none => .ok ((s.rows.lookup sql).getD [])

def executor (s : Script) : Executor σ where
  query sql _ := Run.ofExcept (s.answer sql)
  execute sql := Run.ofExcept ((s.answer sql).map fun _ => ())
  introspector := s.catalogue.map Catalogue.introspector

end Script
end TableDdl
