/-
A stand-in for a database that prints statements and runs none of them.
-/
import TableDdl.Database

namespace TableDdl

variable {σ : Type}

/-- Ends a statement with a semicolon, and shows the values of its marks as a comment. -/
def printedQuery (sql : String) (bindings : List String) : String :=
  if bindings.isEmpty then sql ++ ";" else sql ++ "; -- " ++ ", ".intercalate bindings

def printedStatement (sql : String) : String := sql ++ ";"

/-- Every query is printed and has no rows; every statement is printed and succeeds. -/
def Executor.printer : Executor σ where
  query sql bindings := do
    Run.note (.line (printedQuery sql bindings))
    return []
  execute sql := Run.note (.line (printedStatement sql))

end TableDdl
