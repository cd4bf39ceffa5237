/-
A directory with nothing in it but some files, and the paths that lead to them.

A path is read part by part.  An empty part and a lone dot stay where they are; a path that ends
in either, or that starts at the root, leads to no file.
-/

namespace TableDdl
namespace CommandLine

/-- The parts of a path to a file below the directory. -/
def pathParts? (path : String) : Option (List String) :=
  let parts := (path.toList.splitOn '/').map String.ofList
  let stays := fun part => part == "" || part == "."
  match parts with
  | [] => none
  | first :: rest =>
      if (first == "" && !rest.isEmpty) || (parts.getLast?.map stays).getD true then none
      else some (parts.filter fun part => !stays part)

/-- The content of the file that a path leads to. -/
def readFrom (files : List (String × String)) (path : String) : Option String :=
  match pathParts? path with
  | none => none
  | some parts => (files.find? fun file => pathParts? file.1 == some parts).map (·.2)

end CommandLine
end TableDdl
