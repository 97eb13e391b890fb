-- SUMMARY: Where generated files go.

/-!
# Locations

Generated files lie in one folder or directly under the output directory. `Path.join`, `Path.parent`
and `Path.leading` are the operations on path texts that are needed.
-/
namespace TypedQuery

namespace Path

/-- The second path seen from the first one. An absolute path stays what it is. -/
def join (a b : String) : String :=
  if b.startsWith "/" || a.isEmpty then b
  else if a.endsWith "/" then a ++ b
  else a ++ "/" ++ b

/-- Drop slashes, and dots that stand for the same directory, from the end of a reversed path. -/
def trimReversed : List Char → List Char
  | '/' :: rest => if rest.isEmpty then ['/'] else trimReversed rest
  | '.' :: '/' :: rest => trimReversed ('/' :: rest)
  | cs => cs

/-- The path without its last component; the root and the empty path have none. -/
def parent? (path : String) : Option String :=
  match trimReversed path.toList.reverse with
  | [] | ['/'] => none
  | cs => some (String.ofList (trimReversed (cs.dropWhile (· ≠ '/'))).reverse)

/-- The directory of a file. -/
def parent (path : String) : String := (parent? path).getD ""

/-- A path and those that lead to it, innermost first, without the root and the empty path. -/
def leading (path : String) : List String :=
  match parent? path with
  | none => []
  | some above => if _h : above.length < path.length then path :: leading above else [path]
termination_by path.length

end Path

/-- The folders of the output directory, and the directory itself. -/
inductive Folder where
  | root | fetchers | enums | inputs
  deriving DecidableEq, Repr

/-- The name of a folder. -/
def Folder.name? : Folder → Option String
  | root => none
  | fetchers => some "fetchers"
  | enums => some "enums"
  | inputs => some "inputs"

/-- The folders that belong to the generator alone. -/
def Folder.owned : List String := [fetchers, enums, inputs].filterMap name?

/-- The place of a generated file, and the type that it defines. -/
structure Location where
  folder : Folder
  stem : String
  defines : Option String := none
  deriving DecidableEq, Repr

/-- The path of the file from the output directory. -/
def Location.path (l : Location) : String :=
  Path.join (l.folder.name?.getD "") (l.stem ++ ".ts")

end TypedQuery
