-- SUMMARY: A file system as a finite tree.
import TypedQuery.Error
import TypedQuery.Names.NameMap

/-!
# File trees

Files and directories as a finite tree, with the operations that generation needs and the faults that
they meet. `find` is the view of a tree: it tells what lies at a path.
-/
namespace TypedQuery

/-- A file or a directory; the entries of a directory are in ascending order of their names. -/
inductive FileTree where
  | file (content : ByteArray)
  | directory (entries : List (String × FileTree))

namespace FileTree

def empty : FileTree := .directory []

instance : Inhabited FileTree := ⟨empty⟩

/-- Put an entry into a directory, in the place of one of the same name. -/
def put (entries : List (String × FileTree)) (name : String) (t : FileTree) :
    List (String × FileTree) :=
  NameMap.updateIn name (fun _ => t) entries

/-- Take an entry out of a directory. -/
def without (entries : List (String × FileTree)) (name : String) : List (String × FileTree) :=
  entries.filter (·.1 ≠ name)

/-- The entry of a directory under a name, if there is one. A name has at most 255 bytes. -/
def child (entries : List (String × FileTree)) (name : String) :
    Except FileFault (Option FileTree) :=
  if 255 < name.utf8ByteSize then .error .nameTooLong else .ok (entries.lookup name)

/-- What lies at a path. -/
def find : List String → FileTree → Except FileFault FileTree
  | [], t => .ok t
  | _ :: _, .file _ => .error .notADirectory
  | name :: rest, .directory entries =>
    match child entries name with
    | .error fault => .error fault
    | .ok none => .error .notFound
    | .ok (some t) => find rest t

/-- Change what lies at a path, inside a directory that exists. No tree in place of another means that
there is nothing at the path. -/
def alter (change : Option FileTree → Except FileFault (Option FileTree)) :
    List String → FileTree → Except FileFault FileTree
  | _, .file _ => .error .notADirectory
  | [], .directory entries => (change (some (.directory entries))).map fun t => t.getD empty
  | [name], .directory entries =>
    match (child entries name).bind change with
    | .error fault => .error fault
    | .ok none => .ok (.directory (without entries name))
    | .ok (some t) => .ok (.directory (put entries name t))
  | name :: next :: rest, .directory entries =>
    match child entries name with
    | .error fault => .error fault
    | .ok none => .error .notFound
    | .ok (some t) => (alter change (next :: rest) t).map fun t => .directory (put entries name t)

/-- The content of a file. -/
def read (path : List String) (t : FileTree) : Except FileFault ByteArray :=
  match find path t with
  | .error fault => .error fault
  | .ok (.file content) => .ok content
  | .ok (.directory _) => .error .isADirectory

/-- Give a file its content; the file need not exist, its directory does. -/
def write (path : List String) (content : ByteArray) : FileTree → Except FileFault FileTree :=
  alter (fun
    | some (.directory _) => .error .isADirectory
    | _ => .ok (some (.file content))) path

/-- Remove a directory with everything in it. -/
def removeDirectory (path : List String) : FileTree → Except FileFault FileTree :=
  alter (fun
    | none => .error .notFound
    | some (.file _) => .error .notADirectory
    | some (.directory _) => .ok none) path

/-- Make a directory; the one around it exists. -/
def makeDirectory (path : List String) : FileTree → Except FileFault FileTree :=
  alter (fun
    | none => .ok (some empty)
    | some _ => .error .alreadyExists) path

mutual

/-- The files of a tree with their content, and the empty directories, each with its path. -/
def leaves (path : List String) : FileTree → List (List String × Option ByteArray)
  | .file content => [(path, some content)]
  | .directory [] => [(path, none)]
  | .directory (entry :: rest) => leavesOfEntries path (entry :: rest)

/-- The leaves of the entries of a directory. -/
def leavesOfEntries (path : List String) :
    List (String × FileTree) → List (List String × Option ByteArray)
  | [] => []
  | (name, t) :: rest => leaves (path ++ [name]) t ++ leavesOfEntries path rest

end

end FileTree

/-! ## Disks -/

/-- A file tree as a program sees it that works in one of its directories. -/
structure Disk where
  root : FileTree
  workingDirectory : List String

namespace Disk

/-- What stands between the slashes of a text. -/
def stretches : List Char → List (List Char)
  | [] => [[]]
  | c :: rest => if c = '/' then [] :: stretches rest else (stretches rest).modifyHead (c :: ·)

/-- The components of a path text. -/
def components (path : String) : List String := (stretches path.toList).map String.ofList

/-- Where a path text begins. -/
def origin (d : Disk) (path : String) : List String :=
  if path.startsWith "/" then [] else d.workingDirectory

/-- Follow components from a directory. Dots need a directory to stand for. -/
def follow (t : FileTree) (done : List String) : List String → Except FileFault (List String)
  | [] => .ok done
  | c :: rest =>
    if c = "" ∨ c = "." ∨ c = ".." then
      match t.find done with
      | .error fault => .error fault
      | .ok (.file _) => .error .notADirectory
      | .ok (.directory _) => follow t (if c = ".." then done.dropLast else done) rest
    else follow t (done ++ [c]) rest

/-- A path text names something: it is not empty, has less than 4096 bytes, and no NUL. -/
def checkText (path : String) : Except FileFault Unit :=
  if path.contains '\x00' then .error .nulCharacter
  else if path.isEmpty then .error .notFound
  else if 4096 ≤ path.utf8ByteSize then .error .nameTooLong
  else .ok ()

/-- The place of a path text in the tree. -/
def resolve (d : Disk) (path : String) : Except FileFault (List String) :=
  match checkText path with
  | .error fault => .error fault
  | .ok () => follow d.root (d.origin path) (components path)

/-- What lies at a path text. -/
def find (d : Disk) (path : String) : Except FileFault FileTree :=
  (d.resolve path).bind fun place => d.root.find place

def contains (d : Disk) (path : String) : Bool := (d.find path).isOk

def isDirectory (d : Disk) (path : String) : Bool :=
  match d.find path with
  | .ok (.directory _) => true
  | _ => false

def read (d : Disk) (path : String) : Except FileFault ByteArray := do
  d.root.read (← d.resolve path)

def write (d : Disk) (path : String) (content : ByteArray) : Except FileFault Disk := do
  let root ← d.root.write (← d.resolve path) content
  return { d with root }

def removeDirectory (d : Disk) (path : String) : Except FileFault Disk := do
  let root ← d.root.removeDirectory (← d.resolve path)
  return { d with root }

/-- Where a new directory is made. Slashes at the end do not count; dots at the end stand for a
directory that exists. -/
def newPlace (d : Disk) (path : String) : Except FileFault (List String) :=
  match checkText path with
  | .error fault => .error fault
  | .ok () =>
    match (components path).reverse.dropWhile (·.isEmpty) with
    | [] => .error .alreadyExists
    | name :: above =>
      if name = "." ∨ name = ".." then
        (follow d.root (d.origin path) (above.reverse ++ ["."])).bind fun _ => .error .alreadyExists
      else (follow d.root (d.origin path) above.reverse).map (· ++ [name])

def makeDirectory (d : Disk) (path : String) : Except FileFault Disk := do
  let root ← d.root.makeDirectory (← d.newPlace path)
  return { d with root }

end Disk

end TypedQuery
