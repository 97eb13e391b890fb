-- SUMMARY: Making directories inside each other.
import TypedQuery.Emit.Location
import TypedQuery.Output.Host

/-!
# Directories

A directory is made together with those that lead to it. The innermost one that can be made is found
first, and then the missing ones are made from there on. What has been made stays when the next one
cannot be.
-/
namespace TypedQuery.Host

variable {m : Type → Type} [Monad m]

/-- Make a directory unless it is there; what is there has to be a directory. -/
def ensureDirectory (host : Host m) (path : String) : m (Except FileFault Unit) := do
  match ← host.makeDirectory path with
  | .error .alreadyExists =>
    return if ← host.isDirectory path then .ok () else .error .alreadyExists
  | made => return made

/-- Make directories one after the other. -/
def ensureAll (host : Host m) : List String → m (Except FileFault Unit)
  | [] => return .ok ()
  | path :: rest => do
    match ← host.ensureDirectory path with
    | .ok () => ensureAll host rest
    | failed => return failed

/-- Make the first directory of a list that lies in one that exists. Those before it are left over. -/
def ensureFirst (host : Host m) : List String → m (Except FileFault (List String))
  | [] => return .ok []
  | path :: above => do
    match ← host.ensureDirectory path with
    | .ok () => return .ok []
    | .error .notFound => return (← ensureFirst host above).map (path :: ·)
    | .error fault => return .error fault

/-- Make the directory at a path, and the directories that lead to it. -/
def makeDirectories (host : Host m) (path : String) : m (Except FileFault Unit) := do
  match ← host.ensureFirst (Path.leading path) with
  | .error fault => return .error fault
  | .ok left => host.ensureAll left.reverse

end TypedQuery.Host
