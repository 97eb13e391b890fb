-- SUMMARY: Writing all files of a catalog.
import TypedQuery.Artifact.Basic
import TypedQuery.Output.Directories

/-!
# Generation

The folders that belong to the generator are removed, and then every artifact is written, one after the
other. A file is made before it is rendered, so the file of an artifact that cannot be rendered is left
behind empty, and no later file is touched.
-/
namespace TypedQuery

variable {m : Type → Type} [Monad m]

namespace Host

/-- An operation on a path; a fault is reported and ends the run. -/
def attempt (host : Host m) (path : String) (operation : m (Except FileFault Unit)) :
    ExceptT Error m Unit := do
  match ← operation with
  | .ok () => return ()
  | .error fault =>
    host.report (.fileFailure path fault)
    throw (.file fault)

/-- Remove a folder of the output directory, if there is one. -/
def clearFolder (host : Host m) (out folder : String) : ExceptT Error m Unit := do
  let path := Path.join out folder
  if ← host.contains path then
    host.report (.removing path)
    host.attempt path (host.removeDirectory path)

/-- Write a text, or stop because there is none. The path is returned. -/
def writeFile (host : Host m) (path : String) (text : Except Error String) :
    ExceptT Error m String := do
  host.attempt (Path.parent path) (host.makeDirectories (Path.parent path))
  host.attempt path (host.create path)
  match text with
  | .error failure => throw failure
  | .ok text =>
    host.attempt path (host.write path text)
    host.report (.wrote path)
    return path

end Host

namespace Catalog

/-- Write files under an output directory. -/
def writeAll (c : Catalog) (host : Host m) (out : String) :
    List Artifact → ExceptT Error m (List String)
  | [] => return []
  | a :: rest => do
    let path ← host.writeFile (Path.join out a.path) (c.render a)
    let paths ← writeAll c host out rest
    return path :: paths

/-- Write all files of a catalog under an output directory. The paths are returned. -/
def generate (c : Catalog) (host : Host m) (out : String) : ExceptT Error m (List String) := do
  let files ← ExceptT.mk (pure c.artifacts)
  Folder.owned.forM (host.clearFolder out)
  host.attempt out (host.makeDirectories out)
  let written ← c.writeAll host out files
  host.report (.generated written.length out)
  return written

end Catalog

end TypedQuery
