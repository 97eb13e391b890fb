-- SUMMARY: The program on the machine that it runs on.
import TypedQuery.CommandLine.LogFilter
import TypedQuery.CommandLine.Run

/-!
# The executable

A host that works on the files of the machine and writes its reports to the error stream. It has no
network. What to show of the reports is read from the environment.
-/
namespace TypedQuery.Machine

/-- The cause of a failed operation. -/
def fault : IO.Error → FileFault
  | .noFileOrDirectory .. => .notFound
  | .alreadyExists .. => .alreadyExists
  | .inappropriateType _ 20 _ => .notADirectory
  | .inappropriateType _ 21 _ => .isADirectory
  | .invalidArgument _ 36 _ => .nameTooLong
  | failure => .other (toString failure)

/-- Carry out an operation on a path and catch its failure. -/
def attempt {α : Type} (path : String) (operation : IO α) : IO (Except FileFault α) :=
  match Disk.checkText path with
  | .error fault => pure (.error fault)
  | .ok () => tryCatch (Except.ok <$> operation) fun failure => pure (.error (fault failure))

def contains (path : String) : IO Bool :=
  Except.isOk <$> attempt path (IO.FS.Handle.mk path .read)

def isDirectory (path : String) : IO Bool := contains (path ++ "/.")

/-- The machine as a host. -/
def host (filter : LogFilter) : Host IO where
  contains := contains
  read path := attempt path (IO.FS.readBinFile path)
  removeDirectory path := attempt path (IO.FS.removeDirAll path)
  isDirectory := isDirectory
  makeDirectory path := attempt path (IO.FS.createDir path)
  create path := attempt path (IO.FS.writeFile path "")
  write path text := attempt path (IO.FS.writeFile path text)
  fetch _ := pure none
  report e := if filter.admits e then IO.eprintln e.line else pure ()

end TypedQuery.Machine

def main (line : List String) : IO UInt32 := do
  let filter := TypedQuery.LogFilter.ofSetting (← IO.getEnv "RUST_LOG")
  filter.warnings.forM (IO.eprintln ·)
  let outcome ← TypedQuery.CommandLine.run (TypedQuery.Machine.host filter) line
  IO.print outcome.output
  IO.eprint outcome.complaint
  return outcome.exit.toUInt32
