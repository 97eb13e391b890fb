-- SUMMARY: The command line program.
import TypedQuery.CommandLine.Arguments
import TypedQuery.Output.Generation
import TypedQuery.Settings.Json

/-!
# The program

The program reads its settings, loads the schema, models its types and writes the generated files, on
any host. Whatever goes wrong is reported and ends it.
-/
namespace TypedQuery.CommandLine

/-- The description of the command line. -/
def help : String :=
  "usage: fetchgen (--schema <file> | --url <endpoint>) --out <dir> [options]\n" ++
  "\n" ++
  "generate typescript fetcher builders from a graphql schema\n" ++
  "\n" ++
  "options:\n" ++
  "  --schema <file>      read the schema from a local sdl file\n" ++
  "  --url <endpoint>     download the schema sdl over http\n" ++
  "  --header <k:v>       extra request header for --url (repeatable)\n" ++
  "  --out <dir>          output directory; generated subdirectories are recreated\n" ++
  "  --config <file>      json generator configuration (camelCase keys)\n" ++
  "  -h, --help           print this help\n" ++
  "\n" ++
  "logging is controlled with RUST_LOG, e.g. RUST_LOG=fetchgen=debug\n"

/-- What the program leaves behind, apart from files and reports. -/
structure Outcome where
  exit : Nat
  output : String := ""
  complaint : String := ""
  deriving DecidableEq, Repr

variable {m : Type → Type} [Monad m]

/-- The settings of a run: those of a file, or the usual ones. -/
def loadSettings (host : Host m) : Option String → ExceptT Error m Settings
  | none => return {}
  | some path => do
    let text ← host.readText path
    ExceptT.mk (pure (Settings.ofJson text))

/-- Model the types of a schema and report on it. -/
def openCatalog (host : Host m) (schema : Schema) (settings : Settings) : ExceptT Error m Catalog := do
  (Catalog.modellingEvents schema settings).forM (host.report ·)
  ExceptT.mk (pure (Catalog.ofSchema schema settings))

/-- Model the types of a schema and write the generated files. -/
def generate (host : Host m) (schema : Schema) (settings : Settings) (out : String) :
    ExceptT Error m (List String) := do
  let catalog ← openCatalog host schema settings
  catalog.builderEvents.forM (host.report ·)
  catalog.generate host out

/-- Carry out a step; a failure is reported and ends the program. -/
def orReport {α : Type} (host : Host m) (event : Error → Event) (step : ExceptT Error m α)
    (next : α → m Outcome) : m Outcome := do
  match ← step.run with
  | .ok value => next value
  | .error failure =>
    host.report (event failure)
    return { exit := 1 }

/-- Carry out what a command line asks for. -/
def perform (host : Host m) (a : Arguments) : m Outcome :=
  orReport host .settingsFailed (loadSettings host a.settings) fun settings =>
    orReport host .schemaFailed (a.source.load host) fun schema =>
      orReport host .generationFailed (generate host schema settings a.out) fun _ =>
        return { exit := 0 }

/-- Run the program on a command line. -/
def run (host : Host m) (line : List String) : m Outcome :=
  match Arguments.parse line with
  | .ok a => perform host a
  | .error .help => return { exit := 0, output := help }
  | .error (.fault f) => return { exit := 1, complaint := f.message ++ "\n\n" ++ help ++ "\n" }

end TypedQuery.CommandLine
