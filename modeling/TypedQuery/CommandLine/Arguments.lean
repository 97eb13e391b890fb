-- SUMMARY: The arguments of the command line.
import TypedQuery.Source.Loading
import TypedQuery.Text.Blank

/-!
# Arguments

A command line names a source, an output directory and optionally a file with settings. A later flag
overrides an earlier one of the same name, and a flag at the end of the line that lacks its value unsets
what an earlier one said.
-/
namespace TypedQuery.CommandLine

/-- What a command line asks for. -/
structure Arguments where
  source : Source
  out : String
  settings : Option String
  deriving DecidableEq, Repr

/-- Why a command line cannot be carried out. -/
inductive UsageFault where
  | headerWithoutValue
  | malformedHeader (header : String)
  | unknownArgument (argument : String)
  | noOutput
  | headerWithoutService
  | twoSources
  | noSource
  deriving DecidableEq, Repr

def UsageFault.message : UsageFault → String
  | headerWithoutValue => "--header requires a value"
  | malformedHeader header => "invalid header (expected k:v): " ++ header
  | unknownArgument argument => "unknown argument: " ++ argument
  | noOutput => "--out is required"
  | headerWithoutService => "--header only applies to --url"
  | twoSources => "--url and --schema are mutually exclusive"
  | noSource => "--url or --schema is required"

/-- Why a command line is not carried out: it asks for help, or it has a fault. -/
inductive Refusal where
  | help
  | fault (f : UsageFault)
  deriving DecidableEq, Repr

/-- What has been read of a command line. -/
structure Draft where
  url : Option String := none
  schema : Option String := none
  headers : List (String × String) := []
  out : Option String := none
  settings : Option String := none
  deriving DecidableEq, Repr

/-- A header: a name before the first colon and a value behind it. -/
def header? (text : String) : Option (String × String) :=
  let cs := text.toList
  match cs.dropWhile (· ≠ ':') with
  | [] => none
  | _ :: value =>
    some (Text.trim (String.ofList (cs.takeWhile (· ≠ ':'))), Text.trim (String.ofList value))

/-- Read flags with their values. -/
def scan (d : Draft) : List String → Except Refusal Draft
  | [] => .ok d
  | flag :: rest =>
    match flag, rest with
    | "--url", [] => .ok { d with url := none }
    | "--url", value :: others => scan { d with url := some value } others
    | "--schema", [] => .ok { d with schema := none }
    | "--schema", value :: others => scan { d with schema := some value } others
    | "--out", [] => .ok { d with out := none }
    | "--out", value :: others => scan { d with out := some value } others
    | "--config", [] => .ok { d with settings := none }
    | "--config", value :: others => scan { d with settings := some value } others
    | "--header", [] => .error (.fault .headerWithoutValue)
    | "--header", value :: others =>
      match header? value with
      | some h => scan { d with headers := d.headers ++ [h] } others
      | none => .error (.fault (.malformedHeader value))
    | "--help", _ | "-h", _ => .error .help
    | other, _ => .error (.fault (.unknownArgument other))

/-- An output directory and exactly one source are needed, and headers only go with a service. -/
def Draft.finish (d : Draft) : Except Refusal Arguments :=
  match d.out with
  | none => .error (.fault .noOutput)
  | some out =>
    match d.schema, d.url with
    | some path, none =>
      if d.headers.isEmpty then .ok ⟨.file path, out, d.settings⟩
      else .error (.fault .headerWithoutService)
    | none, some url => .ok ⟨.service url d.headers, out, d.settings⟩
    | some _, some _ => .error (.fault .twoSources)
    | none, none => .error (.fault .noSource)

/-- Read a command line, without the name of the program. -/
def Arguments.parse (line : List String) : Except Refusal Arguments :=
  match scan {} line with
  | .error refusal => .error refusal
  | .ok d => d.finish

end TypedQuery.CommandLine
