-- SUMMARY: What a run reports while it works.
import TypedQuery.Error

/-!
# Events

The reports of a run, each with its severity and its wording, and the filter that decides which of
them are shown.
-/
namespace TypedQuery

/-- The severities, most severe first. -/
inductive Severity where
  | error | warn | info | debug
  deriving DecidableEq, Repr

def Severity.word : Severity → String
  | error => "ERROR"
  | warn => "WARN"
  | info => "INFO"
  | debug => "DEBUG"

/-- The place of a severity in the order from the most severe. -/
def Severity.rank : Severity → Nat
  | error => 1
  | warn => 2
  | info => 3
  | debug => 4

/-- A report. -/
inductive Event where
  | lineageResolved (roots raw kept : Nat)
  | typesBuilt (types connections : Nat)
  | fieldConflict (field type origin : String)
  | strayLeave
  | removing (path : String)
  | wrote (path : String)
  | generated (files : Nat) (directory : String)
  | fileFailure (path : String) (fault : FileFault)
  | readingSchema (path : String)
  | fetchingSchema (address : String)
  | requestFailed (status : Nat) (reason : String)
  | settingsFailed (error : Error)
  | schemaFailed (error : Error)
  | generationFailed (error : Error)
  deriving DecidableEq, Repr

namespace Event

def severity : Event → Severity
  | lineageResolved .. | typesBuilt .. | removing _ | generated .. => .debug
  | wrote _ | readingSchema _ | fetchingSchema _ => .info
  | fieldConflict .. | strayLeave => .warn
  | fileFailure .. | requestFailed .. | settingsFailed _ | schemaFailed _ | generationFailed _ =>
    .error

/-- The part of the program that an event is attributed to. -/
def origin : Event → String
  | lineageResolved .. => "fetchgen::inheritance"
  | typesBuilt .. => "fetchgen::context"
  | fieldConflict .. => "fetchgen::fetchable"
  | strayLeave => "fetchgen::writer"
  | removing _ | wrote _ | generated .. | fileFailure .. => "fetchgen::generator"
  | readingSchema _ | fetchingSchema _ | requestFailed .. => "fetchgen::loader"
  | settingsFailed _ | schemaFailed _ | generationFailed _ => "fetchgen"

def message : Event → String
  | lineageResolved roots raw kept =>
    "inheritance resolved: " ++ toString roots ++ " downcast roots (" ++ toString raw ++
      " raw edges, " ++ toString kept ++ " kept)"
  | typesBuilt types connections =>
    "built " ++ toString types ++ " fetchable types (" ++ toString connections ++ " connections)"
  | fieldConflict field type origin =>
    "field " ++ field ++ " of " ++ type ++
      " conflicts with a field of the same name inherited from " ++ origin ++
      "; keeping the first one visited"
  | strayLeave => "leave called without an open scope"
  | removing path => "removing " ++ path
  | wrote path => "wrote " ++ path
  | generated files directory => "generated " ++ toString files ++ " files into " ++ directory
  | fileFailure path fault => "io failure at " ++ path ++ ": " ++ fault.message
  | readingSchema path => "reading schema from " ++ path
  | fetchingSchema address => "fetching schema from " ++ address
  | requestFailed status reason =>
    "schema request failed with status " ++ toString status ++ " " ++ reason
  | settingsFailed error => "failed to load config: " ++ error.message
  | schemaFailed error => "failed to load schema: " ++ error.message
  | generationFailed error =>
    if error.isDefect then "codegen failed (generator defect): " ++ error.message
    else "codegen failed: " ++ error.message

/-- A character as it is shown on a terminal. Those that a terminal obeys are spelled out. -/
def shown (c : Char) : String :=
  match c with
  | '\x07' => "\\x07"
  | '\x08' => "\\x08"
  | '\x0c' => "\\x0c"
  | '\x1b' => "\\x1b"
  | '\x7f' => "\\x7f"
  | _ =>
    if 0x80 ≤ c.toNat && c.toNat ≤ 0x9f then
      "\\u\x7b" ++ String.ofList (Nat.toDigits 16 c.toNat) ++ "\x7d"
    else c.toString

/-- The event on a line of its own, with its severity and its origin. -/
def line (e : Event) : String :=
  e.severity.word ++ " " ++ e.origin ++ ": " ++ String.join (e.message.toList.map shown)

end Event

end TypedQuery
