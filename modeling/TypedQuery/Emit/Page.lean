-- SUMMARY: Pages of indented text with nested regions and an import header.
import TypedQuery.Emit.Location
import TypedQuery.Schema.Basic
import TypedQuery.Settings.Basic

/-!
# Pages

A page is a file while it is written: the text so far, the regions that are open, and the imports.
Text that follows a line break is indented by the number of open regions when its first character is
written, so that a blank line stays empty. Main statements: `regions_text` and `body_text` describe a
piece of text by what it does to the open regions and to the body.
-/
namespace TypedQuery

/-! ## Regions -/

/-- The kinds of regions. -/
inductive RegionKind where
  | block | parameters | array | generic | blank
  deriving DecidableEq, Repr

namespace RegionKind

def opening : RegionKind → String
  | block => "\x7b"
  | parameters => "("
  | array => "["
  | generic => "<"
  | blank => ""

def closing : RegionKind → String
  | block => "\x7d"
  | parameters => ")"
  | array => "]"
  | generic => ">"
  | blank => ""

/-- The region is a list, whose items have a comma and a space between them. -/
def isList : RegionKind → Bool
  | parameters | array | generic => true
  | block | blank => false

def separator (k : RegionKind) : String := if k.isList then "," else ""

end RegionKind

/-- An open region. -/
structure Region where
  kind : RegionKind
  /-- The items stand on lines of their own. -/
  multiline : Bool
  /-- Something has been written into the region. -/
  written : Bool
  deriving DecidableEq, Repr

/-! ## Indentation -/

/-- Text with an indentation before the first character of each line. `pending` tells that a line
begins where the text begins. -/
def indentLines (indentation : List Char) (pending : Bool) : List Char → List Char
  | [] => []
  | c :: rest =>
    if c = '\n' then '\n' :: indentLines indentation true rest
    else (if pending then indentation else []) ++ c :: indentLines indentation false rest

/-- Whether a line begins behind a text. -/
def pendingAfter (pending : Bool) : List Char → Bool
  | [] => pending
  | c :: rest => pendingAfter (c = '\n') rest

theorem indentLines_append {indentation : List Char} {pending : Bool} {a b : List Char} :
    indentLines indentation pending (a ++ b) =
      indentLines indentation pending a ++ indentLines indentation (pendingAfter pending a) b := by
  induction a generalizing pending with
  | nil => rfl
  | cons c rest ih =>
    by_cases h : c = '\n' <;> simp [indentLines, pendingAfter, h, ih]

theorem pendingAfter_append {pending : Bool} {a b : List Char} :
    pendingAfter pending (a ++ b) = pendingAfter (pendingAfter pending a) b := by
  induction a generalizing pending with
  | nil => rfl
  | cons c rest ih => simp [pendingAfter, ih]

/-! ## Pages -/

/-- A file while it is written. -/
structure Page where
  schema : Schema
  settings : Settings
  location : Location
  /-- The open regions, innermost first. -/
  regions : List Region := []
  /-- The next character begins a line. -/
  pending : Bool := false
  body : String := ""
  /-- The import statements, in the order in which they were first asked for. -/
  statements : List String := []
  /-- The types to import, in the order in which they were first asked for. -/
  importedTypes : List String := []
  importsClosed : Bool := false
  /-- How often a region was left while none was open. -/
  strayLeaves : Nat := 0
  deriving DecidableEq

namespace Page

/-- The indentation of the open regions. -/
def indentation (p : Page) : List Char :=
  (List.replicate p.regions.length p.settings.indent.toList).flatten

/-- The innermost region has been written into. -/
def markWritten : List Region → List Region
  | [] => []
  | r :: outer => { r with written := true } :: outer

/-- Write text. -/
def text (s : String) (p : Page) : Page :=
  if s.isEmpty then p
  else { p with
    regions := markWritten p.regions
    body := p.body ++ String.ofList (indentLines p.indentation p.pending s.toList)
    pending := pendingAfter p.pending s.toList }

theorem regions_text {s : String} {p : Page} (h : s ≠ "") :
    (p.text s).regions = markWritten p.regions := by
  simp [text, h]

theorem body_text {s : String} {p : Page} :
    (p.text s).body.toList =
      p.body.toList ++ indentLines p.indentation p.pending s.toList := by
  by_cases h : s = "" <;> simp [text, h, indentLines]

theorem pending_text {s : String} {p : Page} :
    (p.text s).pending = pendingAfter p.pending s.toList := by
  by_cases h : s = "" <;> simp [text, h, pendingAfter]

/-- Open a region. -/
def enter (kind : RegionKind) (multiline : Bool) (p : Page) : Page :=
  let opened := p.text kind.opening
  let broken := if multiline then opened.text "\n" else opened
  { broken with regions := ⟨kind, multiline, false⟩ :: broken.regions }

/-- Close the innermost region and write what follows it. A region that has been written into counts as
written in the region around it. -/
def leaveWith (suffix : String) (p : Page) : Page :=
  match p.regions with
  | [] => { p with strayLeaves := p.strayLeaves + 1 }
  | r :: outer =>
    let left := { p with regions := if r.written then markWritten outer else outer }
    let broken := if r.multiline && !left.pending then left.text "\n" else left
    (broken.text r.kind.closing).text suffix

/-- Close the innermost region. -/
def leave (p : Page) : Page := p.leaveWith ""

/-- Write a separator if the innermost region has been written into: the one given, or the one that is
usual for the region. -/
def separate (separator : Option String) (p : Page) : Page :=
  match p.regions with
  | [] => p
  | r :: _ =>
    if !r.written then p
    else
      let s := separator.getD r.kind.separator
      if r.multiline then (p.text (Text.trimEnd s)).text "\n"
      else if r.kind.isList && !s.endsWith " " then (p.text s).text " "
      else p.text s

/-! ## Imports -/

/-- Add a name at the end of a list that does not hold it yet. -/
def addNew (names : List String) (name : String) : List String :=
  if name ∈ names then names else names ++ [name]

/-- An import statement as it is listed: without trailing blanks, with a semicolon. -/
def statementLine (statement : String) : String :=
  let trimmed := Text.trimEnd statement
  if trimmed.endsWith ";" then trimmed else trimmed ++ ";"

/-- The folder of the module that defines an enum or input object. -/
def folderOf? (p : Page) (name : String) : Option Folder :=
  match p.schema.get? name with
  | some (.enum _) => some .enums
  | some (.input _) => some .inputs
  | _ => none

/-- Ask for an import statement. -/
def addStatement (statement : String) (p : Page) : Page :=
  { p with statements := addNew p.statements (statementLine statement) }

/-- Ask for the type behind a reference, if it lies in a module of its own that is not this one. -/
def addType (type : TypeRef) (p : Page) : Page :=
  if (p.folderOf? type.base).isSome ∧ p.location.defines ≠ some type.base then
    { p with importedTypes := addNew p.importedTypes type.base }
  else p

/-- The module that an enum or input object is imported from: the folder it lies in, or the file next
to this one. -/
def modulePath? (p : Page) (name : String) : Option String :=
  match p.folderOf? name with
  | none => none
  | some folder =>
    if p.location.folder = folder then some ("./" ++ name)
    else
      folder.name?.map fun directory =>
        (if p.location.folder = .root then "./" else "../") ++ directory

/-- Add a name to the group of a module; a new module comes last. -/
def addToGroup : List (String × List String) → String → String → List (String × List String)
  | [], module, name => [(module, [name])]
  | (first, names) :: rest, module, name =>
    if first = module then (first, names ++ [name]) :: rest
    else (first, names) :: addToGroup rest module name

/-- The imported types by module, each module where its first type was asked for. -/
def importGroups (p : Page) : List (String × List String) :=
  p.importedTypes.foldl
    (fun groups name =>
      match p.modulePath? name with
      | some module => addToGroup groups module name
      | none => groups)
    []

/-- The lines before the body, and an empty one behind them if there are any. -/
def header (p : Page) : String :=
  let statements := p.statements.map (· ++ "\n")
  let groups := p.importGroups.map fun (module, names) =>
    "import type \x7b " ++ ", ".intercalate names ++ " \x7d from '" ++ module ++ "';\n"
  let lines := String.join (statements ++ groups)
  if lines.isEmpty then "" else lines ++ "\n"

/-- The text of the file. -/
def content (p : Page) : String := p.header ++ p.body

end Page

/-! ## Sinks -/

/-- What takes bytes, one piece after the other. -/
structure Sink (m : Type → Type) where
  write : ByteArray → m Unit
  flush : m Unit

/-- The sink that keeps the bytes. -/
def Sink.buffer : Sink (StateM ByteArray) where
  write bytes := modify (· ++ bytes)
  flush := return ()

/-- Write the file to a sink. -/
def Page.finish {m : Type → Type} [Monad m] (p : Page) (sink : Sink m) : m Unit := do
  sink.write p.header.toUTF8
  sink.write p.body.toUTF8
  sink.flush

end TypedQuery
