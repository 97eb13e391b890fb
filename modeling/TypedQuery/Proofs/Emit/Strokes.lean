-- SUMMARY: What operations on a page ask to write, leaving indentation aside.
import TypedQuery.Emit.Op

/-!
# Strokes

A stroke is a character that is asked for, with the number of regions that are open at that moment. A
draft holds the open regions and the strokes so far; it knows neither indentation nor pending lines.
Whatever is written comes down to a few acts, and which acts these are depends on the sheet that is
written on, never on what stands there already: that is the `course` of an operation. `layout` turns
strokes into text.
-/
namespace TypedQuery

/-! ## Strokes and their layout -/

/-- A character that is asked for, and the number of regions that are open at that moment. -/
structure Stroke where
  char : Char
  depth : Nat
  deriving DecidableEq, Repr

/-- The strokes of a text that is asked for while `depth` regions are open. -/
def Stroke.ofText (depth : Nat) (s : String) : List Stroke := s.toList.map (⟨·, depth⟩)

/-- The text of strokes: every character in its place, and before each one that directly follows a line
break and is none itself, the unit of indentation as often as the depth of the character says. `begins`
tells that a line break precedes the strokes. -/
def layout (unit : List Char) (begins : Bool) : List Stroke → List Char
  | [] => []
  | stroke :: rest =>
    (if begins && stroke.char ≠ '\n' then (List.replicate stroke.depth unit).flatten else []) ++
      stroke.char :: layout unit (stroke.char = '\n') rest

/-- Whether a line begins behind strokes. -/
def beginsAfter (begins : Bool) : List Stroke → Bool
  | [] => begins
  | stroke :: rest => beginsAfter (stroke.char = '\n') rest

/-! ## Drafts -/

/-- The open regions, innermost first, and all strokes so far. -/
structure Draft where
  regions : List Region := []
  strokes : List Stroke := []
  deriving DecidableEq, Repr

namespace Draft

/-- Add strokes. The innermost region has been written into if there are any. -/
def add (strokes : List Stroke) (d : Draft) : Draft :=
  if strokes = [] then d
  else { regions := Page.markWritten d.regions, strokes := d.strokes ++ strokes }

/-- Ask for a text. -/
def write (s : String) (d : Draft) : Draft := d.add (Stroke.ofText d.regions.length s)

/-- The last stroke is a line break. -/
def endsLine (d : Draft) : Bool := beginsAfter false d.strokes

end Draft

/-- What stands between two items of a region: the separator that is given, or the usual one, and then a
line break if the items stand on lines of their own, or a space behind the separator of a list. -/
def Region.separation (r : Region) (separator : Option String) : String :=
  let s := separator.getD r.kind.separator
  if r.multiline then Text.trimEnd s ++ "\n"
  else if r.kind.isList && !s.endsWith " " then s ++ " "
  else s

/-- What writing comes down to: four acts on the body, and two that ask for imports. -/
inductive Act where
  | text (s : String)
  | enter (kind : RegionKind) (multiline : Bool)
  | leave (suffix : String)
  | separate (separator : Option String)
  | addStatement (statement : String)
  | addType (type : TypeRef)
  deriving DecidableEq, Repr

/-- The act asks for an import. -/
def Act.isImport : Act → Bool
  | addStatement _ | addType _ => true
  | text _ | enter _ _ | leave _ | separate _ => false

namespace Draft

/-- Do one act. The opening token of a region is asked for before the region is open, the closing token
when it is open no more. -/
def act (d : Draft) : Act → Draft
  | .text s => d.write s
  | .enter kind multiline =>
    let opened := d.write (kind.opening ++ if multiline then "\n" else "")
    { opened with regions := ⟨kind, multiline, false⟩ :: opened.regions }
  | .leave suffix =>
    match d.regions with
    | [] => d
    | r :: outer =>
      let left := { d with regions := if r.written then Page.markWritten outer else outer }
      left.write ((if r.multiline && !d.endsLine then "\n" else "") ++ r.kind.closing ++ suffix)
  | .separate separator =>
    match d.regions with
    | [] => d
    | r :: _ => if r.written then d.write (r.separation separator) else d
  | .addStatement _ | .addType _ => d

/-- Do several acts. -/
def perform (d : Draft) (acts : List Act) : Draft := acts.foldl act d

end Draft

/-! ## Courses -/

/-- What a page says about itself and no writing changes. -/
structure Sheet where
  schema : Schema
  settings : Settings
  location : Location

def Page.sheet (p : Page) : Sheet := ⟨p.schema, p.settings, p.location⟩

/-- The page on which nothing has been written yet. -/
def Sheet.fresh (sheet : Sheet) : Page :=
  { schema := sheet.schema, settings := sheet.settings, location := sheet.location }

/-- What writing comes down to: acts, how it ends, and whether the imports are closed then. -/
structure Course where
  acts : List Act := []
  result : Except Error Unit := .ok ()
  closed : Bool

namespace Course

/-- A course that succeeds and leaves the imports as they are. -/
def doing (closed : Bool) (acts : List Act) : Course := { acts, closed }

/-- Go on, unless the course has failed. -/
def andThen (c : Course) (next : Bool → Course) : Course :=
  match c.result with
  | .error _ => c
  | .ok () => { next c.closed with acts := c.acts ++ (next c.closed).acts }

/-- The course of a named type. -/
def ofNamed (sheet : Sheet) (name : String) (standIn : Option String) (closed : Bool) : Course :=
  match sheet.schema.get? name with
  | none => { result := .error (.unknownType name (.file sheet.location.path)), closed }
  | some (.scalar _) =>
    match Writing.scalarType? sheet.settings name with
    | some target => doing closed [.text target]
    | none => { result := .error (.unknownScalar name), closed }
  | some (.object _) | some (.interface _) => doing closed [.text (standIn.getD name)]
  | some (.union d) =>
    match standIn with
    | some s => doing closed [.text s]
    | none =>
      doing closed (.enter .blank false ::
        d.members.flatMap (fun m => [.separate (some " | "), .text m]) ++ [.leave ""])
  | some (.enum _) | some (.input _) => doing closed [.text name]

/-- The course of a reference to a type. Where the item of a list fails, the region of the list stays
open. -/
def ofRef (sheet : Sheet) (standIn : Option String) : TypeRef → Bool → Course
  | .nonNull inner, closed => ofRef sheet standIn inner closed
  | .named name, closed => ofNamed sheet name standIn closed
  | .list item, closed =>
    let array := if sheet.settings.arraysEditable then "Array" else "ReadonlyArray"
    (doing closed [.text array, .enter .generic false]).andThen fun closed =>
      (ofRef sheet standIn item closed).andThen fun closed =>
        doing closed ((if item.isNullable then [.text " | undefined"] else []) ++ [.leave ""])

/-- The course of a request for imports, which is refused once the imports are closed. -/
def ofImport (acts : List Act) (closed : Bool) : Course :=
  if closed then { result := .error .importsClosed, closed } else doing closed acts

end Course

namespace Op

mutual

/-- The course of an operation. -/
def course (sheet : Sheet) : Op → Bool → Course
  | text s, closed => .doing closed [.text s]
  | enter kind multiline, closed => .doing closed [.enter kind multiline]
  | leave, closed => .doing closed [.leave ""]
  | leaveWith suffix, closed => .doing closed [.leave suffix]
  | separator s, closed => .doing closed [.separate s]
  | literal s, closed => .doing closed [.text ("'" ++ s ++ "'")]
  | property name type standIn, closed =>
    (Course.doing closed ([.text (Writing.readonlyWord sheet.settings), .text name] ++
      (if type.isNullable then [.text "?"] else []) ++ [.text ": "])).andThen
      (.ofRef sheet standIn type)
  | typeRef type standIn, closed => .ofRef sheet standIn type closed
  | importStatement statement, closed => .ofImport [.addStatement statement] closed
  | importType type, closed => .ofImport [.addType type] closed
  | importField f, closed =>
    .ofImport (.addType f.type :: f.arguments.map fun a => .addType a.type) closed
  | closeImports, _ => .doing true []
  | readonlyWord, closed => .doing closed []
  | region kind multiline inside, closed =>
    let within := courseAll sheet inside closed
    { within with acts := .enter kind multiline :: within.acts ++ [.leave ""] }

/-- The course of several operations, up to the first that fails. -/
def courseAll (sheet : Sheet) : List Op → Bool → Course
  | [], closed => .doing closed []
  | op :: rest, closed => (op.course sheet closed).andThen (courseAll sheet rest)

end

/-- The acts of several operations that are all carried out, whether they fail or not. -/
def actsOfAll (sheet : Sheet) (closed : Bool) : List Op → List Act
  | [] => []
  | op :: rest =>
    let c := op.course sheet closed
    c.acts ++ actsOfAll sheet c.closed rest

/-- The draft of operations that are all carried out on a fresh page. -/
def draft (sheet : Sheet) (ops : List Op) : Draft := Draft.perform {} (actsOfAll sheet false ops)

end Op

end TypedQuery
