-- SUMMARY: Writing as data.
import TypedQuery.Emit.Writing

/-!
# Operations

The operations on a page as data, so that a sequence of them can be given, replayed and reasoned about
as a whole.
-/
namespace TypedQuery

/-- One operation on a page. -/
inductive Op where
  | text (s : String)
  | enter (kind : RegionKind) (multiline : Bool)
  | leave
  | leaveWith (suffix : String)
  | separator (s : Option String)
  | literal (s : String)
  | property (name : String) (type : TypeRef) (standIn : Option String)
  | typeRef (type : TypeRef) (standIn : Option String)
  | importStatement (statement : String)
  | importType (type : TypeRef)
  | importField (f : FieldDef)
  | closeImports
  | readonlyWord
  | region (kind : RegionKind) (multiline : Bool) (inside : List Op)
  deriving Repr, Inhabited

namespace Op

mutual

/-- Carry out an operation. Only `readonlyWord` has a result. -/
def run : Op → Writing (Option String)
  | text s => do Writing.text s; return none
  | enter kind multiline => do Writing.enter kind multiline; return none
  | leave => do Writing.leave; return none
  | leaveWith suffix => do Writing.leaveWith suffix; return none
  | separator s => do Writing.change (Page.separate s); return none
  | literal s => do Writing.literal s; return none
  | property name type standIn => do Writing.property name type standIn; return none
  | typeRef type standIn => do Writing.typeRef type standIn; return none
  | importStatement statement => do Writing.importStatement statement; return none
  | importType type => do Writing.importType type; return none
  | importField f => do Writing.importField f; return none
  | closeImports => do Writing.closeImports; return none
  | readonlyWord => do return some (Writing.readonlyWord (← get).settings)
  | region kind multiline inside => do
    Writing.region kind multiline (runAll inside)
    return none

/-- Carry out operations up to the first that fails. -/
def runAll : List Op → Writing Unit
  | [] => pure ()
  | op :: rest => do
    let _ ← run op
    runAll rest

end

/-- Carry out all operations, whether they fail or not: the result of each with the text of the page
behind it, and the page at the end. -/
def replay (p : Page) : List Op → List (Except Error (Option String) × String) × Page
  | [] => ([], p)
  | op :: rest =>
    let (result, after) := op.run p
    let (others, last) := replay after rest
    ((result, after.content) :: others, last)

end Op

end TypedQuery
