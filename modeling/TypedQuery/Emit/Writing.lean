-- SUMMARY: Writing that can fail.
import TypedQuery.Emit.Page

/-!
# Writing

Writing changes a page and may fail; what was written before a failure stays on the page. References to
types are written here, because a reference to a type that has no form in generated code is the one
thing that a body can fail at.
-/
namespace TypedQuery

/-- Write on a page. -/
abbrev Writing (α : Type) : Type := ExceptT Error (StateM Page) α

namespace Writing

/-- A change of the page that cannot fail. -/
def change (f : Page → Page) : Writing Unit := fun p => (.ok (), f p)

def text (s : String) : Writing Unit := change (Page.text s)

def enter (kind : RegionKind) (multiline : Bool) : Writing Unit :=
  change (Page.enter kind multiline)

def leave : Writing Unit := change Page.leave

def leaveWith (suffix : String) : Writing Unit := change (Page.leaveWith suffix)

/-- The usual separator of the innermost region. -/
def separator : Writing Unit := change (Page.separate none)

def separatorWith (s : String) : Writing Unit := change (Page.separate (some s))

/-- A string literal in single quotes. -/
def literal (s : String) : Writing Unit := text ("'" ++ s ++ "'")

/-- Write inside a region, which is left whether that succeeds or not. -/
def region (kind : RegionKind) (multiline : Bool) (inside : Writing Unit) : Writing Unit := fun p =>
  let (result, after) := inside (p.enter kind multiline)
  (result, after.leave)

/-! ## Imports -/

/-- A change of the imports, which is refused once they are closed. -/
def changeImports (f : Page → Page) : Writing Unit := fun p =>
  if p.importsClosed then (.error .importsClosed, p) else (.ok (), f p)

def importStatement (statement : String) : Writing Unit :=
  changeImports (Page.addStatement statement)

def importType (type : TypeRef) : Writing Unit := changeImports (Page.addType type)

/-- Import what the type and the arguments of a field refer to. -/
def importField (f : FieldDef) : Writing Unit := do
  importType f.type
  f.arguments.forM fun a => importType a.type

def closeImports : Writing Unit := change fun p => { p with importsClosed := true }

/-! ## Types -/

/-- The types that generated code uses for scalars, unless the settings say otherwise. -/
def usualScalarTypes : List (String × String) := [
  ("Boolean", "boolean"), ("Byte", "number"), ("Short", "number"), ("Int", "number"),
  ("Long", "number"), ("Float", "number"), ("Double", "number"), ("BigInteger", "number"),
  ("BigDecimal", "number"), ("String", "string"), ("Date", "string"), ("DateTime", "string"),
  ("LocalDate", "string"), ("LocalDateTime", "string"), ("ID", "string"), ("UUID", "string")]

/-- The type that generated code uses for a scalar. -/
def scalarType? (s : Settings) (scalar : String) : Option String :=
  s.scalarTypes.get? scalar <|> usualScalarTypes.lookup scalar

/-- A named type. Where `standIn` is given, it stands for every composite type. -/
def namedType (name : String) (standIn : Option String) : Writing Unit := fun p =>
  match p.schema.get? name with
  | none => (.error (.unknownType name (.file p.location.path)), p)
  | some (.scalar _) =>
    match scalarType? p.settings name with
    | some target => (.ok (), p.text target)
    | none => (.error (.unknownScalar name), p)
  | some (.object _) | some (.interface _) => (.ok (), p.text (standIn.getD name))
  | some (.union d) =>
    match standIn with
    | some s => (.ok (), p.text s)
    | none =>
      let members := d.members.foldl (fun p m => (p.separate (some " | ")).text m)
        (p.enter .blank false)
      (.ok (), members.leave)
  | some (.enum _) | some (.input _) => (.ok (), p.text name)

/-- A reference to a type. A list whose items may be absent says so. -/
def typeRef (type : TypeRef) (standIn : Option String) : Writing Unit :=
  match type with
  | .nonNull inner => typeRef inner standIn
  | .named name => namedType name standIn
  | .list item => do
    let settings := (← get).settings
    text (if settings.arraysEditable then "Array" else "ReadonlyArray")
    enter .generic false
    typeRef item standIn
    if item.isNullable then text " | undefined"
    leave

/-- What precedes a member that cannot be assigned. -/
def readonlyWord (s : Settings) : String := if s.objectsEditable then "" else "readonly "

/-- A member of an object type. -/
def property (name : String) (type : TypeRef) (standIn : Option String) : Writing Unit := do
  text (readonlyWord (← get).settings)
  text name
  if type.isNullable then text "?"
  text ": "
  typeRef type standIn

end Writing

end TypedQuery
