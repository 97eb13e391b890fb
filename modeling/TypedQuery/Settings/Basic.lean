-- SUMMARY: The settings of a generation run.
import TypedQuery.Error
import TypedQuery.Names.NameMap
import TypedQuery.Names.NameSet
import TypedQuery.Text.Blank

/-!
# Settings

What a user can choose about generated code. `Settings.validate` lists the rules that settings obey
before anything is generated with them.
-/
namespace TypedQuery

/-- The choices of a run. -/
structure Settings where
  /-- The unit of indentation. -/
  indent : String := "\t"
  /-- Members of generated objects can be assigned. -/
  objectsEditable : Bool := false
  /-- Generated arrays can be changed. -/
  arraysEditable : Bool := false
  /-- What the name of a builder adds to the name of its type. -/
  fetcherSuffix : String := "Fetcher"
  /-- By type, the fields that its builder leaves out. -/
  excluded : NameMap NameSet := ∅
  /-- By type, the fields that its default builder leaves out. -/
  defaultExcluded : NameMap NameSet := ∅
  /-- By scalar, the type that generated code uses for it. -/
  scalarTypes : NameMap String := ∅
  /-- The name of identity fields. -/
  idField : String := "id"
  deriving DecidableEq

namespace Settings

/-- Add a field to the ones that are listed for a type. -/
def addField (m : NameMap NameSet) (type field : String) : NameMap NameSet :=
  m.update type fun fields => (fields.getD ∅).insert field

/-- The field is listed for the type. -/
def lists (m : NameMap NameSet) (type field : String) : Bool :=
  (m.get? type).any (field ∈ ·)

/-- The builder of the type leaves the field out. -/
def excludes (s : Settings) (type field : String) : Bool := lists s.excluded type field

/-- The default builder of the type leaves the field out. -/
def excludesByDefault (s : Settings) (type field : String) : Bool :=
  lists s.defaultExcluded type field

/-- The first scalar whose target type is blank. -/
def blankScalar? (s : Settings) : Option String :=
  (s.scalarTypes.entries.find? fun (_, target) => (Text.trim target).isEmpty).map (·.1)

/-- The suffix and the name of identity fields are not empty, the indentation is blank, and every
scalar has a target type that is not. -/
def validate (s : Settings) : Except Error Unit :=
  if s.fetcherSuffix.isEmpty then .error (.settings .emptySuffix)
  else if !Text.allBlank s.indent then .error (.settings (.visibleIndent s.indent))
  else if s.idField.isEmpty then .error (.settings .emptyIdField)
  else
    match s.blankScalar? with
    | some scalar => .error (.settings (.blankScalarTarget scalar))
    | none => .ok ()

/-- The settings on one line. Of the field lists only the number of types is shown. -/
def describe (s : Settings) : String :=
  let entry (e : String × String) : String := Text.quote e.1 ++ ": " ++ Text.quote e.2
  "GeneratorConfig \x7b " ++ ", ".intercalate [
    "indent: " ++ Text.quote s.indent,
    "object_editable: " ++ toString s.objectsEditable,
    "array_editable: " ++ toString s.arraysEditable,
    "fetcher_suffix: " ++ Text.quote s.fetcherSuffix,
    "excluded_properties: " ++ toString s.excluded.size,
    "default_fetcher_excluded: " ++ toString s.defaultExcluded.size,
    "scalar_type_map: \x7b" ++ ", ".intercalate (s.scalarTypes.entries.map entry) ++ "\x7d",
    "id_field: " ++ Text.quote s.idField] ++ " \x7d"

end Settings

end TypedQuery
