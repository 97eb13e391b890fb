-- SUMMARY: Fields that can be selected.
import TypedQuery.Model.Category

/-!
# Selectable fields

What generated code says about one field of a type.
-/
namespace TypedQuery

/-- A field of a selectable type. -/
structure SelectableField where
  name : String
  category : FieldCategory := .scalar
  /-- The arguments, each with the spelling of its type. -/
  arguments : List (String × String) := []
  /-- The type that is selected from next. -/
  target : Option String := none
  connection : Option String := none
  edge : Option String := none
  /-- The value may be missing from a response. -/
  undefinable : Bool := false
  deriving DecidableEq, Repr

/-- A field as it is declared: a plain scalar by its name alone, any other field in full. -/
inductive FieldDecl where
  | scalar (name : String)
  | full (f : SelectableField)
  deriving DecidableEq, Repr

/-- The field that is declared. -/
def FieldDecl.field : FieldDecl → SelectableField
  | scalar name => { name }
  | full f => f

namespace SelectableField

/-- Give an argument its type; an argument that is present keeps its place. -/
def putArgument : List (String × String) → String × String → List (String × String)
  | [], argument => [argument]
  | first :: rest, argument =>
    if first.1 = argument.1 then argument :: rest else first :: putArgument rest argument

/-- Add an argument. -/
def withArgument (f : SelectableField) (name type : String) : SelectableField :=
  { f with arguments := putArgument f.arguments (name, type) }

/-- The field stands for several values. -/
def isPlural (f : SelectableField) : Bool :=
  f.category = .list || f.category = .connection

/-- The field leads to another selectable type. -/
def isAssociation (f : SelectableField) : Bool :=
  f.category = .reference || f.isPlural

/-- The field is selected by a call. -/
def isFunction (f : SelectableField) : Bool :=
  !f.arguments.isEmpty || f.isAssociation

/-- The field is described by its name alone. -/
def isShorthand (f : SelectableField) : Bool :=
  f.category = .scalar && f.arguments.isEmpty && !f.undefinable

/-- The fields are the same but for the order of their arguments, which are known by their names. -/
def Same (f g : SelectableField) : Prop :=
  { f with arguments := [] } = { g with arguments := [] } ∧ f.arguments.Perm g.arguments

instance (f g : SelectableField) : Decidable (f.Same g) := inferInstanceAs (Decidable (_ ∧ _))

end SelectableField

end TypedQuery
