-- SUMMARY: The six kinds of named types a schema defines.
import TypedQuery.Schema.TypeRef

/-!
# Type definitions

What a schema says about one named type. `TypeDef.merge?` appends the content of an extension to the
definition it extends, provided that both are of one kind.
-/
namespace TypedQuery

/-- A named input: an argument of a field, or a field of an input object. -/
structure InputValue where
  name : String
  type : TypeRef
  deriving DecidableEq, Repr

/-- An output field of an object or interface. -/
structure FieldDef where
  name : String
  type : TypeRef
  arguments : List InputValue
  deriving DecidableEq, Repr

/-- Two fields of one shape have the same type and the same arguments, whatever their names. -/
def FieldDef.sameShape (a b : FieldDef) : Bool :=
  decide (a.type = b.type) && decide (a.arguments = b.arguments)

theorem FieldDef.sameShape_iff {a b : FieldDef} :
    a.sameShape b = true ↔ a.type = b.type ∧ a.arguments = b.arguments := by
  simp [sameShape]

/-- The body of an object or interface. -/
structure ObjectDef where
  name : String
  interfaces : List String
  fields : List FieldDef
  deriving DecidableEq, Repr

/-- The first field of a name. -/
def ObjectDef.field? (d : ObjectDef) (name : String) : Option FieldDef :=
  d.fields.find? (·.name = name)

structure UnionDef where
  name : String
  members : List String
  deriving DecidableEq, Repr

structure EnumDef where
  name : String
  values : List String
  deriving DecidableEq, Repr

structure InputDef where
  name : String
  fields : List InputValue
  deriving DecidableEq, Repr

/-- The kinds of named types. -/
inductive TypeKind where
  | object | interface | union | enum | input | scalar
  deriving DecidableEq, Repr

/-- The word that introduces a definition of the kind. -/
def TypeKind.keyword : TypeKind → String
  | object => "type"
  | interface => "interface"
  | union => "union"
  | enum => "enum"
  | input => "input"
  | scalar => "scalar"

/-- One named type. -/
inductive TypeDef where
  | object (d : ObjectDef)
  | interface (d : ObjectDef)
  | union (d : UnionDef)
  | enum (d : EnumDef)
  | input (d : InputDef)
  | scalar (name : String)
  deriving DecidableEq, Repr

namespace TypeDef

def name : TypeDef → String
  | object d | interface d => d.name
  | union d => d.name
  | enum d => d.name
  | input d => d.name
  | scalar name => name

def kind : TypeDef → TypeKind
  | object _ => .object
  | interface _ => .interface
  | union _ => .union
  | enum _ => .enum
  | input _ => .input
  | scalar _ => .scalar

/-- Fields can be selected on values of objects, interfaces and unions. -/
def isComposite : TypeDef → Bool
  | object _ | interface _ | union _ => true
  | _ => false

/-- The output fields that the definition lists itself. -/
def fields : TypeDef → List FieldDef
  | object d | interface d => d.fields
  | _ => []

/-- The interfaces that the definition lists itself. -/
def interfaces : TypeDef → List String
  | object d | interface d => d.interfaces
  | _ => []

/-- The definition followed by the content of an extension of the same kind. -/
def merge? : TypeDef → TypeDef → Option TypeDef
  | object d, object e => some (object ⟨d.name, d.interfaces ++ e.interfaces, d.fields ++ e.fields⟩)
  | interface d, interface e =>
    some (interface ⟨d.name, d.interfaces ++ e.interfaces, d.fields ++ e.fields⟩)
  | union d, union e => some (union ⟨d.name, d.members ++ e.members⟩)
  | enum d, enum e => some (enum ⟨d.name, d.values ++ e.values⟩)
  | input d, input e => some (input ⟨d.name, d.fields ++ e.fields⟩)
  | scalar name, scalar _ => some (scalar name)
  | _, _ => none

theorem name_of_merge? {d e merged : TypeDef} (h : d.merge? e = some merged) :
    merged.name = d.name := by
  cases d <;> cases e <;> simp [merge?] at h <;> subst h <;> rfl

end TypeDef

end TypedQuery
