-- SUMMARY: Types whose fields can be selected, and the fields they inherit.
import TypedQuery.Event
import TypedQuery.Model.Field

/-!
# Selectable types

A selectable type declares fields and has super types, which are selectable types themselves.
`SelectableType.make?` is the only place that checks the rules on such types. `harvest` walks over a
type and its super types, keeps the first field of every name, and notes the conflicts it passes.
-/
namespace TypedQuery

/-- A type whose fields can be selected. -/
structure SelectableType where
  name : String
  category : TypeCategory
  superTypes : List SelectableType
  declared : List SelectableField
  deriving Repr

namespace SelectableType

/-! ## Construction -/

/-- Each field is complete, and none has the name of an earlier one. -/
def checkFields (type : String) : List String → List SelectableField → Except Error Unit
  | _, [] => .ok ()
  | earlier, f :: rest =>
    if f.isAssociation && f.target.isNone then .error (.invalidType type (.noTarget f.name))
    else if f.category = .connection && (f.connection.isNone || f.edge.isNone) then
      .error (.invalidType type (.incompleteConnection f.name))
    else if f.name ∈ earlier then .error (.invalidType type (.declaredTwice f.name))
    else checkFields type (f.name :: earlier) rest

/-- A field of the name is there, and of the category. -/
def requireField (type : String) (fields : List SelectableField) (name : String)
    (category : FieldCategory) : Except Error Unit :=
  match fields.find? (·.name = name) with
  | some f =>
    if f.category = category then .ok ()
    else .error (.invalidType type (.wrongCategory name category f.category))
  | none => .error (.invalidType type (.missingField name category))

/-- The fields that the category of a type asks for. -/
def requiredFields : TypeCategory → List (String × FieldCategory)
  | .object => []
  | .connection => [("edges", .list)]
  | .edge => [("node", .reference), ("cursor", .scalar)]

/-- A type, if its fields are complete and distinct, if it has the fields that its category asks for,
and if only an object type has super types. -/
def make? (name : String) (category : TypeCategory) (superTypes : List SelectableType)
    (declared : List SelectableField) : Except Error SelectableType := do
  checkFields name [] declared
  (requiredFields category).forM fun (field, required) => requireField name declared field required
  if category ≠ .object ∧ ¬ superTypes.isEmpty then
    throw (.invalidType name (.superTypesOn category))
  return { name, category, superTypes, declared }

/-! ## Families -/

mutual

/-- A type, and then every super type on every path up. -/
def family : SelectableType → List SelectableType
  | ⟨name, category, superTypes, declared⟩ =>
    ⟨name, category, superTypes, declared⟩ :: familyOfAll superTypes

/-- The families of several types, one after the other. -/
def familyOfAll : List SelectableType → List SelectableType
  | [] => []
  | t :: rest => family t ++ familyOfAll rest

end

/-! ## All fields of a type -/

/-- A field that differs from the field of the same name that was found first. -/
structure Conflict where
  field : String
  type : String
  /-- The type on which the name was found first. -/
  origin : String
  deriving DecidableEq, Repr

def Conflict.event (c : Conflict) : Event := .fieldConflict c.field c.type c.origin

/-- What a walk has gathered: the first field of every name with the type that declares it, and the
conflicts. -/
structure Harvest where
  found : List (SelectableField × String) := []
  conflicts : List Conflict := []
  deriving DecidableEq, Repr

/-- Pass a field of a type. A field that differs from the one found first is in conflict with it, unless
that one was found on the path to here and so overrides it. -/
def Harvest.add (path : List String) (type : String) (h : Harvest) (f : SelectableField) : Harvest :=
  match h.found.find? (·.1.name = f.name) with
  | none => { h with found := h.found ++ [(f, type)] }
  | some (first, origin) =>
    if first.Same f ∨ origin ∈ path then h
    else { h with conflicts := h.conflicts ++ [⟨f.name, type, origin⟩] }

mutual

/-- Walk over a type and its super types, depth first. The path holds the names of the types below. -/
def gather (path : List String) (h : Harvest) : SelectableType → Harvest
  | ⟨name, _, superTypes, declared⟩ =>
    gatherAll (name :: path) (declared.foldl (Harvest.add (name :: path) name) h) superTypes

/-- Walk over several types, one after the other. -/
def gatherAll (path : List String) (h : Harvest) : List SelectableType → Harvest
  | [] => h
  | t :: rest => gatherAll path (gather path h t) rest

end

/-- The walk that starts at a type. -/
def harvest (t : SelectableType) : Harvest := gather [] {} t

/-- The declared and inherited fields: a type's own fields first, then those of its super types. -/
def fields (t : SelectableType) : List SelectableField := t.harvest.found.map (·.1)

/-- The declared or inherited field of a name. -/
def field? (t : SelectableType) (name : String) : Option SelectableField :=
  t.fields.find? (·.name = name)

/-- The conflicts among the fields of a type and its super types. -/
def conflicts (t : SelectableType) : List Conflict := t.harvest.conflicts

/-- The type declares a field of the name. -/
def declares (t : SelectableType) (name : String) : Bool :=
  t.declared.any (·.name = name)

end SelectableType

end TypedQuery
