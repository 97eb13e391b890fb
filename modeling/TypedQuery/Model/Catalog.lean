-- SUMMARY: The modelled types of a schema, ready for generating code.
import TypedQuery.Model.Outline
import TypedQuery.Text.LowerCase

/-!
# Catalogs

A catalog holds a selectable type for every composite type of a schema, in the order of the schema, and
answers how generated code names them.
-/
namespace TypedQuery

/-- An outline with its types. -/
structure Catalog extends Outline where
  types : List SelectableType

namespace Catalog

/-- Model every composite type of a schema. The settings have to be valid and the root operation types
have to be objects. -/
def ofSchema (schema : Schema) (settings : Settings) : Except Error Catalog := do
  settings.validate
  schema.checkRoots
  let outline := Outline.ofSchema schema settings
  let (types, _) ← (schema.compositeNames.mapM outline.build).run []
  return { outline with types }

/-- Every type that was modelled, super types included; a type can occur many times. -/
def known (c : Catalog) : List SelectableType := SelectableType.familyOfAll c.types

/-- The modelled type of a name. -/
def type? (c : Catalog) (name : String) : Except Error SelectableType :=
  match c.known.find? (·.name = name) with
  | some t => .ok t
  | none => .error (.unknownType name .lookup)

/-- The number of names among the modelled types. -/
def size (c : Catalog) : Nat := (NameSet.ofList (c.known.map (·.name))).size

/-! ## Names in generated code -/

/-- The name of the builder of a type. -/
def builderName (c : Catalog) (type : String) : String := type ++ c.settings.fetcherSuffix

/-- The name of the empty builder of a type. -/
def instanceName (_c : Catalog) (type : String) : String :=
  match type.toList with
  | [] => "$"
  | first :: rest => String.ofList (Text.lowerCase first ++ rest) ++ "$"

/-- The types whose builders can be passed for a field: its connection, or its target and everything
that the target can be narrowed to. -/
def associatedTypes (c : Catalog) (f : SelectableField) : List String :=
  match f.connection, f.target with
  | some connection, _ => [connection]
  | none, some target => target :: (c.lineage.descendants target).toList
  | none, none => []

/-! ## Reports -/

/-- What is reported while a schema is modelled. -/
def modellingEvents (schema : Schema) (settings : Settings) : List Event :=
  match settings.validate, schema.checkRoots with
  | .ok (), .ok () =>
    Lineage.event (Lineage.rawEdges schema) ::
      match ofSchema schema settings with
      | .ok c => [.typesBuilt c.size c.connections.length]
      | .error _ => []
  | _, _ => []

end Catalog

end TypedQuery
