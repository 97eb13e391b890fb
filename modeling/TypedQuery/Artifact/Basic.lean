-- SUMMARY: The files that a schema is turned into.
import TypedQuery.Artifact.Builder
import TypedQuery.Artifact.CommonTypes
import TypedQuery.Artifact.Definitions
import TypedQuery.Artifact.Index

/-!
# Artifacts

The files that are generated for a catalog, in the order in which they are written. Every artifact is
rendered on a page of its own.
-/
namespace TypedQuery

/-- A generated file. -/
inductive Artifact where
  | commonTypes (l : Lineage)
  | builder (b : Builder)
  | enum (d : EnumDef)
  | input (d : InputDef)
  | index (i : Index)

namespace Artifact

def location : Artifact → Location
  | commonTypes _ => CommonTypes.location
  | builder b => b.location
  | enum d => d.location
  | input d => d.location
  | index i => i.location

/-- The path of the file from the output directory. -/
def path (a : Artifact) : String := a.location.path

/-- Ask for imports. -/
def imports : Artifact → Writing Unit
  | builder b => b.imports
  | input d => d.imports
  | commonTypes _ | enum _ | index _ => pure ()

/-- Write the body. -/
def code : Artifact → Writing Unit
  | commonTypes l => CommonTypes.code l
  | builder b => b.code
  | enum d => d.code
  | input d => d.code
  | index i => i.code

/-- Write the whole file. -/
def write (a : Artifact) : Writing Unit := do
  a.imports
  Writing.closeImports
  a.code

/-- The page on which an artifact was written, and whether that succeeded. -/
def page (a : Artifact) (schema : Schema) (settings : Settings) : Except Error Unit × Page :=
  a.write { schema, settings, location := a.location }

/-- The text of the file. -/
def render (a : Artifact) (schema : Schema) (settings : Settings) : Except Error String :=
  match a.page schema settings with
  | (.ok (), p) => .ok p.content
  | (.error failure, _) => .error failure

end Artifact

namespace Catalog

/-- The builders of all types, in order. -/
def builders (c : Catalog) : Except Error (List Builder) :=
  c.types.mapM fun t => c.builder t.name

/-- What the index of the builders exports from one of them. -/
def builderExports (c : Catalog) (b : Builder) : ModuleExports :=
  { module := c.builderName b.typeName, types := b.exportedTypes, values := b.exportedValues }

/-- What an index exports from a module that defines one type. -/
def definitionExports (name : String) : ModuleExports := { module := name, types := [name] }

def commonExports : ModuleExports :=
  { module := "CommonTypes"
    types := ["WithTypeName", "ImplementationType"]
    values := ["upcastTypes", "downcastTypes"] }

def folderExports (folder : String) : ModuleExports := { module := folder, everything := true }

/-- All files, given the builders. -/
def artifactsOf (c : Catalog) (builders : List Builder) : List Artifact :=
  let enums := c.schema.enums
  let inputs := c.schema.inputs
  let enumIndex : List Artifact :=
    if enums.isEmpty then [] else [.index ⟨.enums, enums.map (definitionExports ·.name)⟩]
  let inputIndex : List Artifact :=
    if inputs.isEmpty then [] else [.index ⟨.inputs, inputs.map (definitionExports ·.name)⟩]
  let folders :=
    ["fetchers"] ++ (if enums.isEmpty then [] else ["enums"]) ++
      if inputs.isEmpty then [] else ["inputs"]
  [.commonTypes c.lineage] ++ builders.map .builder ++
    [.index ⟨.fetchers, builders.map c.builderExports⟩] ++
    enums.map .enum ++ inputs.map .input ++ enumIndex ++ inputIndex ++
    [.index ⟨.root, commonExports :: folders.map folderExports⟩]

/-- All files, in the order in which they are written. -/
def artifacts (c : Catalog) : Except Error (List Artifact) := c.builders.map c.artifactsOf

/-! ## Single files -/

/-- The text of a file of the catalog. -/
def render (c : Catalog) (a : Artifact) : Except Error String := a.render c.schema c.settings

def renderBuilder (c : Catalog) (name : String) : Except Error String :=
  match c.builder name with
  | .ok b => c.render (.builder b)
  | .error failure => .error failure

def renderCommonTypes (c : Catalog) : Except Error String := c.render (.commonTypes c.lineage)

def renderEnum (c : Catalog) (name : String) : Except Error String :=
  match c.schema.get? name with
  | some (.enum d) => c.render (.enum d)
  | _ => .error (.unknownType name .enumRendering)

def renderInput (c : Catalog) (name : String) : Except Error String :=
  match c.schema.get? name with
  | some (.input d) => c.render (.input d)
  | _ => .error (.unknownType name .inputRendering)

/-! ## Reports -/

/-- The leading types that have a builder, and the first one that has none. -/
def surveyed (c : Catalog) : List SelectableType → List SelectableType
  | [] => []
  | t :: rest =>
    match c.builder t.name with
    | .ok _ => t :: c.surveyed rest
    | .error _ => [t]

/-- The conflicts that are reported while the builders are made. -/
def builderEvents (c : Catalog) : List Event :=
  (c.surveyed c.types).flatMap fun t => t.conflicts.map (·.event)

end Catalog

end TypedQuery
