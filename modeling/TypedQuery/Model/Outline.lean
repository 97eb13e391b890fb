-- SUMMARY: How the types of a schema are modelled.
import TypedQuery.Lineage
import TypedQuery.Model.Type
import TypedQuery.Settings.Basic

/-!
# Outlines

An outline is what is known of a schema before its types are modelled: its lineage and its connections.
`Outline.build` models one type together with its super types, each of them once. A redeclared field
that has the shape of the inherited one is left to the super type; one that narrows the shape stays
declared.
-/
namespace TypedQuery

/-! ## Connections -/

/-- A paginated list: an object with a list of edges, each with a cursor and a node. -/
structure Connection where
  type : String
  edge : String
  node : String
  deriving DecidableEq, Repr

namespace Schema

/-- The connection that a type definition makes, if its edges are objects with a node and a cursor. -/
def connectionOf? (s : Schema) : TypeDef → Option Connection
  | .object d =>
    match d.field? "edges" with
    | none => none
    | some edges =>
      if !edges.type.isList then none
      else
        match s.get? edges.type.base with
        | some (.object edge) =>
          match edge.field? "node", edge.field? "cursor" with
          | some node, some cursor =>
            if !node.type.isList && s.isComposite node.type.base && !cursor.type.isList &&
                (s.get? cursor.type.base).any (·.kind = .scalar) then
              some ⟨d.name, edges.type.base, node.type.base⟩
            else none
          | _, _ => none
        | _ => none
  | _ => none

/-- The connections of a schema, in order. -/
def connections (s : Schema) : List Connection := s.types.filterMap s.connectionOf?

/-- The fields that a composite type lists. A union lists those that its first member shares with all
others: fields of the same name and shape. -/
def listedFields (s : Schema) (name : String) : List FieldDef :=
  let fieldsOf (type : String) : List FieldDef := ((s.get? type).map TypeDef.fields).getD []
  match s.get? name with
  | some (.union d) =>
    match d.members with
    | [] => []
    | first :: others =>
      (fieldsOf first).filter fun f =>
        others.all fun other => (fieldsOf other).any fun g => g.name = f.name && g.sameShape f
  | _ => fieldsOf name

/-- Every root operation type is an object. -/
def checkRoots (s : Schema) : Except Error Unit :=
  s.roots.names.forM fun root =>
    match s.get? root with
    | some (.object _) => .ok ()
    | some d => .error (.invalidType root (.rootNotObject d.kind))
    | none => .error (.unknownType root .schemaDefinition)

end Schema

/-! ## Outlines -/

/-- What is known of a schema before its types are modelled. -/
structure Outline where
  schema : Schema
  settings : Settings
  lineage : Lineage
  connections : List Connection
  deriving DecidableEq

namespace Outline

def ofSchema (schema : Schema) (settings : Settings) : Outline :=
  { schema, settings, lineage := .ofSchema schema, connections := schema.connections }

/-- The connection of a name. -/
def connection? (o : Outline) (name : String) : Option Connection :=
  o.connections.find? (·.type = name)

/-- The name of the edges of some connection. -/
def isEdge (o : Outline) (name : String) : Bool :=
  o.connections.any (·.edge = name)

def categoryOf (o : Outline) (name : String) : TypeCategory :=
  if (o.connection? name).isSome then .connection
  else if o.isEdge name then .edge
  else .object

/-- The immediate super types of an object type: its interfaces as it lists them, then the unions in
the order of the schema, and of both only those that the lineage keeps. -/
def superNames (o : Outline) (name : String) : List String :=
  if o.categoryOf name ≠ .object then []
  else
    match o.lineage.upcasts.get? name with
    | none => []
    | some upcasts =>
      let listed := ((o.schema.get? name).map TypeDef.interfaces).getD []
      ((listed ++ o.schema.compositeNames).filter (· ∈ upcasts)).eraseDups

mutual

/-- The definition of an inherited field, as the super type says that declares it. Unions are passed
over: what they share comes from their members. -/
def inheritedFrom? (s : Schema) (field : String) : SelectableType → Option FieldDef
  | ⟨name, _, superTypes, declared⟩ =>
    match s.get? name with
    | none => none
    | some (.union _) => none
    | some d =>
      if declared.any (·.name = field) then d.fields.find? (·.name = field)
      else inheritedFromAny? s field superTypes

/-- The definition of an inherited field in the first of several super types that has it. -/
def inheritedFromAny? (s : Schema) (field : String) : List SelectableType → Option FieldDef
  | [] => none
  | t :: rest => inheritedFrom? s field t <|> inheritedFromAny? s field rest

end

/-- The field has the shape of the one that is inherited. -/
def isInherited (s : Schema) (superTypes : List SelectableType) (f : FieldDef) : Bool :=
  (inheritedFromAny? s f.name superTypes).any (·.sameShape f)

/-- Every argument of a field has a type. -/
def checkArguments (s : Schema) (owner : String) (f : FieldDef) : Except Error Unit :=
  f.arguments.forM fun a =>
    if (s.get? a.type.base).isSome then .ok ()
    else .error (.unknownType a.type.base (.argument owner f.name a.name))

/-- The model of a field of which the type is known. -/
def fieldOfType (o : Outline) (f : FieldDef) (target : TypeDef) : SelectableField :=
  let base := f.type.base
  let plain : SelectableField :=
    match o.connection? base with
    | some c =>
      { name := f.name, category := .connection, target := c.node, connection := base,
        edge := c.edge }
    | none =>
      if target.isComposite then
        { name := f.name, category := if f.type.isList then .list else .reference, target := base }
      else if f.name = o.settings.idField ∧ ¬ f.type.isList then { name := f.name, category := .id }
      else { name := f.name }
  let called := f.arguments.foldl (fun m a => m.withArgument a.name a.type.spelling) plain
  { called with undefinable := f.type.isNullable }

/-- The model of a field. -/
def fieldModel (o : Outline) (owner : String) (f : FieldDef) : Except Error SelectableField :=
  match o.schema.get? f.type.base with
  | none => .error (.unknownType f.type.base (.field owner f.name))
  | some target =>
    match checkArguments o.schema owner f with
    | .error failure => .error failure
    | .ok () => .ok (o.fieldOfType f target)

/-- Model a type whose super types have been modelled. -/
def modelOver (o : Outline) (name : String) (superTypes : List SelectableType) :
    Except Error SelectableType := do
  let own := (o.schema.listedFields name).filter (!isInherited o.schema superTypes ·)
  let declared ← own.mapM (o.fieldModel name)
  SelectableType.make? name (o.categoryOf name) superTypes declared

/-! ## Building -/

theorem edge_of_mem_superNames {o : Outline} {name superName : String}
    (h : superName ∈ o.superNames name) : o.lineage.upcasts.Edge name superName := by
  unfold superNames at h
  split at h
  · cases h
  · split at h
    · cases h
    · next upcasts hget =>
      have hmem := List.mem_eraseDups.1 h
      exact NameGraph.edge_iff.2 ⟨upcasts, hget, by simpa using (List.mem_filter.1 hmem).2⟩

/-- A super type has fewer ancestors. -/
theorem size_ancestors_lt {o : Outline} {name superName : String}
    (h : superName ∈ o.superNames name) :
    (o.lineage.ancestors superName).size < (o.lineage.ancestors name).size :=
  o.lineage.acyclic.size_reachable_lt (.single (edge_of_mem_superNames h))

/-- Modelling types, given those that have been modelled, in the order in which they were finished. -/
abbrev Building (α : Type) : Type := StateT (List SelectableType) (Except Error) α

/-- Model a type whose super types have been modelled, and keep the result. -/
def finish (o : Outline) (name : String) (superTypes : List SelectableType) :
    Building SelectableType := do
  let t ← o.modelOver name superTypes
  modify (· ++ [t])
  return t

/-- Model a type, its super types first, unless it has been modelled. Nothing marks a type whose super
types are being modelled; that it is not met again is for the lineage to see to. -/
def build (o : Outline) (name : String) : Building SelectableType := do
  match (← get).find? (·.name = name) with
  | some t => return t
  | none =>
    if (o.schema.get? name).isNone then throw (.unknownType name .construction)
    else
      let superTypes ← (o.superNames name).attach.mapM fun ⟨superName, _⟩ => build o superName
      o.finish name superTypes
termination_by (o.lineage.ancestors name).size
decreasing_by exact size_ancestors_lt (by assumption)

end Outline

end TypedQuery
