-- SUMMARY: Schemas, and the schema that a document defines.
import TypedQuery.Error
import TypedQuery.Sdl.Document

/-!
# Schemas

A schema lists its types, each name once, and names its root operation types. `Schema.ofDocument` takes
the last definition of every name at the place of its first one, adds the builtin scalars, and then
appends every extension to the type it extends.
-/
namespace TypedQuery

namespace Sdl.Document

/-- The type definitions of a document. -/
def declarations (doc : Document) : List TypeDef :=
  doc.definitions.filterMap fun
    | .type d => some d
    | _ => none

/-- The type extensions of a document. -/
def extensions (doc : Document) : List TypeDef :=
  doc.definitions.filterMap fun
    | .extension d => some d
    | _ => none

/-- The roots of the last schema definition of a document. -/
def roots (doc : Document) : RootTypes :=
  (doc.definitions.filterMap fun
    | .schema r => some r
    | _ => none).getLast?.getD .unset

end Sdl.Document

/-! ## Lists of types -/

namespace TypeDef

/-- Put a definition in the place of the one with its name, or at the end. -/
def define : List TypeDef → TypeDef → List TypeDef
  | [], d => [d]
  | first :: rest, d => if first.name = d.name then d :: rest else first :: define rest d

theorem names_define {types : List TypeDef} {d : TypeDef} :
    (define types d).map name =
      if d.name ∈ types.map name then types.map name else types.map name ++ [d.name] := by
  induction types with
  | nil => simp [define]
  | cons first rest ih =>
    by_cases h : first.name = d.name
    · simp [define, h]
    · simp only [define, if_neg h, List.map_cons, ih, List.mem_cons, Ne.symm h, false_or]
      split <;> rfl

theorem nodup_define {types : List TypeDef} {d : TypeDef} (h : (types.map name).Nodup) :
    ((define types d).map name).Nodup := by
  rw [names_define]
  split
  · exact h
  · next hmem =>
    refine List.nodup_append.2 ⟨h, by simp, fun first hfirst other hother heq => hmem ?_⟩
    rw [List.mem_singleton.1 hother] at heq
    exact heq ▸ hfirst

/-- Add a scalar at the end, unless its name is taken. -/
def provideScalar (types : List TypeDef) (scalar : String) : List TypeDef :=
  if scalar ∈ types.map name then types else types ++ [.scalar scalar]

theorem nodup_provideScalar {types : List TypeDef} {scalar : String}
    (h : (types.map name).Nodup) : ((provideScalar types scalar).map name).Nodup := by
  unfold provideScalar
  split
  · exact h
  · next hmem =>
    rw [List.map_append]
    refine List.nodup_append.2 ⟨h, by simp, fun first hfirst other hother heq => hmem ?_⟩
    have hother : other = scalar := by simpa [name] using hother
    exact hother ▸ heq ▸ hfirst

/-- Append an extension to the type it extends. -/
def extend : List TypeDef → TypeDef → Except Error (List TypeDef)
  | [], e => .error (.unknownType e.name .extension)
  | first :: rest, e =>
    if first.name = e.name then
      match first.merge? e with
      | some merged => .ok (merged :: rest)
      | none => .error (.invalidExtension e.name first.kind)
    else (extend rest e).map (first :: ·)

theorem names_of_extend {types extended : List TypeDef} {e : TypeDef}
    (h : extend types e = .ok extended) : extended.map name = types.map name := by
  induction types generalizing extended with
  | nil => simp [extend] at h
  | cons first rest ih =>
    rw [extend] at h
    split at h
    · split at h
      · next hmerge =>
        cases h
        simp [name_of_merge? hmerge]
      · simp at h
    · cases hrest : extend rest e with
      | error _ => rw [hrest] at h; simp [Except.map] at h
      | ok tail =>
        rw [hrest] at h
        cases h
        simp [ih hrest]

/-- Append extensions, in order. -/
def extendAll : List TypeDef → List TypeDef → Except Error (List TypeDef)
  | types, [] => .ok types
  | types, e :: rest =>
    match extend types e with
    | .error failure => .error failure
    | .ok extended => extendAll extended rest

theorem names_of_extendAll {types extensions extended : List TypeDef}
    (h : extendAll types extensions = .ok extended) : extended.map name = types.map name := by
  induction extensions generalizing types with
  | nil => cases h; rfl
  | cons e rest ih =>
    rw [extendAll] at h
    split at h
    · simp at h
    · next hextend => rw [ih h, names_of_extend hextend]

end TypeDef

/-! ## Schemas -/

/-- The scalars that every schema has. -/
def builtinScalars : List String := ["String", "Int", "Float", "Boolean", "ID"]

/-- The types of a service, in order, each name once, and its root operation types. -/
structure Schema where
  types : List TypeDef
  roots : RootTypes
  distinct : (types.map TypeDef.name).Nodup
  deriving DecidableEq

namespace Schema

/-- The type of a name. -/
def get? (s : Schema) (name : String) : Option TypeDef :=
  s.types.find? (·.name = name)

/-- The names of the types, in order. -/
def names (s : Schema) : List String := s.types.map TypeDef.name

/-- The name of an object, interface or union. -/
def isComposite (s : Schema) (name : String) : Bool :=
  (s.get? name).any TypeDef.isComposite

/-- The names of the objects, interfaces and unions, in order. -/
def compositeNames (s : Schema) : List String :=
  (s.types.filter TypeDef.isComposite).map TypeDef.name

/-- The enums, in order. -/
def enums (s : Schema) : List EnumDef :=
  s.types.filterMap fun
    | .enum d => some d
    | _ => none

/-- The input objects, in order. -/
def inputs (s : Schema) : List InputDef :=
  s.types.filterMap fun
    | .input d => some d
    | _ => none

/-- The types that a document defines before it is extended. -/
def definedTypes (doc : Sdl.Document) : List TypeDef :=
  builtinScalars.foldl TypeDef.provideScalar (doc.declarations.foldl TypeDef.define [])

theorem nodup_definedTypes {doc : Sdl.Document} :
    ((definedTypes doc).map TypeDef.name).Nodup := by
  have hdefine : ∀ (ds types : List TypeDef), (types.map TypeDef.name).Nodup →
      ((ds.foldl TypeDef.define types).map TypeDef.name).Nodup := by
    intro ds
    induction ds with
    | nil => exact fun _ h => h
    | cons d rest ih => exact fun types h => ih _ (TypeDef.nodup_define h)
  have hprovide : ∀ (scalars : List String) (types : List TypeDef),
      (types.map TypeDef.name).Nodup →
      ((scalars.foldl TypeDef.provideScalar types).map TypeDef.name).Nodup := by
    intro scalars
    induction scalars with
    | nil => exact fun _ h => h
    | cons scalar rest ih => exact fun types h => ih _ (TypeDef.nodup_provideScalar h)
  exact hprovide _ _ (hdefine _ _ (by simp))

/-- A root that is not set is the type with the usual name, if there is one. -/
def defaultRoot (types : List TypeDef) (root : Option String) (usual : String) : Option String :=
  root <|> if usual ∈ types.map TypeDef.name then some usual else none

/-- The schema that a document defines. -/
def ofDocument (doc : Sdl.Document) : Except Error Schema :=
  match h : TypeDef.extendAll (definedTypes doc) doc.extensions with
  | .error failure => .error failure
  | .ok types => .ok {
      types
      roots := {
        query := defaultRoot types doc.roots.query "Query"
        mutation := defaultRoot types doc.roots.mutation "Mutation"
        subscription := defaultRoot types doc.roots.subscription "Subscription" }
      distinct := by rw [TypeDef.names_of_extendAll h]; exact nodup_definedTypes }

/-- The schema that a text defines. -/
def parse (text : String) : Except Error Schema :=
  match Sdl.Document.parse text with
  | .error position => .error (.syntaxError position)
  | .ok doc => ofDocument doc

end Schema

end TypedQuery
