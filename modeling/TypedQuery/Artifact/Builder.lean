-- SUMMARY: The files of query builders.
import TypedQuery.Emit.Writing
import TypedQuery.Model.Catalog

/-!
# Builders

For every selectable type there is an immutable builder whose type parameter is the selection so far.
Each field has an accessor that adds it to the selection and one that takes it out; the accessor of an
association takes the builder of the associated type. The builder of a polymorphic type can be narrowed.
-/
namespace TypedQuery

open Writing

/-- A builder with its fields, each with its model and with the definition that the type lists. -/
structure Builder where
  catalog : Catalog
  type : SelectableType
  fields : List (SelectableField × FieldDef)

/-- What the runtime is told about a type: what it declares, and the types it inherits from. -/
structure TypeDescription where
  name : String
  category : TypeCategory
  superTypes : List String
  fields : List SelectableField
  deriving DecidableEq, Repr

/-- The definition of a field that a type has to list itself. -/
def listedField (type : String) (listed : List FieldDef) (f : SelectableField) :
    Except Error (SelectableField × FieldDef) :=
  match listed.find? (·.name = f.name) with
  | some d => .ok (f, d)
  | none => .error (.invalidType type (.notRedeclared f.name))

/-- The builder of a type, without the fields that the settings leave out. -/
def Catalog.builder (c : Catalog) (name : String) : Except Error Builder :=
  match c.type? name with
  | .error failure => .error failure
  | .ok type =>
    let kept := type.fields.filter fun f => !c.settings.excludes name f.name
    (kept.mapM (listedField name (c.schema.listedFields name))).map fun fields =>
      { catalog := c, type, fields }

namespace Builder

/-! ## Names -/

def typeName (b : Builder) : String := b.type.name

/-- The name of the builder's interface. -/
def name (b : Builder) : String := b.catalog.builderName b.typeName

/-- The name of the interface of its arguments. -/
def argumentsName (b : Builder) : String := b.typeName ++ "Args"

/-- The name of the empty builder. -/
def instanceName (b : Builder) : String := b.catalog.instanceName b.typeName

def isPolymorphic (b : Builder) : Bool := b.catalog.lineage.isPolymorphic b.typeName

/-- The fields that the default builder selects: those that are read as properties, unless the settings
leave them out. -/
def defaultFields (b : Builder) : List String :=
  ((b.fields.map (·.1)).filter fun f =>
    !f.isFunction && !b.catalog.settings.excludesByDefault b.typeName f.name).map (·.name)

/-- The fields that take arguments. -/
def fieldsWithArguments (b : Builder) : List FieldDef :=
  (b.fields.map (·.2)).filter (!·.arguments.isEmpty)

def exportedTypes (b : Builder) : List String :=
  b.name :: if b.fieldsWithArguments.isEmpty then [] else [b.argumentsName]

def exportedValues (b : Builder) : List String :=
  b.instanceName :: if b.defaultFields.isEmpty then [] else [b.instanceName ++ "$"]

def location (b : Builder) : Location :=
  { folder := .fetchers, stem := b.name, defines := b.typeName }

/-! ## Imports -/

def runtimeImport : String :=
  "import \x7b ObjectFetcher, createFetcher, createFetchableType \x7d from 'graphql-ts-client-api'"

def commonTypesImport : String :=
  "import type \x7b WithTypeName, ImplementationType \x7d from '../CommonTypes'"

/-- The statement that imports the empty builder of a super type. -/
def superImport (b : Builder) (superType : String) : String :=
  "import \x7b " ++ b.catalog.instanceName superType ++ " \x7d from './" ++
    b.catalog.builderName superType ++ "'"

def imports (b : Builder) : Writing Unit := do
  importStatement runtimeImport
  if b.isPolymorphic then importStatement commonTypesImport
  b.type.superTypes.forM fun t => importStatement (b.superImport t.name)
  b.fields.forM fun (_, d) => importField d

/-! ## Accessors -/

/-- The accessor that narrows the type. -/
def narrowing (b : Builder) : Writing Unit := do
  let forms := "ImplementationType<'" ++ b.typeName ++ "'>"
  text "\n"
  text ("on<XName extends " ++ forms ++ ", X extends object, XVariables extends object>")
  region .parameters true do
    separator
    text "child: ObjectFetcher<XName, X, XVariables>"
    separator
    text "fragmentName?: string"
  text (": " ++ b.name)
  region .generic true do
    text ("XName extends '" ++ b.typeName ++ "' ?\nT & X :\nWithTypeName<T, " ++ forms ++ "> & ")
    region .parameters true do
      text "WithTypeName<X, ImplementationType<XName>>"
      separatorWith " | "
      text ("\x7b__typename: Exclude<" ++ forms ++ ", ImplementationType<XName>>\x7d")
    separator
    text "TVariables & XVariables"
  text ";\n"

/-- The accessor of the name of the type. -/
def typeNameAccessor (b : Builder) : Writing Unit := do
  let name :=
    if b.isPolymorphic then "ImplementationType<'" ++ b.typeName ++ "'>"
    else "'" ++ b.typeName ++ "'"
  text "\n"
  text ("readonly __typename: " ++ b.name ++ "<T & \x7b__typename: " ++ name ++
    "\x7d, TVariables>;\n")

/-- What selecting a field adds to the selection. The selection from an associated type is a type
parameter. -/
def selectionMember (f : SelectableField) (d : FieldDef) : Writing Unit := do
  text "\x7b"
  text (readonlyWord (← get).settings)
  text ("\"" ++ f.name ++ "\"")
  if d.type.isNullable then text "?"
  text ": "
  typeRef d.type (if f.isAssociation then some "X" else none)
  text "\x7d"

/-- The type of the builder that an association takes. -/
def childType (b : Builder) (f : SelectableField) : Writing Unit := do
  text "ObjectFetcher"
  region .generic false do
    separator
    region .blank false do
      (b.catalog.associatedTypes f).forM fun type => do
        separatorWith " | "
        literal type
    separator
    text "X"
    separator
    text "XVariables"

/-- The type parameters of an accessor that is called. -/
def typeParameters (b : Builder) (f : SelectableField) (withArguments : Bool) : List String :=
  (if withArguments then ["XArgs extends " ++ b.argumentsName ++ "['" ++ f.name ++ "']"] else []) ++
    if f.isAssociation then ["X extends object", "XVariables extends object"] else []

/-- An accessor that is called, with the arguments of its field or without. -/
def method (b : Builder) (f : SelectableField) (d : FieldDef) (withArguments : Bool) :
    Writing Unit := do
  let parameters := b.typeParameters f withArguments
  text f.name
  if !parameters.isEmpty then
    region .generic false do
      parameters.forM fun parameter => do
        separator
        text parameter
  region .parameters (withArguments && f.isAssociation) do
    if withArguments then
      separator
      text "args: XArgs"
    if f.isAssociation then
      separator
      text "child: "
      b.childType f
  text (": " ++ b.name ++ "<T & ")
  selectionMember f d
  text (if f.isAssociation then ", TVariables & XVariables>;\n" else ", TVariables>;\n")

/-- The ways in which an accessor can be called: with arguments if the field has any, and without them
if none is required. -/
def overloads (d : FieldDef) : List Bool :=
  if d.arguments.isEmpty then [false]
  else if d.arguments.all (·.type.isNullable) then [false, true]
  else [true]

/-- The accessors of a field: one or more that select it, one that takes it out again. -/
def accessors (b : Builder) (f : SelectableField) (d : FieldDef) : Writing Unit := do
  text "\n"
  if f.isFunction then (overloads d).forM fun withArguments => b.method f d withArguments
  else
    text ("readonly " ++ f.name ++ ": " ++ b.name ++ "<T & ")
    selectionMember f d
    text ", TVariables>;\n"
  text ("readonly \"~" ++ f.name ++ "\": " ++ b.name ++ "<Omit<T, '" ++ f.name ++
    "'>, TVariables>;\n")

/-! ## Constants -/

/-- What the runtime is told about a field: its name, or every part of its model. -/
def descriptor (f : SelectableField) : Writing Unit := do
  if f.isShorthand then text ("\"" ++ f.name ++ "\"")
  else
    enter .block true
    separatorWith ","
    text ("category: \"" ++ f.category.word ++ "\"")
    separatorWith ","
    text ("name: \"" ++ f.name ++ "\"")
    if !f.arguments.isEmpty then
      separatorWith ","
      text "argGraphQLTypeMap: "
      enter .block false
      f.arguments.forM fun (name, type) => do
        separatorWith ", "
        text (name ++ ": '" ++ type ++ "'")
      leave
    f.connection.forM fun connection => do
      separatorWith ","
      text ("connectionTypeName: \"" ++ connection ++ "\"")
    f.edge.forM fun edge => do
      separatorWith ","
      text ("edgeTypeName: \"" ++ edge ++ "\"")
    f.target.forM fun target => do
      separatorWith ","
      text ("targetTypeName: \"" ++ target ++ "\"")
    if f.undefinable then
      separatorWith ","
      text "undefinable: true"
    leave

/-- The declared fields that the runtime is told about. -/
def describedFields (b : Builder) : List SelectableField :=
  b.type.declared.filter fun f => !b.catalog.settings.excludes b.typeName f.name

/-- What the runtime is told about the type. -/
def description (b : Builder) : TypeDescription :=
  { name := b.typeName
    category := b.type.category
    superTypes := b.type.superTypes.map (·.name)
    fields := b.describedFields }

/-- The call that tells the runtime about the type. Super types are passed by their empty builders. -/
def descriptionCall (b : Builder) : Writing Unit := do
  let d := b.description
  text "createFetchableType"
  region .parameters true do
    separator
    text ("\"" ++ d.name ++ "\"")
    separator
    text ("\"" ++ d.category.word ++ "\"")
    separator
    region .array false do
      d.superTypes.forM fun superType => do
        separator
        text (b.catalog.instanceName superType ++ ".fetchableType")
    separator
    region .array (!d.fields.isEmpty) do
      d.fields.forM fun f => do
        separator
        descriptor f

/-- The empty builder and, unless it would be empty as well, the default builder. -/
def constants (b : Builder) : Writing Unit := do
  text "\n"
  text ("export const " ++ b.instanceName ++ ": " ++ b.name ++ "<\x7b\x7d, \x7b\x7d> =")
  region .blank true do
    text "createFetcher"
    region .parameters true do
      separator
      b.descriptionCall
  text ";\n"
  if !b.defaultFields.isEmpty then
    text "\n"
    text ("export const " ++ b.instanceName ++ "$ = " ++ b.instanceName)
    b.defaultFields.forM fun field => text ("." ++ field)
    text ";\n"

/-- The interface of the arguments, if any field has some. -/
def argumentsInterface (b : Builder) : Writing Unit := do
  if !b.fieldsWithArguments.isEmpty then
    text "\n"
    text ("export interface " ++ b.argumentsName ++ " ")
    region .block true do
      b.fieldsWithArguments.forM fun d => do
        separatorWith ","
        text (readonlyWord (← get).settings ++ d.name ++ ": ")
        region .block true do
          d.arguments.forM fun a => do
            separatorWith ","
            property a.name a.type none
    text "\n"

/-! ## The whole file -/

/-- The comment before every builder. -/
def immutabilityComment : String :=
  "/*\n" ++
  " * Any instance of this interface is immutable,\n" ++
  " * all the properties and functions can only be used to create new instances,\n" ++
  " * they cannot modify the current instance.\n" ++
  " *\n" ++
  " * So any instance of this interface is reusable.\n" ++
  " */\n"

def code (b : Builder) : Writing Unit := do
  text immutabilityComment
  text ("export interface " ++ b.name ++
    "<T extends object, TVariables extends object> extends ObjectFetcher<'" ++ b.typeName ++
    "', T, TVariables> ")
  region .block true do
    if b.isPolymorphic then b.narrowing
    b.typeNameAccessor
    b.fields.forM fun (f, d) => b.accessors f d
  text "\n"
  b.constants
  b.argumentsInterface

end Builder

end TypedQuery
