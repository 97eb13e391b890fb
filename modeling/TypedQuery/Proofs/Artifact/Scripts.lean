-- SUMMARY: The operations that write each generated file.
import TypedQuery.Artifact.Basic
import TypedQuery.Proofs.Emit.Script

/-!
# Scripts of the files

Every generated file is scripted: here are the operations for each piece of a file, piece by piece as
the code has them. `Artifact.imports_eq` and `Artifact.code_eq` say so of whole files.
-/
namespace TypedQuery

open Writing

/-! ## Builders -/

namespace Builder

def importScript (b : Builder) : List Op :=
  Op.importStatement runtimeImport ::
    (if b.isPolymorphic then [Op.importStatement commonTypesImport] else []) ++
    b.type.superTypes.map (fun t => Op.importStatement (b.superImport t.name)) ++
    b.fields.map fun (_, d) => Op.importField d

theorem imports_eq {b : Builder} : b.imports = scripted fun _ => b.importScript := by
  simp [imports, importScript, ite_append, List.map_eq_flatMap]

def narrowingScript (b : Builder) : List Op :=
  let forms := "ImplementationType<'" ++ b.typeName ++ "'>"
  [Op.text "\n",
    Op.text ("on<XName extends " ++ forms ++ ", X extends object, XVariables extends object>"),
    Op.region .parameters true
      [Op.separator none, Op.text "child: ObjectFetcher<XName, X, XVariables>",
        Op.separator none, Op.text "fragmentName?: string"],
    Op.text (": " ++ b.name),
    Op.region .generic true
      [Op.text ("XName extends '" ++ b.typeName ++ "' ?\nT & X :\nWithTypeName<T, " ++ forms ++
          "> & "),
        Op.region .parameters true
          [Op.text "WithTypeName<X, ImplementationType<XName>>", Op.separator (some " | "),
            Op.text ("\x7b__typename: Exclude<" ++ forms ++ ", ImplementationType<XName>>\x7d")],
        Op.separator none, Op.text "TVariables & XVariables"],
    Op.text ";\n"]

theorem narrowing_eq {b : Builder} : b.narrowing = scripted fun _ => b.narrowingScript := by
  simp [narrowing, narrowingScript]

def typeNameScript (b : Builder) : List Op :=
  let name :=
    if b.isPolymorphic then "ImplementationType<'" ++ b.typeName ++ "'>"
    else "'" ++ b.typeName ++ "'"
  [Op.text "\n",
    Op.text ("readonly __typename: " ++ b.name ++ "<T & \x7b__typename: " ++ name ++
      "\x7d, TVariables>;\n")]

theorem typeNameAccessor_eq {b : Builder} :
    b.typeNameAccessor = scripted fun _ => b.typeNameScript := by
  simp [typeNameAccessor, typeNameScript]

def selectionScript (s : Settings) (f : SelectableField) (d : FieldDef) : List Op :=
  [Op.text "\x7b", Op.text (readonlyWord s), Op.text ("\"" ++ f.name ++ "\"")] ++
    (if d.type.isNullable then [Op.text "?"] else []) ++
    [Op.text ": ", Op.typeRef d.type (if f.isAssociation then some "X" else none), Op.text "\x7d"]

theorem selectionMember_eq {f : SelectableField} {d : FieldDef} :
    selectionMember f d = scripted fun s => selectionScript s f d := by
  simp [selectionMember, selectionScript, ↓settings_scripted readonlyWord, ite_append]

def childScript (b : Builder) (f : SelectableField) : List Op :=
  [Op.text "ObjectFetcher",
    Op.region .generic false
      [Op.separator none,
        Op.region .blank false ((b.catalog.associatedTypes f).flatMap fun type =>
          [Op.separator (some " | "), Op.literal type]),
        Op.separator none, Op.text "X", Op.separator none, Op.text "XVariables"]]

theorem childType_eq {b : Builder} {f : SelectableField} :
    b.childType f = scripted fun _ => b.childScript f := by
  simp [childType, childScript]

def methodScript (b : Builder) (s : Settings) (f : SelectableField) (d : FieldDef)
    (withArguments : Bool) : List Op :=
  let parameters := b.typeParameters f withArguments
  Op.text f.name ::
    (if parameters.isEmpty then []
      else [Op.region .generic false
        (parameters.flatMap fun parameter => [Op.separator none, Op.text parameter])]) ++
    [Op.region .parameters (withArguments && f.isAssociation)
        ((if withArguments then [Op.separator none, Op.text "args: XArgs"] else []) ++
          if f.isAssociation then [Op.separator none, Op.text "child: "] ++ b.childScript f else []),
      Op.text (": " ++ b.name ++ "<T & ")] ++
    selectionScript s f d ++
    [Op.text (if f.isAssociation then ", TVariables & XVariables>;\n" else ", TVariables>;\n")]

theorem method_eq {b : Builder} {f : SelectableField} {d : FieldDef} {withArguments : Bool} :
    b.method f d withArguments = scripted fun s => methodScript b s f d withArguments := by
  simp [method, methodScript, childType_eq, selectionMember_eq, ite_append]

/-- An accessor that is called has some way to be called. -/
theorem exists_mem_overloads (d : FieldDef) : ∃ withArguments, withArguments ∈ overloads d := by
  unfold overloads
  split
  · exact ⟨_, List.mem_singleton_self _⟩
  · split <;> exact ⟨_, List.mem_cons_self⟩

def accessorScript (b : Builder) (s : Settings) (f : SelectableField) (d : FieldDef) : List Op :=
  Op.text "\n" ::
    (if f.isFunction then (overloads d).flatMap (methodScript b s f d)
      else [Op.text ("readonly " ++ f.name ++ ": " ++ b.name ++ "<T & ")] ++
        selectionScript s f d ++ [Op.text ", TVariables>;\n"]) ++
    [Op.text ("readonly \"~" ++ f.name ++ "\": " ++ b.name ++ "<Omit<T, '" ++ f.name ++
      "'>, TVariables>;\n")]

theorem accessors_eq {b : Builder} {f : SelectableField} {d : FieldDef} :
    b.accessors f d = scripted fun s => accessorScript b s f d := by
  simp [accessors, accessorScript, method_eq, selectionMember_eq, ite_append]

def descriptorScript (f : SelectableField) : List Op :=
  if f.isShorthand then [Op.text ("\"" ++ f.name ++ "\"")]
  else
    [Op.enter .block true,
      Op.separator (some ","), Op.text ("category: \"" ++ f.category.word ++ "\""),
      Op.separator (some ","), Op.text ("name: \"" ++ f.name ++ "\"")] ++
    (if f.arguments.isEmpty then []
      else
        [Op.separator (some ","), Op.text "argGraphQLTypeMap: ", Op.enter .block false] ++
          f.arguments.flatMap (fun (name, type) =>
            [Op.separator (some ", "), Op.text (name ++ ": '" ++ type ++ "'")]) ++ [Op.leave]) ++
    f.connection.toList.flatMap (fun connection =>
      [Op.separator (some ","), Op.text ("connectionTypeName: \"" ++ connection ++ "\"")]) ++
    f.edge.toList.flatMap (fun edge =>
      [Op.separator (some ","), Op.text ("edgeTypeName: \"" ++ edge ++ "\"")]) ++
    f.target.toList.flatMap (fun target =>
      [Op.separator (some ","), Op.text ("targetTypeName: \"" ++ target ++ "\"")]) ++
    (if f.undefinable then [Op.separator (some ","), Op.text "undefinable: true"] else []) ++
    [Op.leave]

theorem descriptor_eq {f : SelectableField} :
    descriptor f = scripted fun _ => descriptorScript f := by
  simp [descriptor, descriptorScript, ite_append]

def descriptionScript (b : Builder) : List Op :=
  let d := b.description
  [Op.text "createFetchableType",
    Op.region .parameters true
      [Op.separator none, Op.text ("\"" ++ d.name ++ "\""),
        Op.separator none, Op.text ("\"" ++ d.category.word ++ "\""),
        Op.separator none,
        Op.region .array false (d.superTypes.flatMap fun superType =>
          [Op.separator none, Op.text (b.catalog.instanceName superType ++ ".fetchableType")]),
        Op.separator none,
        Op.region .array (!d.fields.isEmpty)
          (d.fields.flatMap fun f => Op.separator none :: descriptorScript f)]]

theorem descriptionCall_eq {b : Builder} :
    b.descriptionCall = scripted fun _ => b.descriptionScript := by
  simp [descriptionCall, descriptionScript, descriptor_eq]

def constantScript (b : Builder) : List Op :=
  [Op.text "\n",
    Op.text ("export const " ++ b.instanceName ++ ": " ++ b.name ++ "<\x7b\x7d, \x7b\x7d> ="),
    Op.region .blank true
      [Op.text "createFetcher",
        Op.region .parameters true (Op.separator none :: b.descriptionScript)],
    Op.text ";\n"] ++
    if b.defaultFields.isEmpty then []
    else
      [Op.text "\n", Op.text ("export const " ++ b.instanceName ++ "$ = " ++ b.instanceName)] ++
        b.defaultFields.map (fun field => Op.text ("." ++ field)) ++ [Op.text ";\n"]

theorem constants_eq {b : Builder} : b.constants = scripted fun _ => b.constantScript := by
  simp [constants, constantScript, descriptionCall_eq, List.map_eq_flatMap]

def argumentScript (b : Builder) (s : Settings) : List Op :=
  if b.fieldsWithArguments.isEmpty then []
  else
    [Op.text "\n", Op.text ("export interface " ++ b.argumentsName ++ " "),
      Op.region .block true (b.fieldsWithArguments.flatMap fun d =>
        [Op.separator (some ","), Op.text (readonlyWord s ++ d.name ++ ": "),
          Op.region .block true (d.arguments.flatMap fun a =>
            [Op.separator (some ","), Op.property a.name a.type none])]),
      Op.text "\n"]

theorem argumentsInterface_eq {b : Builder} :
    b.argumentsInterface = scripted fun s => argumentScript b s := by
  have hmember (d : FieldDef) := settings_scripted fun s => readonlyWord s ++ d.name ++ ": "
  simp [argumentsInterface, argumentScript, ↓hmember]

def script (b : Builder) (s : Settings) : List Op :=
  [Op.text immutabilityComment,
    Op.text ("export interface " ++ b.name ++
      "<T extends object, TVariables extends object> extends ObjectFetcher<'" ++ b.typeName ++
      "', T, TVariables> "),
    Op.region .block true
      ((if b.isPolymorphic then b.narrowingScript else []) ++ b.typeNameScript ++
        b.fields.flatMap fun (f, d) => accessorScript b s f d),
    Op.text "\n"] ++
    b.constantScript ++ argumentScript b s

theorem code_eq {b : Builder} : b.code = scripted fun s => script b s := by
  simp [code, script, narrowing_eq, typeNameAccessor_eq, accessors_eq, constants_eq,
    argumentsInterface_eq, ite_append]

end Builder

/-! ## Common types -/

namespace CommonTypes

def typeNameScript : List Op :=
  [Op.text "export type WithTypeName<T, TypeName extends string> =",
    Op.region .blank true
      [Op.text ("T extends \x7breadonly __typename: string\x7d ?\nT :\n" ++
        "T & \x7breadonly __typename: TypeName\x7d")],
    Op.text ";\n"]

def branchScript (type : String) (casts : NameSet) : List Op :=
  [Op.text ("T extends '" ++ type ++ "' ? "),
    Op.region .parameters true (Op.literal type :: casts.toList.flatMap fun cast =>
      [Op.separator (some " | "), Op.text ("ImplementationType<'" ++ cast ++ "'>")]),
    Op.text " :\n"]

def implementationScript (l : Lineage) : List Op :=
  [Op.text "export type ImplementationType<T> =",
    Op.region .blank true
      (l.downcasts.entries.flatMap (fun (type, casts) => branchScript type casts) ++ [Op.text "T"]),
    Op.text ";\n"]

def caseScript (direction type : String) (casts : NameSet) : List Op :=
  [Op.text ("case '" ++ type ++ "':\n"),
    Op.region .blank false
      (casts.toList.map (fun cast => Op.text (direction ++ "Types0('" ++ cast ++ "', output);\n")) ++
        [Op.text "break;\n"])]

def functionScript (direction : String) (casts : NameGraph) : List Op :=
  [Op.text ("export function " ++ direction ++ "Types(typeName: string): string[] "),
    Op.region .block true
      [Op.text "const typeNames: string[] = [];\n",
        Op.text (direction ++ "Types0(typeName, typeNames);\n"),
        Op.text "return typeNames;\n"],
    Op.text "\n\n",
    Op.text ("function " ++ direction ++ "Types0(typeName: string, output: string[]) "),
    Op.region .block true
      [Op.text "output.push(typeName);\n",
        Op.text "switch (typeName) ",
        Op.region .block true
          (casts.entries.flatMap fun (type, targets) => caseScript direction type targets),
        Op.text "\n"],
    Op.text "\n"]

def script (l : Lineage) : List Op :=
  typeNameScript ++ Op.text "\n" :: implementationScript l ++ Op.text "\n" ::
    functionScript "upcast" l.upcasts ++ Op.text "\n" :: functionScript "downcast" l.downcasts

theorem castFunction_eq {direction : String} {casts : NameGraph} :
    castFunction direction casts = scripted fun _ => functionScript direction casts := by
  simp [castFunction, functionScript, castCase, caseScript, List.map_eq_flatMap]

theorem code_eq {l : Lineage} : code l = scripted fun _ => script l := by
  simp [code, script, typeNameHelper, typeNameScript, implementationHelper, implementationBranch,
    implementationScript, branchScript, castFunction_eq]

end CommonTypes

/-! ## Enums, input objects and indexes -/

def EnumDef.script (d : EnumDef) : List Op :=
  Op.text ("export type " ++ d.name ++ " = ") ::
    (if d.values.isEmpty then [Op.text "never"]
      else [Op.region .blank false
        (d.values.flatMap fun value => [Op.separator (some " | "), Op.literal value])]) ++
    [Op.text ";\n"]

theorem EnumDef.code_eq {d : EnumDef} : d.code = scripted fun _ => d.script := by
  simp [code, script, ite_append]

def InputDef.importScript (d : InputDef) : List Op := d.fields.map fun f => Op.importType f.type

theorem InputDef.imports_eq {d : InputDef} : d.imports = scripted fun _ => d.importScript := by
  simp [imports, importScript, List.map_eq_flatMap]

def InputDef.script (d : InputDef) : List Op :=
  [Op.text ("export type " ++ d.name ++ " = "),
    Op.region .block (!d.fields.isEmpty)
      (d.fields.flatMap fun f => [Op.separator (some ","), Op.property f.name f.type none]),
    Op.text ";\n"]

theorem InputDef.code_eq {d : InputDef} : d.code = scripted fun _ => d.script := by
  simp [code, script]

def ModuleExports.script (e : ModuleExports) : List Op :=
  (if e.everything then [Op.text ("export * from './" ++ e.module ++ "';\n")] else []) ++
    (if e.types.isEmpty then [] else [Op.text (line "export type" e.types e.module)]) ++
    if e.values.isEmpty then [] else [Op.text (line "export" e.values e.module)]

theorem ModuleExports.code_eq {e : ModuleExports} : e.code = scripted fun _ => e.script := by
  simp [code, script, ite_append]

def Index.script (i : Index) : List Op := i.exports.flatMap (·.script)

theorem Index.code_eq {i : Index} : i.code = scripted fun _ => i.script := by
  have hexports : ModuleExports.code = fun e => scripted fun _ => e.script :=
    funext fun _ => ModuleExports.code_eq
  rw [code, hexports, forM_scripted]
  rfl

/-! ## Whole files -/

namespace Artifact

/-- The operations that ask for the imports of a file. -/
def importScript : Artifact → List Op
  | builder b => b.importScript
  | input d => d.importScript
  | commonTypes _ | enum _ | index _ => []

/-- The operations that write the body of a file. -/
def script (a : Artifact) (s : Settings) : List Op :=
  match a with
  | commonTypes l => CommonTypes.script l
  | builder b => b.script s
  | enum d => d.script
  | input d => d.script
  | index i => i.script

theorem imports_eq {a : Artifact} : a.imports = scripted fun _ => a.importScript := by
  cases a with
  | builder b => exact Builder.imports_eq
  | input d => exact InputDef.imports_eq
  | commonTypes l => rfl
  | enum d => rfl
  | index i => rfl

theorem code_eq {a : Artifact} : a.code = scripted fun s => a.script s := by
  cases a with
  | commonTypes l => exact CommonTypes.code_eq
  | builder b => exact Builder.code_eq
  | enum d => exact EnumDef.code_eq
  | input d => exact InputDef.code_eq
  | index i => exact Index.code_eq

theorem write_eq {a : Artifact} :
    a.write = scripted fun s => a.importScript ++ .closeImports :: a.script s := by
  simp [write, imports_eq, code_eq]

/-- A file is written on a fresh page. -/
theorem page_eq {a : Artifact} {schema : Schema} {s : Settings} : a.page schema s =
    Op.runAll (a.importScript ++ .closeImports :: a.script s)
      (Sheet.fresh ⟨schema, s, a.location⟩) := by
  rw [page, write_eq]
  rfl

end Artifact

end TypedQuery
