-- SUMMARY: What a file imports from others, and what it exports.
import TypedQuery.Proofs.Artifact.Imports

/-!
# Links between files

A file names other files in links: statements that import from a module, or that export again what a
module exports. What a file exports of its own is what it declares. Both are given here as data, apart
from the code that writes them: `Artifact.mem_importLines_iff` says that the import links are the lines
that the file begins with, and `Artifact.statementTexts_script` that its declarations and export links are
the statements of its body.
-/
namespace TypedQuery

/-- A name that a file exports, as a value or as a type. -/
structure Export where
  value : Bool
  name : String
  deriving DecidableEq, Repr

/-! ## Links -/

/-- A statement that takes names from a module, or everything. -/
structure Link where
  /-- The names are those of types. -/
  types : Bool
  names : Option (List String)
  module : String
  deriving DecidableEq, Repr

namespace Link

/-- The statement for a link: `import` takes the names into the file, `export` passes them on. -/
def statement (l : Link) (verb : String) : String :=
  verb ++ (if l.types then " type " else " ") ++
    l.names.elim "* from '" (fun names => "\x7b " ++ ", ".intercalate names ++ " \x7d from '") ++
    l.module ++ "'"

def line (l : Link) (verb : String) : String := l.statement verb ++ ";"

/-- What a link needs the module to export. -/
def exports (l : Link) : List Export := (l.names.getD []).map (⟨!l.types, ·⟩)

/-- The link that imports a group of types. -/
def ofGroup (group : String × List String) : Link := ⟨true, some group.2, group.1⟩

variable {l : Link} {verb module : String} {names : List String} {types : Bool}

theorem importLine_eq {group : String × List String} :
    Page.importLine group = (ofGroup group).line "import" := by
  have hlead : "import type \x7b " = "import" ++ " type " ++ "\x7b " := by decide
  have hend : "';" = "'" ++ ";" := by decide
  change "import type \x7b " ++ ", ".intercalate group.2 ++ " \x7d from '" ++ group.1 ++ "';" = _
  simp only [ofGroup, line, statement, hlead, hend, if_true, Option.elim_some, String.append_assoc]

/-- A statement ends in a quotation mark, so that it is listed with a semicolon. -/
theorem statementLine_statement : Page.statementLine (l.statement verb) = l.line verb := by
  have hblank : Text.isBlank '\'' = false := by decide
  obtain ⟨s, hs⟩ : ∃ s, l.statement verb = s ++ "'" := ⟨_, rfl⟩
  have htrim : Text.trimEnd (s ++ "'") = s ++ "'" := by
    rw [← String.toList_inj]
    simp [Text.trimEnd, hblank]
  have hends : (s ++ "'").endsWith ";" = false := by
    rw [← String.endsWith_toSlice, String.Slice.endsWith_string_eq_false_iff]
    rintro ⟨before, h⟩
    have hlast := congrArg List.getLast? h
    simp at hlast
  rw [line, hs, Page.statementLine, htrim, hends]
  rfl

end Link

namespace ModuleExports

/-- The links that export again what a module exports. -/
def links (e : ModuleExports) : List Link :=
  (if e.everything then [⟨false, none, "./" ++ e.module⟩] else []) ++
    (if e.types.isEmpty then [] else [⟨true, some e.types, "./" ++ e.module⟩]) ++
    if e.values.isEmpty then [] else [⟨false, some e.values, "./" ++ e.module⟩]

variable {e : ModuleExports}

/-- An index writes its links, each on a line. -/
theorem script_eq : e.script = e.links.map fun l => .text (l.line "export" ++ "\n") := by
  have heverything : "export * from './" ++ e.module ++ "';\n" =
      (Link.mk false none ("./" ++ e.module)).line "export" ++ "\n" := by
    rw [← String.toList_inj]
    simp [Link.line, Link.statement]
  have htypes : line "export type" e.types e.module =
      (Link.mk true (some e.types) ("./" ++ e.module)).line "export" ++ "\n" := by
    rw [← String.toList_inj]
    simp [line, Link.line, Link.statement]
  have hvalues : line "export" e.values e.module =
      (Link.mk false (some e.values) ("./" ++ e.module)).line "export" ++ "\n" := by
    rw [← String.toList_inj]
    simp [line, Link.line, Link.statement]
  rw [script, links, heverything, htypes, hvalues]
  cases e.everything <;> cases e.types.isEmpty <;> cases e.values.isEmpty <;> rfl

end ModuleExports

/-! ## Declarations -/

/-- The forms of what a file can declare. -/
inductive DeclarationKind where
  | interface | type | const | function
  deriving DecidableEq, Repr

namespace DeclarationKind

/-- What a declaration of the kind begins with. -/
def lead : DeclarationKind → String
  | interface => "export interface "
  | type => "export type "
  | const => "export const "
  | function => "export function "

/-- What is declared is there at run time. -/
def isValue : DeclarationKind → Bool
  | interface | type => false
  | const | function => true

end DeclarationKind

/-- A declaration that is exported, up to where its parts of several lines begin. -/
structure Declaration where
  kind : DeclarationKind
  name : String
  behind : String
  deriving DecidableEq, Repr

namespace Declaration

def text (d : Declaration) : String := d.kind.lead ++ d.name ++ d.behind

def toExport (d : Declaration) : Export := ⟨d.kind.isValue, d.name⟩

end Declaration

namespace Builder

/-- The links of a builder to the runtime, the common types and the builders of its super types. -/
def importLinks (b : Builder) : List Link :=
  ⟨false, some ["ObjectFetcher", "createFetcher", "createFetchableType"], "graphql-ts-client-api"⟩ ::
    (if b.isPolymorphic then
      [⟨true, some ["WithTypeName", "ImplementationType"], "../CommonTypes"⟩] else []) ++
    b.type.superTypes.map fun t =>
      ⟨false, some [b.catalog.instanceName t.name], "./" ++ b.catalog.builderName t.name⟩

def declarations (b : Builder) : List Declaration :=
  [⟨.interface, b.name, "<T extends object, TVariables extends object> extends ObjectFetcher<'" ++
      b.typeName ++ "', T, TVariables> "⟩,
    ⟨.const, b.instanceName, ": " ++ b.name ++ "<\x7b\x7d, \x7b\x7d> ="⟩] ++
    (if b.defaultFields.isEmpty then []
      else [⟨.const, b.instanceName ++ "$", " = " ++ b.instanceName⟩]) ++
    if b.fieldsWithArguments.isEmpty then [] else [⟨.interface, b.argumentsName, " "⟩]

variable {b : Builder}

theorem importScript_eq : b.importScript =
    b.importLinks.map (fun l => .importStatement (l.statement "import")) ++
      b.fields.map fun (_, d) => Op.importField d := by
  have hruntime : runtimeImport = (Link.mk false
      (some ["ObjectFetcher", "createFetcher", "createFetchableType"])
      "graphql-ts-client-api").statement "import" := by
    decide
  have hcommon : commonTypesImport = (Link.mk true (some ["WithTypeName", "ImplementationType"])
      "../CommonTypes").statement "import" := by
    decide
  have hsuper (t : SelectableType) : b.superImport t.name =
      (Link.mk false (some [b.catalog.instanceName t.name])
        ("./" ++ b.catalog.builderName t.name)).statement "import" := by
    rw [← String.toList_inj]
    simp [superImport, Link.statement]
  rw [importScript, importLinks, hruntime, hcommon]
  simp only [hsuper]
  cases b.isPolymorphic <;> simp

end Builder

namespace CommonTypes

def declarations : List Declaration :=
  [⟨.type, "WithTypeName", "<T, TypeName extends string> ="⟩,
    ⟨.type, "ImplementationType", "<T> ="⟩,
    ⟨.function, "upcastTypes", "(typeName: string): string[] "⟩,
    ⟨.function, "downcastTypes", "(typeName: string): string[] "⟩]

end CommonTypes

/-! ## Links and exports of files -/

namespace Artifact

/-- The links that a file asks for by statements. -/
def statementLinks : Artifact → List Link
  | builder b => b.importLinks
  | commonTypes _ | enum _ | input _ | index _ => []

/-- The links that take names into a file: those it asks for by statements, and one for each module that
it imports types from. -/
def importLinks (a : Artifact) (schema : Schema) (s : Settings) : List Link :=
  a.statementLinks ++ (a.page schema s).2.importGroups.map .ofGroup

/-- The links that pass names on. -/
def exportLinks : Artifact → List Link
  | index i => i.exports.flatMap (·.links)
  | commonTypes _ | builder _ | enum _ | input _ => []

def declarations : Artifact → List Declaration
  | commonTypes _ => CommonTypes.declarations
  | builder b => b.declarations
  | enum d => [⟨.type, d.name, " = "⟩]
  | input d => [⟨.type, d.name, " = "⟩]
  | index _ => []

/-- What a file exports by name: what it declares, and what it passes on. -/
def exports (a : Artifact) : List Export :=
  a.declarations.map (·.toExport) ++ a.exportLinks.flatMap (·.exports)

variable {a : Artifact} {schema : Schema} {s : Settings} {line : String}

theorem addStatement_mem_importScript {statement : String} :
    .addStatement statement ∈ a.importScript.flatMap Op.importActs ↔
      ∃ l ∈ a.statementLinks, statement = l.statement "import" := by
  cases a with
  | builder b =>
    rw [importScript, Builder.importScript_eq]
    simp [Op.importActs, statementLinks, List.flatMap_map, eq_comm]
  | input d => simp [importScript, InputDef.importScript, statementLinks, Op.importActs]
  | commonTypes _ | enum _ | index _ => simp [importScript, statementLinks]

/-- The lines that a file begins with are its import links. -/
theorem mem_importLines_iff : line ∈ (a.page schema s).2.importLines ↔
    ∃ l ∈ a.importLinks schema s, line = l.line "import" := by
  -- Statements are kept as they are asked for, and get their semicolon when they are listed.
  have hlisted : line ∈ (a.page schema s).2.statements ↔
      ∃ l ∈ a.statementLinks, line = l.line "import" := by
    rw [(a.lists_page schema s).statements]
    simp only [addStatement_mem_importScript, ← Link.statementLine_statement]
    constructor
    · rintro ⟨_, ⟨l, hl, rfl⟩, hline⟩
      exact ⟨l, hl, hline⟩
    · rintro ⟨l, hl, hline⟩
      exact ⟨_, ⟨l, hl, rfl⟩, hline⟩
  simp only [Page.importLines, importLinks, List.mem_append, hlisted, List.mem_map, or_and_right,
    exists_or, Link.importLine_eq]
  refine or_congr_right ⟨?_, ?_⟩
  · rintro ⟨group, hgroup, rfl⟩
    exact ⟨_, ⟨group, hgroup, rfl⟩, rfl⟩
  · rintro ⟨_, ⟨group, hgroup, rfl⟩, rfl⟩
    exact ⟨group, hgroup, rfl⟩

end Artifact

/-! ## Statements of bodies -/

namespace Op

/-- A text with which a statement begins that imports or exports. -/
def beginsStatement (s : String) : Bool := s.startsWith "import " || s.startsWith "export "

def statementText? : Op → Option String
  | .text s => if beginsStatement s then some s else none
  | _ => none

/-- The texts outside of all regions with which statements begin that import or export. -/
def statementTexts (ops : List Op) : List String := ops.filterMap statementText?

variable {first second : List Op} {s : String} {d : Declaration} {l : Link}

theorem beginsStatement_export : beginsStatement ("export " ++ s) = true := by
  rw [beginsStatement, Bool.or_eq_true, String.startsWith_string_iff, String.startsWith_string_iff,
    String.toList_append]
  exact .inr (List.prefix_append _ _)

theorem beginsStatement_eq_false {c : Char} (h : s.toList.head? = some c)
    (hc : c ≠ 'i' ∧ c ≠ 'e') : beginsStatement s = false := by
  obtain ⟨rest, hs⟩ := List.head?_eq_some_iff.1 h
  simp [beginsStatement, String.startsWith_string_eq_false_iff, hs, hc.1.symm, hc.2.symm]

theorem beginsStatement_append {t : String} {c : Char} (h : s.toList.head? = some c)
    (hc : c ≠ 'i' ∧ c ≠ 'e') : beginsStatement (s ++ t) = false :=
  beginsStatement_eq_false (by simp [h]) hc

theorem beginsStatement_declaration : beginsStatement d.text = true := by
  obtain ⟨rest, hrest⟩ : ∃ rest, d.kind.lead = "export " ++ rest := by
    cases d.kind with
    | interface => exact ⟨"interface ", by decide⟩
    | type => exact ⟨"type ", by decide⟩
    | const => exact ⟨"const ", by decide⟩
    | function => exact ⟨"function ", by decide⟩
  rw [Declaration.text, hrest, String.append_assoc, String.append_assoc]
  exact beginsStatement_export

@[simp] theorem statementTexts_nil : statementTexts [] = [] := rfl

@[simp] theorem statementTexts_append :
    statementTexts (first ++ second) = statementTexts first ++ statementTexts second :=
  List.filterMap_append

@[simp] theorem statementTexts_region {kind : RegionKind} {multiline : Bool} {inside : List Op} :
    statementTexts (.region kind multiline inside :: first) = statementTexts first :=
  rfl

@[simp] theorem statementTexts_declaration :
    statementTexts (.text d.text :: first) = d.text :: statementTexts first :=
  List.filterMap_cons_some (by rw [statementText?, if_pos beginsStatement_declaration])

theorem statementTexts_other (h : beginsStatement s = false) :
    statementTexts (.text s :: first) = statementTexts first :=
  List.filterMap_cons_none (by rw [statementText?, h]; rfl)

theorem beginsStatement_link : beginsStatement (l.line "export" ++ "\n") = true := by
  have hverb : "export" ++ (if l.types then " type " else " ") =
      "export " ++ if l.types then "type " else "" := by
    cases l.types <;> decide
  rw [Link.line, Link.statement, hverb]
  simp only [String.append_assoc]
  exact beginsStatement_export

theorem statementTexts_links {links : List Link} :
    statementTexts (links.map fun l => .text (l.line "export" ++ "\n")) =
      links.map fun l => l.line "export" ++ "\n" := by
  have hline (l : Link) : statementText? (.text (l.line "export" ++ "\n")) =
      some (l.line "export" ++ "\n") := by
    rw [statementText?, if_pos beginsStatement_link]
  simp [statementTexts, List.filterMap_map, hline]

theorem statementTexts_break :
    statementTexts (.text "\n" :: first) = statementTexts first ∧
      statementTexts (.text ";\n" :: first) = statementTexts first := by
  constructor
  · exact statementTexts_other (beginsStatement_eq_false (c := '\n') rfl (by decide))
  · exact statementTexts_other (beginsStatement_eq_false (c := ';') rfl (by decide))

end Op

namespace CommonTypes

theorem statementTexts_functionScript {direction : String} {casts : NameGraph} :
    Op.statementTexts (functionScript direction casts) = [(Declaration.mk .function
      (direction ++ "Types") "(typeName: string): string[] ").text] := by
  have hname : "Types(typeName: string): string[] " = "Types" ++ "(typeName: string): string[] " := by
    decide
  have hexported : "export function " ++ direction ++ "Types(typeName: string): string[] " =
      (Declaration.mk .function (direction ++ "Types") "(typeName: string): string[] ").text := by
    simp only [Declaration.text, DeclarationKind.lead, hname, String.append_assoc]
  have hblank : Op.beginsStatement "\n\n" = false :=
    Op.beginsStatement_eq_false (c := '\n') rfl (by decide)
  have hhidden : Op.beginsStatement ("function " ++ direction ++
      "Types0(typeName: string, output: string[]) ") = false := by
    rw [String.append_assoc]
    exact Op.beginsStatement_append (c := 'f') rfl (by decide)
  rw [functionScript, hexported, Op.statementTexts_declaration, Op.statementTexts_region,
    Op.statementTexts_other hblank, Op.statementTexts_other hhidden, Op.statementTexts_region,
    Op.statementTexts_break.1, Op.statementTexts_nil]

theorem statementTexts_script {l : Lineage} :
    Op.statementTexts (script l) = declarations.map (·.text) := by
  have htypeName : "export type WithTypeName<T, TypeName extends string> =" =
      (Declaration.mk .type "WithTypeName" "<T, TypeName extends string> =").text := by
    decide
  have himplementation : "export type ImplementationType<T> =" =
      (Declaration.mk .type "ImplementationType" "<T> =").text := by
    decide
  rw [script, typeNameScript, implementationScript, htypeName, himplementation]
  simp only [List.cons_append, List.nil_append, Op.statementTexts_append,
    Op.statementTexts_declaration, Op.statementTexts_region, Op.statementTexts_break,
    statementTexts_functionScript]
  rfl

end CommonTypes

namespace Builder

variable {b : Builder} {s : Settings}

theorem statementTexts_constantScript : Op.statementTexts b.constantScript =
    (Declaration.mk .const b.instanceName (": " ++ b.name ++ "<\x7b\x7d, \x7b\x7d> =")).text ::
      if b.defaultFields.isEmpty then []
      else [(Declaration.mk .const (b.instanceName ++ "$") (" = " ++ b.instanceName)).text] := by
  have hempty : "export const " ++ b.instanceName ++ ": " ++ b.name ++ "<\x7b\x7d, \x7b\x7d> =" =
      (Declaration.mk .const b.instanceName
        (": " ++ b.name ++ "<\x7b\x7d, \x7b\x7d> =")).text := by
    simp only [Declaration.text, DeclarationKind.lead, String.append_assoc]
  have hname : "$ = " = "$" ++ " = " := by decide
  have hdefault : "export const " ++ b.instanceName ++ "$ = " ++ b.instanceName =
      (Declaration.mk .const (b.instanceName ++ "$") (" = " ++ b.instanceName)).text := by
    simp only [Declaration.text, DeclarationKind.lead, hname, String.append_assoc]
  have hfields {names : List String} :
      Op.statementTexts (names.map fun field => .text ("." ++ field)) = [] := by
    induction names with
    | nil => rfl
    | cons field rest ih =>
      rw [List.map_cons, Op.statementTexts_other, ih]
      exact Op.beginsStatement_append (c := '.') rfl (by decide)
  rw [constantScript, hempty, hdefault]
  cases b.defaultFields.isEmpty <;> simp [Op.statementTexts_break, hfields]

theorem statementTexts_script : Op.statementTexts (b.script s) = b.declarations.map (·.text) := by
  have hcomment : Op.beginsStatement immutabilityComment = false := by
    unfold immutabilityComment
    simp only [String.append_assoc]
    exact Op.beginsStatement_append (c := '/') rfl (by decide)
  have hinterface : "export interface " ++ b.name ++
      "<T extends object, TVariables extends object> extends ObjectFetcher<'" ++ b.typeName ++
      "', T, TVariables> " = (Declaration.mk .interface b.name
        ("<T extends object, TVariables extends object> extends ObjectFetcher<'" ++ b.typeName ++
        "', T, TVariables> ")).text := by
    simp only [Declaration.text, DeclarationKind.lead, String.append_assoc]
  have harguments : "export interface " ++ b.argumentsName ++ " " =
      (Declaration.mk .interface b.argumentsName " ").text :=
    rfl
  rw [script, hinterface, Op.statementTexts_append, Op.statementTexts_append,
    Op.statementTexts_other hcomment, statementTexts_constantScript, argumentScript, harguments,
    declarations]
  cases b.defaultFields.isEmpty <;> cases b.fieldsWithArguments.isEmpty <;>
    simp [Op.statementTexts_break]

end Builder

namespace Artifact

variable {a : Artifact} {s : Settings}

/-- The statements in the body of a file are its declarations and its export links. -/
theorem statementTexts_script : Op.statementTexts (a.script s) =
    a.declarations.map (·.text) ++ a.exportLinks.map fun l => l.line "export" ++ "\n" := by
  cases a with
  | commonTypes l => exact CommonTypes.statementTexts_script.trans (List.append_nil _).symm
  | builder b => exact Builder.statementTexts_script.trans (List.append_nil _).symm
  | enum d =>
    have htype : "export type " ++ d.name ++ " = " = (Declaration.mk .type d.name " = ").text := rfl
    have hnever : Op.beginsStatement "never" = false :=
      Op.beginsStatement_eq_false (c := 'n') rfl (by decide)
    rw [script, EnumDef.script, htype]
    cases d.values.isEmpty <;>
      simp [Op.statementTexts_break, Op.statementTexts_other hnever, declarations, exportLinks]
  | input d =>
    have htype : "export type " ++ d.name ++ " = " = (Declaration.mk .type d.name " = ").text := rfl
    rw [script, InputDef.script, htype]
    simp [Op.statementTexts_break, declarations, exportLinks]
  | index i =>
    have hscript : i.script =
        (i.exports.flatMap (·.links)).map fun l => .text (l.line "export" ++ "\n") := by
      rw [Index.script, List.map_flatMap]
      simp only [ModuleExports.script_eq]
    exact (congrArg Op.statementTexts hscript).trans Op.statementTexts_links

end Artifact

end TypedQuery
