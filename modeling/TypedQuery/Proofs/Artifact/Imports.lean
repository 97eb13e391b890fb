-- SUMMARY: Files import the enums and input objects that they refer to, and no others.
import TypedQuery.Proofs.Artifact.Failures
import TypedQuery.Proofs.Emit.Imports

/-!
# Imports of the files

The imports of a file are asked for before its body is written, by code of their own. They agree all the
same: a file imports the enums and input objects that its body refers to, apart from the one that it
defines, and each of them on one line (`Catalog.imports_of_references`). The members of a union that is
written as such are no exception to that, although an enum may be among them in a schema that nobody has
validated: what is imported is what a type refers to, not what stands in for it
(`Catalog.not_imported_color`).
-/
namespace TypedQuery

/-! ## What the files ask for -/

namespace Builder

open Op

variable {b : Builder} {type : TypeRef}

theorem addType_mem_importFields :
    .addType type ∈ (b.fields.map fun (_, d) => Op.importField d).flatMap importActs ↔
      b.RefersTo type := by
  rw [List.flatMap_map, List.mem_flatMap]
  refine exists_congr fun p => and_congr_right fun _ => ?_
  simp [importActs, eq_comm]

theorem addType_mem_importScript :
    .addType type ∈ b.importScript.flatMap importActs ↔ b.RefersTo type := by
  have hpolymorphic : .addType type ∉ (if b.isPolymorphic then
      [Op.importStatement commonTypesImport] else []).flatMap importActs := by
    split <;> simp [importActs]
  have hsupers : .addType type ∉ (b.type.superTypes.map fun t =>
      Op.importStatement (b.superImport t.name)).flatMap importActs := by
    simp [List.flatMap_map, importActs]
  rw [importScript, List.flatMap_append, List.flatMap_append, List.flatMap_cons]
  simp only [List.mem_append, importActs, List.mem_singleton, reduceCtorEq, hpolymorphic, hsupers,
    addType_mem_importFields, false_or]

end Builder

namespace InputDef

open Op

variable {d : InputDef} {type : TypeRef}

theorem addType_mem_importScript :
    .addType type ∈ d.importScript.flatMap importActs ↔ ∃ f ∈ d.fields, type = f.type := by
  simp [importScript, importActs, eq_comm]

end InputDef

namespace Artifact

variable {a : Artifact} {schema : Schema} {s : Settings} {n : String}

/-- What a file asks to import is what its body refers to. -/
theorem mem_references_script_iff : n ∈ Op.referencesAll (a.script s) ↔
    ∃ type, .addType type ∈ a.importScript.flatMap Op.importActs ∧ n = type.base := by
  cases a with
  | builder b =>
    simp only [importScript, Builder.addType_mem_importScript]
    exact Builder.mem_references_script
  | input d =>
    simp only [importScript, InputDef.addType_mem_importScript, script, InputDef.references_script,
      List.mem_map]
    constructor
    · rintro ⟨f, hf, rfl⟩
      exact ⟨f.type, ⟨f, hf, rfl⟩, rfl⟩
    · rintro ⟨_, ⟨f, hf, rfl⟩, rfl⟩
      exact ⟨f, hf, rfl⟩
  | commonTypes _ | enum _ | index _ =>
    rw [references_script_of_isPlain rfl]
    simp [importScript]

theorem lists_page (a : Artifact) (schema : Schema) (s : Settings) : (a.page schema s).2.Lists
    ⟨schema, s, a.location⟩ (a.importScript.flatMap Op.importActs) :=
  Op.lists_runAll a.all_isImport_importScript a.isBodyAll_script (by rw [page_eq])

theorem sheet_page : (a.page schema s).2.sheet = ⟨schema, s, a.location⟩ :=
  (a.lists_page schema s).sheet

/-- The body is the layout of the acts of the script. -/
theorem body_page : (a.page schema s).2.body.toList = layout s.indent.toList false
    (({} : Draft).perform
      (Op.courseAll ⟨schema, s, a.location⟩ (a.script s) true).acts).strokes := by
  rw [page_eq]
  exact Op.body_runAll a.all_isImport_importScript

/-- The names on the lines that import types, from all modules. -/
def importNames (a : Artifact) (schema : Schema) (s : Settings) : List String :=
  (a.page schema s).2.importGroups.flatMap (·.2)

theorem mem_importNames_iff : n ∈ a.importNames schema s ↔
    Sheet.Imports ⟨schema, s, a.location⟩ n ∧ n ∈ Op.referencesAll (a.script s) := by
  have hschema : (a.page schema s).2.schema = schema := congrArg Sheet.schema sheet_page
  rw [importNames, Page.importNames_perm.mem_iff, List.mem_filter, (a.lists_page schema s).types,
    hschema, mem_references_script_iff]
  exact ⟨And.left, fun h => ⟨h, h.1.1⟩⟩

theorem nodup_importNames : (a.importNames schema s).Nodup :=
  Page.importNames_perm.nodup_iff.2 ((a.lists_page schema s).nodup.filter _)

end Artifact

/-! ## What the files import -/

theorem Schema.isDefinition_of_composite {s : Schema} {name : String}
    (h : name ∈ s.compositeNames) : s.isDefinition name = false := by
  obtain ⟨d, hget, hcomposite⟩ := mem_compositeNames_iff.1 h
  rw [isDefinition, hget]
  cases d <;> first | rfl | cases hcomposite

namespace Catalog

variable {c : Catalog} {s : Schema} {settings : Settings} {artifacts : List Artifact} {a : Artifact}
  {text : String}

/-- The one definition that a file cannot import is the one that it defines itself. -/
theorem imports_iff (hc : ofSchema s settings = .ok c) (hartifacts : c.artifacts = .ok artifacts)
    (ha : a ∈ artifacts) {n : String} (hn : n ∈ Op.referencesAll (a.script settings)) :
    Sheet.Imports ⟨s, settings, a.location⟩ n ↔
      s.isDefinition n ∧ ∀ d, a = .input d → n ≠ d.name := by
  refine and_congr_right fun hdefinition => ?_
  cases a with
  | builder b =>
    obtain ⟨_, hcomposite, _⟩ := typeName_mem_of_mem_artifacts hc hartifacts ha
    refine ⟨fun _ => nofun, fun _ hdefines => ?_⟩
    -- A builder defines a composite type, and those are never imported.
    obtain rfl : b.typeName = n := Option.some.inj hdefines
    rw [Schema.isDefinition_of_composite hcomposite] at hdefinition
    cases hdefinition
  | input d =>
    constructor
    · rintro hne _ ⟨⟩ rfl
      exact hne rfl
    · intro hne heq
      exact hne d rfl (Option.some.inj heq).symm
  | commonTypes _ | enum _ | index _ =>
    rw [Artifact.references_script_of_isPlain rfl] at hn
    cases hn

/-- A file that can be rendered begins with lines that import types, each type on one line. These are the
enums and input objects that the body refers to, except that an input object does not import itself.
All their names are written; the only others that are, where the body refers to types, are members of
unions that are written as such. What a reference does is part of what the body is the layout of, and
its texts are names of types and the words beside them. -/
theorem imports_of_references (hc : ofSchema s settings = .ok c)
    (hartifacts : c.artifacts = .ok artifacts) (ha : a ∈ artifacts)
    (hrender : c.render a = .ok text) :
    let page := (a.page s settings).2
    let body := a.script settings
    let sheet : Sheet := ⟨s, settings, a.location⟩
    let acts := (Op.courseAll sheet body true).acts
    text = Page.leadingText page.importLines ++ page.body ∧
    (page.importGroups.map (·.1)).Nodup ∧ (a.importNames s settings).Nodup ∧
    (∀ n, n ∈ a.importNames s settings ↔
      s.isDefinition n ∧ (∀ d, a = .input d → n ≠ d.name) ∧ n ∈ Op.referencesAll body) ∧
    (∀ n, s.isDefinition n →
      (n ∈ Op.namesAll s body ↔ n ∈ Op.referencesAll body ∨ ∃ type u,
        (type, none) ∈ Op.typeRefsAll body ∧ s.get? type.base = some (.union u) ∧ n ∈ u.members) ∧
      (n ∈ Op.namesAll s body → .text n ∈ acts)) ∧
    page.body.toList = layout settings.indent.toList false (({} : Draft).perform acts).strokes ∧
    ∀ r ∈ Op.typeRefsAll body, (Course.ofRef sheet r.2 r.1 true).acts <:+: acts ∧
      ∀ t, .text t ∈ (Course.ofRef sheet r.2 r.1 true).acts ↔
        t ∈ s.namesIn r.1.base r.2 ∨ t ∈ sheet.wordsIn r.2 r.1 := by
  intro page body sheet acts
  rw [render, schema_eq hc, settings_eq hc] at hrender
  have hok : (a.page s settings).1 = .ok () := Artifact.exists_render_iff.1 ⟨text, hrender⟩
  have hresult : (Op.courseAll sheet body true).result = .ok () := by
    rw [(Op.checks_courseAll body a.isBodyAll_script).result, ← Artifact.result_page, hok]
  have hrefs := Op.ofRef_infix_courseAll body a.isBodyAll_script hresult
  refine ⟨?_, Page.nodup_modules, Artifact.nodup_importNames, fun n => ?_, fun n hn => ⟨?_, ?_⟩,
    Artifact.body_page, fun r hr => ⟨(hrefs r hr).2, fun t => Op.text_mem_ofRef_iff (hrefs r hr).1⟩⟩
  · rw [← Page.header_eq]
    exact Artifact.text_of_render hrender
  · rw [Artifact.mem_importNames_iff, ← and_assoc, and_congr_left_iff]
    exact imports_iff hc hartifacts ha
  · obtain ⟨d, hget, hd⟩ := Schema.isDefinition_iff.1 hn
    exact Op.mem_namesAll_iff hget hd
  · intro hnames
    obtain ⟨r, hr, hmem⟩ := List.mem_flatMap.1 hnames
    obtain ⟨href, hinfix⟩ := hrefs r hr
    exact hinfix.subset ((Op.text_mem_ofRef_iff href).2 (.inl hmem))

/-- A schema in which an enum and input objects are used in every way. -/
def studio : Schema where
  types := [
    .enum ⟨"Color", ["RED"]⟩,
    .input ⟨"Brush", [⟨"color", .named "Color"⟩, ⟨"spare", .list (.named "Brush")⟩]⟩,
    .object ⟨"Canvas", [], [⟨"paint", .nonNull (.named "Color"), [⟨"brush", .named "Brush"⟩]⟩]⟩]
  roots := .unset
  distinct := by decide

theorem imports_of_references_of_studio :
    ∃ c artifacts, ofSchema studio {} = .ok c ∧ c.artifacts = .ok artifacts ∧
      ∀ a ∈ artifacts, ∃ text, c.render a = .ok text ∧
        ∀ n, n ∈ a.importNames studio {} ↔ studio.isDefinition n ∧
          (∀ d, a = .input d → n ≠ d.name) ∧ n ∈ Op.referencesAll (a.script {}) := by
  obtain ⟨c, all, hc, hall, hrender⟩ : Succeeds studio {} := by
    apply succeeds_of_checks
    cbv
  refine ⟨c, all, hc, hall, fun a ha => ?_⟩
  obtain ⟨text, htext⟩ := hrender a ha
  exact ⟨text, htext, (imports_of_references hc hall ha htext).2.2.2.1⟩

/-- A schema with an enum among the members of a union, and an argument of that union. -/
def palette : Schema where
  types := [
    .enum ⟨"Color", ["RED"]⟩, .union ⟨"Hue", ["Color"]⟩,
    .object ⟨"Query", [], [⟨"paint", .named "String", [⟨"hue", .named "Hue"⟩]⟩]⟩,
    .scalar "String"]
  roots := .unset
  distinct := by decide

/-- The argument of the union is written by the name of the enum, which is not imported. -/
theorem not_imported_color :
    ∃ c artifacts b text, ofSchema palette {} = .ok c ∧ c.artifacts = .ok artifacts ∧
      .builder b ∈ artifacts ∧ c.render (.builder b) = .ok text ∧
      palette.isDefinition "Color" ∧
      "Color" ∈ Op.namesAll palette ((Artifact.builder b).script {}) ∧
      "Color" ∉ (Artifact.builder b).importNames palette {} := by
  have hok : (ofSchema palette {} >>= fun c => c.artifacts >>= fun all => c.builder "Query" >>= fun b =>
      ((Artifact.builder b).types.forM fun type =>
        Sheet.check ⟨palette, {}, b.location⟩ type.base) >>= fun _ =>
      if "Color" ∈ Op.namesAll palette (b.script {}) ∧ "Color" ∉ Op.referencesAll (b.script {})
        then .ok () else .error .importsClosed).isOk = true := by cbv
  obtain ⟨_, hunit⟩ := exists_of_isOk hok
  obtain ⟨c, hc, hunit⟩ := bind_eq_ok_iff.1 hunit
  obtain ⟨all, hall, hunit⟩ := bind_eq_ok_iff.1 hunit
  obtain ⟨b, hb, hunit⟩ := bind_eq_ok_iff.1 hunit
  obtain ⟨_, hcheck, hnames⟩ := bind_eq_ok_iff.1 hunit
  have hrender : ∃ text, c.render (.builder b) = .ok text := by
    rw [render, schema_eq hc, settings_eq hc]
    exact Artifact.exists_render_of_checks hcheck
  obtain ⟨text, hrender⟩ := hrender
  split at hnames
  · next h =>
    have hmem := mem_artifacts_of_builder hc hall (by decide) hb
    refine ⟨c, all, b, text, hc, hall, hmem, hrender, by decide, h.1, fun himport => h.2 ?_⟩
    exact (Artifact.mem_importNames_iff.1 himport).2
  · cases hnames

end Catalog

end TypedQuery
