-- SUMMARY: Rendering fails at scalars without a type, and a builder at nothing else.
import TypedQuery.Proofs.Artifact.Scripts
import TypedQuery.Proofs.Builder.Fields
import TypedQuery.Proofs.Emit.References
import TypedQuery.Proofs.Model.References

/-!
# Failures of rendering

A file is rendered by asking for imports, closing them and writing the body. So rendering fails exactly
at what the body refers to. A builder refers to the types and arguments of its fields, which the schema
has because its types were modelled: what remains is a scalar without a type.
-/
namespace TypedQuery

/-! ## Scripts -/

namespace Builder

open Op

variable {b : Builder} {f : SelectableField} {d : FieldDef} {s : Settings} {n : String}

theorem isBodyAll_selectionScript : isBodyAll (selectionScript s f d) = true := by
  simp [selectionScript, isBodyAll, isBody]

theorem isBodyAll_accessorScript : isBodyAll (b.accessorScript s f d) = true := by
  simp [accessorScript, methodScript, childScript, isBodyAll_selectionScript, isBodyAll, isBody]

theorem isBodyAll_descriptorScript : isBodyAll (descriptorScript f) = true := by
  unfold descriptorScript
  simp only [isBodyAll_ite, isBodyAll_append, isBodyAll_flatMap]
  simp [isBodyAll, isBody]

theorem isBodyAll_script : isBodyAll (b.script s) = true := by
  have hnarrowing : isBodyAll b.narrowingScript = true := rfl
  have hconstants : isBodyAll b.constantScript = true := by
    simp [constantScript, descriptionScript, isBodyAll_descriptorScript, isBodyAll, isBody]
  have harguments : isBodyAll (b.argumentScript s) = true := by
    simp [argumentScript, isBodyAll, isBody]
  simp [script, hnarrowing, typeNameScript, isBodyAll_accessorScript, hconstants, harguments,
    isBodyAll, isBody]

theorem references_selectionScript : referencesAll (selectionScript s f d) = [d.type.base] := by
  simp [selectionScript, referencesAll, references]

theorem mem_references_methodScript {withArguments : Bool} :
    n ∈ referencesAll (b.methodScript s f d withArguments) ↔ n = d.type.base := by
  simp [methodScript, childScript, references_selectionScript, referencesAll, references]

/-- However a field is selected, what its accessors refer to is its type. -/
theorem mem_references_accessorScript :
    n ∈ referencesAll (b.accessorScript s f d) ↔ n = d.type.base := by
  cases hfunction : f.isFunction with
  | true =>
    simp only [accessorScript, hfunction, if_true, referencesAll, references, List.nil_append,
      referencesAll_append, referencesAll_flatMap, List.append_nil, List.mem_flatMap,
      mem_references_methodScript]
    constructor
    · rintro ⟨_, _, h⟩
      exact h
    · intro h
      obtain ⟨withArguments, hmem⟩ := exists_mem_overloads d
      exact ⟨withArguments, hmem, h⟩
  | false =>
    simp [accessorScript, hfunction, references_selectionScript, referencesAll, references]

theorem references_descriptorScript : referencesAll (descriptorScript f) = [] := by
  unfold descriptorScript
  simp only [referencesAll_ite, referencesAll_append, referencesAll_flatMap]
  simp [referencesAll, references]

theorem mem_references_argumentScript : n ∈ referencesAll (b.argumentScript s) ↔
    ∃ p ∈ b.fields, ∃ a ∈ p.2.arguments, n = a.type.base := by
  have hinterface : n ∈ referencesAll (b.argumentScript s) ↔
      ∃ d ∈ b.fieldsWithArguments, ∃ a ∈ d.arguments, n = a.type.base := by
    unfold argumentScript
    cases hnone : b.fieldsWithArguments.isEmpty with
    | true => simp [List.isEmpty_iff.1 hnone, referencesAll]
    | false => simp [referencesAll, references]
  rw [hinterface]
  constructor
  · rintro ⟨d, hd, a, ha, rfl⟩
    obtain ⟨p, hp, rfl⟩ := List.mem_map.1 (List.mem_filter.1 hd).1
    exact ⟨p, hp, a, ha, rfl⟩
  · rintro ⟨p, hp, a, ha, rfl⟩
    have hsome : (!p.2.arguments.isEmpty) = true := by
      simpa using List.ne_nil_of_mem ha
    exact ⟨p.2, List.mem_filter.2 ⟨List.mem_map_of_mem hp, hsome⟩, a, ha, rfl⟩

/-- The type of a field of the builder, or of an argument of one. -/
def RefersTo (b : Builder) (type : TypeRef) : Prop :=
  ∃ p ∈ b.fields, type = p.2.type ∨ ∃ a ∈ p.2.arguments, type = a.type

/-- The body of a builder refers to the types of its fields and of their arguments. -/
theorem mem_references_script :
    n ∈ referencesAll (b.script s) ↔ ∃ type, b.RefersTo type ∧ n = type.base := by
  have hnarrowing : referencesAll b.narrowingScript = [] := rfl
  have hconstants : referencesAll b.constantScript = [] := by
    simp [constantScript, descriptionScript, references_descriptorScript, referencesAll, references]
  have hboth : n ∈ referencesAll (b.script s) ↔ (∃ p ∈ b.fields, n = p.2.type.base) ∨
      ∃ p ∈ b.fields, ∃ a ∈ p.2.arguments, n = a.type.base := by
    rw [← mem_references_argumentScript (s := s)]
    simp [script, hnarrowing, typeNameScript, mem_references_accessorScript, hconstants,
      referencesAll, references]
  rw [hboth]
  constructor
  · rintro (⟨p, hp, rfl⟩ | ⟨p, hp, a, ha, rfl⟩)
    · exact ⟨p.2.type, ⟨p, hp, .inl rfl⟩, rfl⟩
    · exact ⟨a.type, ⟨p, hp, .inr ⟨a, ha, rfl⟩⟩, rfl⟩
  · rintro ⟨type, ⟨p, hp, rfl | ⟨a, ha, rfl⟩⟩, rfl⟩
    · exact .inl ⟨p, hp, rfl⟩
    · exact .inr ⟨p, hp, a, ha, rfl⟩

end Builder

theorem InputDef.references_script {d : InputDef} :
    Op.referencesAll d.script = d.fields.map (·.type.base) := by
  simp [script, Op.referencesAll, Op.references, List.map_eq_flatMap]

namespace CommonTypes

open Op

variable {l : Lineage}

theorem isBodyAll_script : isBodyAll (script l) = true := by
  simp [script, typeNameScript, implementationScript, branchScript, functionScript, caseScript,
    isBodyAll, isBody]

theorem references_script : referencesAll (script l) = [] := by
  simp [script, typeNameScript, implementationScript, branchScript, functionScript, caseScript,
    referencesAll, references]

end CommonTypes

namespace Artifact

open Op

variable {a : Artifact} {s : Settings}

theorem all_isImport_importScript : a.importScript.all isImport = true := by
  cases a with
  | builder b =>
    simp only [importScript, Builder.importScript]
    cases b.isPolymorphic <;> simp [isImport]
  | input d => simp [importScript, InputDef.importScript, isImport]
  | _ => rfl

theorem isBodyAll_script : isBodyAll (a.script s) = true := by
  cases a with
  | commonTypes l => exact CommonTypes.isBodyAll_script
  | builder b => exact Builder.isBodyAll_script
  | enum d => simp [script, EnumDef.script, isBodyAll, isBody]
  | input d => simp [script, InputDef.script, isBodyAll, isBody]
  | index i => simp [script, Index.script, ModuleExports.script, isBodyAll, isBody]

/-- A file that is neither a builder nor an input object. -/
def isPlain : Artifact → Bool
  | commonTypes _ | enum _ | index _ => true
  | builder _ | input _ => false

theorem references_script_of_isPlain (h : a.isPlain = true) : referencesAll (a.script s) = [] := by
  cases a with
  | commonTypes l => exact CommonTypes.references_script
  | enum d => simp [script, EnumDef.script, referencesAll, references]
  | index i => simp [script, Index.script, ModuleExports.script, referencesAll, references]
  | _ => cases h

/-! ## Rendering -/

variable {schema : Schema} {failure : Error} {n : String}

/-- Rendering a file fails at the first name in its body that fails the check. -/
theorem result_page : (a.page schema s).1 =
    (referencesAll (a.script s)).forM (Sheet.check ⟨schema, s, a.location⟩) := by
  rw [page_eq, runAll_eq]
  exact (checks_imports_body a.all_isImport_importScript a.isBodyAll_script).result

theorem render_eq_error_iff :
    a.render schema s = .error failure ↔ (a.page schema s).1 = .error failure := by
  unfold render
  rcases a.page schema s with ⟨_ | _, _⟩ <;> simp

theorem exists_render_iff :
    (∃ text, a.render schema s = .ok text) ↔ (a.page schema s).1 = .ok () := by
  unfold render
  rcases a.page schema s with ⟨_ | _, _⟩ <;> simp

/-- The types that a file refers to. -/
def types : Artifact → List TypeRef
  | builder b => b.fields.flatMap fun (_, d) => d.type :: d.arguments.map (·.type)
  | input d => d.fields.map (·.type)
  | commonTypes _ | enum _ | index _ => []

theorem mem_types_builder {b : Builder} {type : TypeRef} :
    type ∈ (builder b).types ↔ b.RefersTo type := by
  simp [Builder.RefersTo, types, eq_comm]

theorem mem_references_script : n ∈ referencesAll (a.script s) ↔ ∃ type ∈ a.types, n = type.base := by
  cases a with
  | builder b =>
    rw [script, Builder.mem_references_script]
    exact exists_congr fun type => and_congr_left fun _ => mem_types_builder.symm
  | input d => simp [script, types, InputDef.references_script, eq_comm]
  | commonTypes _ | enum _ | index _ =>
    rw [references_script_of_isPlain rfl]
    simp [types]

/-- A file whose types all pass the check is rendered. -/
theorem exists_render_of_checks
    (h : a.types.forM (fun type => Sheet.check ⟨schema, s, a.location⟩ type.base) = .ok ()) :
    ∃ text, a.render schema s = .ok text := by
  rw [exists_render_iff, result_page, forM_eq_ok_iff]
  intro n hn
  obtain ⟨type, htype, rfl⟩ := mem_references_script.1 hn
  exact forM_eq_ok_iff.1 h type htype

/-- The types of a file that is rendered all pass the check. -/
theorem check_of_render {text : String} (h : a.render schema s = .ok text) {type : TypeRef}
    (htype : type ∈ a.types) : Sheet.check ⟨schema, s, a.location⟩ type.base = .ok () := by
  have hok := exists_render_iff.1 ⟨text, h⟩
  rw [result_page, forM_eq_ok_iff] at hok
  exact hok _ (mem_references_script.2 ⟨type, htype, rfl⟩)

/-- A file that cannot be rendered fails at the check of one of its types. -/
theorem exists_check_of_render (h : a.render schema s = .error failure) :
    ∃ type ∈ a.types, Sheet.check ⟨schema, s, a.location⟩ type.base = .error failure := by
  rw [render_eq_error_iff, result_page] at h
  obtain ⟨n, hn, hcheck⟩ := exists_of_forM_eq_error h
  obtain ⟨type, htype, rfl⟩ := mem_references_script.1 hn
  exact ⟨type, htype, hcheck⟩

/-- The text of a file is what its page comes to. -/
theorem text_of_render {text : String} (h : a.render schema s = .ok text) :
    text = (a.page schema s).2.header ++ (a.page schema s).2.body := by
  unfold render at h
  split at h
  · next p hpage =>
    rw [hpage]
    exact (Except.ok.inj h).symm
  · cases h

end Artifact

/-! ## Unmapped scalars -/

/-- The base of a type is a scalar of the schema for which neither the settings nor the usual types
have a type in generated code. -/
structure Schema.Unmapped (s : Schema) (settings : Settings) (type : TypeRef) : Prop where
  scalar : (s.get? type.base).any (·.kind = .scalar)
  notSet : type.base ∉ settings.scalarTypes.keys
  notUsual : type.base ∉ Writing.usualScalarTypes.map (·.1)

namespace Sheet

variable {sheet : Sheet} {type : TypeRef} {name : String} {failure : Error}

theorem scalarType?_eq_none_iff {s : Settings} : Writing.scalarType? s name = none ↔
    name ∉ s.scalarTypes.keys ∧ name ∉ Writing.usualScalarTypes.map (·.1) := by
  unfold Writing.scalarType? NameMap.get? NameMap.keys
  rw [← lookup_eq_none_iff, ← lookup_eq_none_iff]
  cases s.scalarTypes.entries.lookup name <;> simp

/-- A known name fails the check if it is an unmapped scalar, and only then. -/
theorem check_eq_error_iff (hknown : (sheet.schema.get? type.base).isSome) :
    sheet.check type.base = .error failure ↔
      failure = .unknownScalar type.base ∧ sheet.schema.Unmapped sheet.settings type := by
  have hunmapped : sheet.schema.Unmapped sheet.settings type ↔
      (sheet.schema.get? type.base).any (·.kind = .scalar) ∧
        Writing.scalarType? sheet.settings type.base = none := by
    rw [scalarType?_eq_none_iff]
    exact ⟨fun h => ⟨h.scalar, h.notSet, h.notUsual⟩, fun h => ⟨h.1, h.2.1, h.2.2⟩⟩
  obtain ⟨d, hget⟩ := Option.isSome_iff_exists.1 hknown
  rw [hunmapped, check, hget]
  cases d with
  | scalar _ =>
    cases Writing.scalarType? sheet.settings type.base <;> simp [TypeDef.kind, eq_comm]
  | _ => simp [TypeDef.kind]

theorem ne_importsClosed_of_check (h : sheet.check name = .error failure) :
    failure ≠ .importsClosed := by
  rintro rfl
  unfold check at h
  split at h
  · cases h
  · split at h <;> cases h
  · cases h

end Sheet

namespace Catalog

variable {c : Catalog} {s : Schema} {settings : Settings} {artifacts : List Artifact} {a : Artifact}
  {b : Builder} {failure : Error}

/-- The builders among the files are those of composite types. -/
theorem typeName_mem_of_mem_artifacts (hc : ofSchema s settings = .ok c)
    (hartifacts : c.artifacts = .ok artifacts) (hb : .builder b ∈ artifacts) :
    b.catalog = c ∧ b.typeName ∈ s.compositeNames ∧ c.builder b.typeName = .ok b := by
  obtain ⟨builders, hbuilders, rfl⟩ := map_eq_ok_iff.1 hartifacts
  have hmem : b ∈ builders := by
    simpa [artifactsOf] using hb
  obtain ⟨t, ht, hbuilder⟩ := exists_of_mem_right (mapM_eq_ok_iff.1 hbuilders) hmem
  have hbuilds := builds_of_builder hbuilder
  have hname : b.typeName = t.name := (typeOf_of_type? hc hbuilds.type).1
  have hcomposite := name_mem_of_mem_types hc ht
  rw [schema_eq hc] at hcomposite
  rw [hname]
  exact ⟨hbuilds.catalog, hcomposite, hbuilder⟩

/-- Whatever a builder refers to, the schema has. -/
theorem Builds.isSome_of_refersTo {name : String} (h : c.Builds name b)
    (hc : ofSchema s settings = .ok c) {type : TypeRef} (htype : b.RefersTo type) :
    (c.schema.get? type.base).isSome := by
  obtain ⟨rfl, hmodel⟩ := typeOf_of_type? hc h.type
  obtain ⟨p, hp, hfield⟩ := htype
  have hknows := (Outline.typeOf_eq_ok hmodel).2.knows_of_listed (h.listed p hp).1
  rcases hfield with rfl | ⟨a, ha, rfl⟩
  · exact hknows.type
  · exact hknows.arguments a ha

theorem enum_mem_iff (hc : ofSchema s settings = .ok c) (hartifacts : c.artifacts = .ok artifacts)
    {d : EnumDef} : .enum d ∈ artifacts ↔ s.get? d.name = some (.enum d) := by
  obtain ⟨builders, _, rfl⟩ := map_eq_ok_iff.1 hartifacts
  rw [← Schema.mem_enums_iff, ← schema_eq hc]
  simp [artifactsOf]

theorem input_mem_iff (hc : ofSchema s settings = .ok c) (hartifacts : c.artifacts = .ok artifacts)
    {d : InputDef} : .input d ∈ artifacts ↔ s.get? d.name = some (.input d) := by
  obtain ⟨builders, _, rfl⟩ := map_eq_ok_iff.1 hartifacts
  rw [← Schema.mem_inputs_iff, ← schema_eq hc]
  simp [artifactsOf]

/-- Everything that is done to generate the files of a schema succeeds. -/
def Succeeds (s : Schema) (settings : Settings) : Prop :=
  ∃ c artifacts, ofSchema s settings = .ok c ∧ c.artifacts = .ok artifacts ∧
    ∀ a ∈ artifacts, ∃ text, c.render a = .ok text

/-- The files of a schema text are found by computing something of each of them. -/
theorem exists_artifacts_of_map {α : Type} (source : String) (settings : Settings)
    (f : Schema → Artifact → α) (listing : List α)
    (h : (Schema.parse source >>= fun s => ofSchema s settings >>= fun c => c.artifacts >>=
      fun artifacts => (pure (artifacts.map (f s)) : Except Error (List α))) = .ok listing) :
    ∃ s c artifacts, Schema.parse source = .ok s ∧ ofSchema s settings = .ok c ∧
      c.artifacts = .ok artifacts ∧ artifacts.map (f s) = listing := by
  obtain ⟨s, hs, h⟩ := bind_eq_ok_iff.1 h
  obtain ⟨c, hc, h⟩ := bind_eq_ok_iff.1 h
  obtain ⟨artifacts, hartifacts, h⟩ := bind_eq_ok_iff.1 h
  exact ⟨s, c, artifacts, hs, hc, hartifacts, Except.ok.inj h⟩

/-- Everything succeeds if there are files and their types all pass the check. -/
theorem succeeds_of_checks
    (h : (ofSchema s settings >>= fun c => c.artifacts >>= fun artifacts => artifacts.mapM fun a =>
      a.types.forM fun type => Sheet.check ⟨s, settings, a.location⟩ type.base).isOk = true) :
    Succeeds s settings := by
  obtain ⟨_, hchecks⟩ := exists_of_isOk h
  obtain ⟨c, hc, hchecks⟩ := bind_eq_ok_iff.1 hchecks
  obtain ⟨artifacts, hartifacts, hchecks⟩ := bind_eq_ok_iff.1 hchecks
  refine ⟨c, artifacts, hc, hartifacts, fun a ha => ?_⟩
  obtain ⟨_, _, hcheck⟩ := exists_of_mem_left (mapM_eq_ok_iff.1 hchecks) ha
  rw [render, schema_eq hc, settings_eq hc]
  exact Artifact.exists_render_of_checks hcheck

theorem render_ne_importsClosed : c.render a ≠ .error .importsClosed := by
  intro h
  obtain ⟨type, _, hcheck⟩ := Artifact.exists_check_of_render h
  exact Sheet.ne_importsClosed_of_check hcheck rfl

theorem exists_render_of_isPlain (h : a.isPlain = true) : ∃ text, c.render a = .ok text := by
  rw [render, Artifact.exists_render_iff, Artifact.result_page,
    Artifact.references_script_of_isPlain h]
  rfl

/-- A builder that cannot be rendered fails at an unmapped scalar. -/
theorem Builds.exists_unmapped {name : String} (h : c.Builds name b)
    (hc : ofSchema s settings = .ok c) (hrender : c.render (.builder b) = .error failure) :
    ∃ type, b.RefersTo type ∧ c.schema.Unmapped c.settings type ∧
      failure = .unknownScalar type.base := by
  obtain ⟨type, hmem, hcheck⟩ := Artifact.exists_check_of_render hrender
  have htype := Artifact.mem_types_builder.1 hmem
  obtain ⟨hfailure, hunmapped⟩ :=
    (Sheet.check_eq_error_iff (h.isSome_of_refersTo hc htype)).1 hcheck
  exact ⟨type, htype, hunmapped, hfailure⟩

/-- A builder that refers to an unmapped scalar cannot be rendered. -/
theorem Builds.exists_failure {name : String} (h : c.Builds name b)
    (hc : ofSchema s settings = .ok c) {type : TypeRef} (htype : b.RefersTo type)
    (hunmapped : c.schema.Unmapped c.settings type) :
    ∃ failure, c.render (.builder b) = .error failure := by
  cases hrender : c.render (.builder b) with
  | error failure => exact ⟨failure, rfl⟩
  | ok text =>
    have hcheck := Artifact.check_of_render hrender (Artifact.mem_types_builder.2 htype)
    rw [(Sheet.check_eq_error_iff (h.isSome_of_refersTo hc htype)).2 ⟨rfl, hunmapped⟩] at hcheck
    cases hcheck

/-- Rendering a file of a catalog never asks for imports too late. The common types, enums and indexes
are always rendered. Rendering a builder fails at unmapped scalars only, and it does fail if the builder
refers to one. -/
theorem render_failures (hc : ofSchema s settings = .ok c)
    (hartifacts : c.artifacts = .ok artifacts) (ha : a ∈ artifacts) :
    c.render a ≠ .error .importsClosed ∧
    (a.isPlain → ∃ text, c.render a = .ok text) ∧
    ∀ b, a = .builder b →
      (∀ failure, c.render a = .error failure →
        ∃ type, b.RefersTo type ∧ s.Unmapped settings type ∧ failure = .unknownScalar type.base) ∧
      ((∃ failure, c.render a = .error failure) ↔
        ∃ type, b.RefersTo type ∧ s.Unmapped settings type) := by
  refine ⟨render_ne_importsClosed, exists_render_of_isPlain, ?_⟩
  rintro b rfl
  obtain ⟨_, _, hbuilder⟩ := typeName_mem_of_mem_artifacts hc hartifacts ha
  have hbuilds := builds_of_builder hbuilder
  have hfails : ∀ failure, c.render (.builder b) = .error failure →
      ∃ type, b.RefersTo type ∧ s.Unmapped settings type ∧ failure = .unknownScalar type.base := by
    rw [← schema_eq hc, ← settings_eq hc]
    exact fun failure => hbuilds.exists_unmapped hc
  refine ⟨hfails, ?_, ?_⟩
  · rintro ⟨failure, hrender⟩
    obtain ⟨type, htype, hunmapped, _⟩ := hfails failure hrender
    exact ⟨type, htype, hunmapped⟩
  · rintro ⟨type, htype, hunmapped⟩
    rw [← schema_eq hc, ← settings_eq hc] at hunmapped
    exact hbuilds.exists_failure hc htype hunmapped

/-- A schema with a scalar that has no usual type. -/
def shop : Schema where
  types := [
    .object ⟨"Shop", [], [⟨"name", .named "String", []⟩, ⟨"price", .named "Money", []⟩]⟩,
    .scalar "Money", .scalar "String"]
  roots := .unset
  distinct := by decide

theorem render_failures_of_shop :
    ∃ c artifacts, ofSchema shop {} = .ok c ∧ c.artifacts = .ok artifacts ∧
      ∀ a ∈ artifacts, c.render a ≠ .error .importsClosed ∧
        (a.isPlain → ∃ text, c.render a = .ok text) ∧
        ∀ b, a = .builder b →
          (∀ failure, c.render a = .error failure →
            ∃ type, b.RefersTo type ∧ shop.Unmapped {} type ∧ failure = .unknownScalar type.base) ∧
          ((∃ failure, c.render a = .error failure) ↔
            ∃ type, b.RefersTo type ∧ shop.Unmapped {} type) := by
  obtain ⟨c, all, hc, hartifacts⟩ := exists_artifacts shop {} (by cbv)
  exact ⟨c, all, hc, hartifacts, fun a ha => render_failures hc hartifacts ha⟩

end Catalog

end TypedQuery
