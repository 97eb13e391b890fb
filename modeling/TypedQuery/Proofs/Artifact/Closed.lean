-- SUMMARY: The generated files are closed under imports.
import TypedQuery.Proofs.Artifact.Links
import TypedQuery.Proofs.Emit.Modules
import TypedQuery.Proofs.Model.Subtypes
import TypedQuery.Proofs.Sdl.Names

/-!
# Closure under imports

Every file but the index of the output directory is listed in an index: `Artifact.listing?` says what the
index passes on, and `Artifact.home` in which folder the index is. The listings of an index are those of the
files of its folder (`Catalog.Run.mem_exports_iff`); a listing leads to its file and promises what the file
exports. So nothing is passed on that is not there and nothing is left out
(`Catalog.closed_under_imports`). Types are imported from the file that defines them or from the index of
its folder; everything else that a builder imports is exported by the common types or by another builder.
-/
namespace TypedQuery

theorem Sdl.IsName.isComponent {name : String} (h : Sdl.IsName name) : Path.IsComponent name :=
  fun hslash => absurd (h.2 '/' hslash) (by decide)

/-- What a listing in an index promises. -/
def ModuleExports.exports (m : ModuleExports) : List Export :=
  m.types.map (⟨false, ·⟩) ++ m.values.map (⟨true, ·⟩)

theorem ModuleExports.flatMap_links {m : ModuleExports} :
    m.links.flatMap (·.exports) = m.exports := by
  unfold links exports
  cases m.everything <;> cases m.types <;> cases m.values <;> simp [Link.exports]

theorem ModuleExports.module_of_mem_links {m : ModuleExports} {l : Link} (h : l ∈ m.links) :
    l.module = "./" ++ m.module := by
  unfold links at h
  cases heverything : m.everything <;> cases htypes : m.types <;> cases hvalues : m.values <;>
    simp [heverything, htypes, hvalues] at h <;> grind

namespace Artifact

/-- The folder with the index that lists a file. -/
def home : Artifact → Folder
  | commonTypes _ | index _ => .root
  | builder _ => .fetchers
  | enum _ => .enums
  | input _ => .inputs

/-- The listing of a file in an index. -/
def listing? (c : Catalog) : Artifact → Option ModuleExports
  | commonTypes _ => some Catalog.commonExports
  | builder b => some (c.builderExports b)
  | enum d => some (Catalog.definitionExports d.name)
  | input d => some (Catalog.definitionExports d.name)
  | index i => i.folder.name?.map Catalog.folderExports

/-- A module path in a file leads to a file. -/
def Leads (artifacts : List Artifact) (file module : String) (target : Artifact) : Prop :=
  target ∈ artifacts ∧ Path.moduleFile? (artifacts.map path) file module = some target.path

variable {a : Artifact} {c : Catalog} {m : ModuleExports} {e : Export}

theorem exports_index {i : Index} : (Artifact.index i).exports = i.exports.flatMap (·.exports) := by
  simp only [exports, declarations, exportLinks, List.map_nil, List.nil_append, List.flatMap_assoc,
    ModuleExports.flatMap_links]

theorem exports_of_exportLinks (h : a.exportLinks = []) :
    a.exports = a.declarations.map (·.toExport) := by
  rw [exports, h, List.flatMap_nil, List.append_nil]

theorem exists_listing (h : ∀ i, a ≠ .index i) : ∃ m, a.listing? c = some m := by
  cases a with
  | index i => exact absurd rfl (h i)
  | _ => exact ⟨_, rfl⟩

/-- What an index promises of a file that is not an index itself is what the file exports. -/
theorem mem_exports_iff (h : a.listing? c = some m) (hnot : ∀ i, a ≠ .index i) :
    e ∈ a.exports ↔ e ∈ m.exports := by
  cases a with
  | commonTypes l =>
    cases h
    exact Iff.rfl
  | builder b =>
    cases h
    rw [exports_of_exportLinks rfl, declarations, Builder.declarations, ModuleExports.exports,
      Catalog.builderExports, Builder.exportedTypes, Builder.exportedValues]
    cases b.defaultFields.isEmpty <;> cases b.fieldsWithArguments.isEmpty <;>
      simp [Declaration.toExport, DeclarationKind.isValue] <;> tauto
  | enum d => cases h; exact Iff.rfl
  | input d => cases h; exact Iff.rfl
  | index i => exact absurd rfl (hnot i)

/-- No name is promised that a file does not export. -/
theorem mem_exports_of_listing (h : a.listing? c = some m) (he : e ∈ m.exports) : e ∈ a.exports := by
  cases a with
  | index i =>
    obtain ⟨name, _, rfl⟩ := Option.map_eq_some_iff.1 h
    cases he
  | _ => exact (mem_exports_iff h nofun).2 he

end Artifact

namespace Catalog

/-- A run that succeeds, with names that can be names of files. -/
structure Run (c : Catalog) (s : Schema) (settings : Settings) (artifacts : List Artifact) : Prop where
  catalog : ofSchema s settings = .ok c
  artifacts : c.artifacts = .ok artifacts
  names : ∀ d ∈ s.types, Path.IsComponent d.name
  suffix : Path.IsComponent settings.fetcherSuffix

/-- The files, by kind. -/
theorem exists_mem_artifactsOf_iff {c : Catalog} {builders : List Builder} {P : Artifact → Prop} :
    (∃ a ∈ c.artifactsOf builders, P a) ↔
      P (.commonTypes c.lineage) ∨ (∃ b ∈ builders, P (.builder b)) ∨
      (∃ d ∈ c.schema.enums, P (.enum d)) ∨ (∃ d ∈ c.schema.inputs, P (.input d)) ∨
      ∃ i, .index i ∈ c.artifactsOf builders ∧ P (.index i) := by
  constructor
  · rintro ⟨a, ha, hp⟩
    cases a with
    | commonTypes l =>
      obtain rfl : l = c.lineage := by simpa [artifactsOf] using ha
      exact .inl hp
    | builder b => exact .inr (.inl ⟨b, by simpa [artifactsOf] using ha, hp⟩)
    | enum d => exact .inr (.inr (.inl ⟨d, by simpa [artifactsOf] using ha, hp⟩))
    | input d => exact .inr (.inr (.inr (.inl ⟨d, by simpa [artifactsOf] using ha, hp⟩)))
    | index i => exact .inr (.inr (.inr (.inr ⟨i, ha, hp⟩)))
  · rintro (hp | ⟨b, hb, hp⟩ | ⟨d, hd, hp⟩ | ⟨d, hd, hp⟩ | ⟨i, hi, hp⟩)
    · exact ⟨_, by simp [artifactsOf], hp⟩
    · exact ⟨_, by simp [artifactsOf, hb], hp⟩
    · exact ⟨_, by simp [artifactsOf, hd], hp⟩
    · exact ⟨_, by simp [artifactsOf, hd], hp⟩
    · exact ⟨_, hi, hp⟩

/-- The indexes. Those of the enums and of the input objects are left out if there are none. -/
theorem index_mem_artifactsOf_iff {c : Catalog} {builders : List Builder} {i : Index} :
    .index i ∈ c.artifactsOf builders ↔
      i = ⟨.fetchers, builders.map c.builderExports⟩ ∨
      (c.schema.enums ≠ [] ∧ i = ⟨.enums, c.schema.enums.map (definitionExports ·.name)⟩) ∨
      (c.schema.inputs ≠ [] ∧ i = ⟨.inputs, c.schema.inputs.map (definitionExports ·.name)⟩) ∨
      i = ⟨.root, commonExports :: (["fetchers"] ++ (if c.schema.enums.isEmpty then [] else ["enums"]) ++
        if c.schema.inputs.isEmpty then [] else ["inputs"]).map folderExports⟩ := by
  unfold artifactsOf
  cases c.schema.enums <;> cases c.schema.inputs <;> simp

namespace Run

variable {c : Catalog} {s : Schema} {settings : Settings} {artifacts : List Artifact} {a : Artifact}
  {m : ModuleExports} {i : Index} {n name : String} {folder : Folder}

/-! ## Names of files -/

theorem isComponent_of_get? (h : c.Run s settings artifacts) {d : TypeDef}
    (hget : s.get? name = some d) : Path.IsComponent name := by
  obtain ⟨hd, rfl⟩ := Schema.get?_eq_some_iff.1 hget
  exact h.names d hd

theorem isComponent_stem (h : c.Run s settings artifacts) (ha : a ∈ artifacts) :
    Path.IsComponent a.location.stem := by
  cases a with
  | commonTypes l =>
    change '/' ∉ "CommonTypes".toList
    decide
  | index i =>
    change '/' ∉ "index".toList
    decide
  | enum d => exact h.isComponent_of_get? ((enum_mem_iff h.catalog h.artifacts).1 ha)
  | input d => exact h.isComponent_of_get? ((input_mem_iff h.catalog h.artifacts).1 ha)
  | builder b =>
    obtain ⟨hcatalog, hcomposite, _⟩ := typeName_mem_of_mem_artifacts h.catalog h.artifacts ha
    obtain ⟨d, hget, _⟩ := Schema.mem_compositeNames_iff.1 hcomposite
    have hsuffix : Path.IsComponent b.catalog.settings.fetcherSuffix := by
      rw [hcatalog, settings_eq h.catalog]
      exact h.suffix
    exact (h.isComponent_of_get? hget).append hsuffix

/-- No file stands in the way of the index of a folder. -/
theorem not_mem_paths (h : c.Run s settings artifacts) (hname : folder.name? = some name) :
    name ++ ".ts" ∉ artifacts.map (·.path) := by
  rw [List.mem_map]
  rintro ⟨a, ha, hpath⟩
  -- A path without a slash leads to the output directory, where only the common types and an index
  -- are.
  have hcomponent : Path.IsComponent a.path := by
    rw [hpath]
    unfold Path.IsComponent
    cases folder <;> cases hname <;> decide
  have hroot : a.location.folder = .root := by
    by_contra hfolder
    exact Location.not_isComponent_path hfolder (h.isComponent_stem ha) hcomponent
  have hstem : a.location.stem = name := by
    rw [Artifact.path, Location.path_eq (h.isComponent_stem ha), hroot] at hpath
    simpa [Folder.lead, Folder.name?, ← String.toList_inj] using hpath
  subst hstem
  cases a with
  | builder b => cases hroot
  | enum d => cases hroot
  | input d => cases hroot
  | commonTypes l =>
    have hstem : folder.name? = some "CommonTypes" := hname
    cases folder <;> revert hstem <;> decide
  | index i =>
    have hstem : folder.name? = some "index" := hname
    cases folder <;> revert hstem <;> decide

/-! ## Listings -/

/-- The listings of an index are those of the files that it is the index for. -/
theorem mem_exports_iff (h : c.Run s settings artifacts) (hi : .index i ∈ artifacts) :
    m ∈ i.exports ↔ ∃ a ∈ artifacts, a.home = i.folder ∧ a.listing? c = some m := by
  obtain ⟨builders, _, rfl⟩ := map_eq_ok_iff.1 h.artifacts
  rw [exists_mem_artifactsOf_iff]
  simp only [index_mem_artifactsOf_iff, or_and_right, exists_or, and_assoc]
  rcases index_mem_artifactsOf_iff.1 hi with rfl | ⟨hne, rfl⟩ | ⟨hne, rfl⟩ | rfl
  · simp [Artifact.home, Artifact.listing?]
  · simp [Artifact.home, Artifact.listing?]
  · simp [Artifact.home, Artifact.listing?]
  · simp [Artifact.home, Artifact.listing?, Folder.name?, eq_comm (a := m)]

/-- Every file has its index. -/
theorem exists_index (h : c.Run s settings artifacts) (ha : a ∈ artifacts) :
    ∃ i, .index i ∈ artifacts ∧ i.folder = a.home := by
  obtain ⟨builders, _, rfl⟩ := map_eq_ok_iff.1 h.artifacts
  cases a with
  | commonTypes _ | index _ =>
    exact ⟨_, index_mem_artifactsOf_iff.2 (.inr (.inr (.inr rfl))), rfl⟩
  | builder b => exact ⟨_, index_mem_artifactsOf_iff.2 (.inl rfl), rfl⟩
  | enum d =>
    have hne : c.schema.enums ≠ [] := by
      rw [schema_eq h.catalog]
      exact List.ne_nil_of_mem (Schema.mem_enums_iff.2 ((enum_mem_iff h.catalog h.artifacts).1 ha))
    exact ⟨_, index_mem_artifactsOf_iff.2 (.inr (.inl ⟨hne, rfl⟩)), rfl⟩
  | input d =>
    have hne : c.schema.inputs ≠ [] := by
      rw [schema_eq h.catalog]
      exact List.ne_nil_of_mem (Schema.mem_inputs_iff.2 ((input_mem_iff h.catalog h.artifacts).1 ha))
    exact ⟨_, index_mem_artifactsOf_iff.2 (.inr (.inr (.inl ⟨hne, rfl⟩))), rfl⟩

/-- The listing of a file leads to it. -/
theorem leads_of_listing (h : c.Run s settings artifacts) (hi : .index i ∈ artifacts)
    (ha : a ∈ artifacts) (hhome : i.folder = a.home) (hm : a.listing? c = some m) :
    Artifact.Leads artifacts (Artifact.index i).path ("./" ++ m.module) a := by
  refine ⟨ha, ?_⟩
  have hindex := h.isComponent_stem hi
  have hmem : a.path ∈ artifacts.map (·.path) := List.mem_map_of_mem ha
  have hhere (hfolder : a.location.folder = a.home) (hmodule : m.module = a.location.stem) :
      Path.moduleFile? (artifacts.map (·.path)) (Artifact.index i).path ("./" ++ m.module) =
        some a.path := by
    rw [hmodule]
    exact Location.moduleFile?_here hindex (h.isComponent_stem ha) (hfolder.trans hhome.symm) hmem
  cases a with
  | commonTypes l => cases hm; exact hhere rfl rfl
  | builder b =>
    cases hm
    obtain ⟨hcatalog, _, _⟩ := typeName_mem_of_mem_artifacts h.catalog h.artifacts ha
    exact hhere rfl (by subst hcatalog; rfl)
  | enum d => cases hm; exact hhere rfl rfl
  | input d => cases hm; exact hhere rfl rfl
  | index target =>
    obtain ⟨name, hname, rfl⟩ := Option.map_eq_some_iff.1 hm
    have hfolder := Location.moduleFile?_folder hindex hname (h.not_mem_paths hname) hmem
    have hroot : (Artifact.index i).location.folder = .root := hhome
    rw [Location.toFolder, if_pos hroot] at hfolder
    exact hfolder

/-- The index that lists a file, and leads to it. -/
theorem exists_index_listing (h : c.Run s settings artifacts) (ha : a ∈ artifacts)
    (hm : a.listing? c = some m) : ∃ i, .index i ∈ artifacts ∧ i.folder = a.home ∧ m ∈ i.exports ∧
      Artifact.Leads artifacts (Artifact.index i).path ("./" ++ m.module) a := by
  obtain ⟨i, hi, hhome⟩ := h.exists_index ha
  refine ⟨i, hi, hhome, (h.mem_exports_iff hi).2 ⟨a, ha, hhome.symm, hm⟩, ?_⟩
  exact h.leads_of_listing hi ha hhome hm

/-! ## Imported types -/

/-- The file that defines an enum or an input object. -/
theorem exists_definition (h : c.Run s settings artifacts) {p : Page} (hp : p.schema = s)
    (hfolder : p.folderOf? n = some folder) :
    ∃ a ∈ artifacts, a.location.folder = folder ∧ a.home = folder ∧ a.location.stem = n ∧
      a.listing? c = some (definitionExports n) := by
  unfold Page.folderOf? at hfolder
  rw [hp] at hfolder
  split at hfolder
  · next d hget =>
    cases hfolder
    obtain ⟨_, rfl⟩ := Schema.get?_eq_some_iff.1 hget
    exact ⟨.enum d, (enum_mem_iff h.catalog h.artifacts).2 hget, rfl, rfl, rfl, rfl⟩
  · next d hget =>
    cases hfolder
    obtain ⟨_, rfl⟩ := Schema.get?_eq_some_iff.1 hget
    exact ⟨.input d, (input_mem_iff h.catalog h.artifacts).2 hget, rfl, rfl, rfl, rfl⟩
  · cases hfolder

/-- A type is imported from the file that defines it, or else from the index of its folder. -/
theorem exists_imported (h : c.Run s settings artifacts) (ha : a ∈ artifacts) {module : String}
    (hmodule : (a.page s settings).2.modulePath? n = some module) :
    ∃ target, Artifact.Leads artifacts a.path module target ∧ ⟨false, n⟩ ∈ target.exports := by
  have hschema : (a.page s settings).2.schema = s := congrArg Sheet.schema Artifact.sheet_page
  have hlocation : (a.page s settings).2.location = a.location :=
    congrArg Sheet.location Artifact.sheet_page
  unfold Page.modulePath? at hmodule
  rw [hlocation] at hmodule
  split at hmodule
  · cases hmodule
  · next folder hfolder =>
    -- Next to the file, the type is imported from where it is defined; from elsewhere, from the
    -- index that passes it on.
    obtain ⟨d, hd, hlies, hhome, hstem, hlisting⟩ := h.exists_definition hschema hfolder
    have hmem : (⟨false, n⟩ : Export) ∈ (definitionExports n).exports := List.mem_cons_self
    split at hmodule
    · next hsame =>
      cases hmodule
      have hhere : d.location.folder = a.location.folder := hlies.trans hsame.symm
      have hpath : d.path ∈ artifacts.map (·.path) := List.mem_map_of_mem hd
      refine ⟨d, ⟨hd, ?_⟩, Artifact.mem_exports_of_listing hlisting hmem⟩
      rw [← hstem]
      exact Location.moduleFile?_here (h.isComponent_stem ha) (h.isComponent_stem hd) hhere hpath
    · obtain ⟨name, hname, rfl⟩ := Option.map_eq_some_iff.1 hmodule
      obtain ⟨i, hi, hindex, hexports, _⟩ := h.exists_index_listing hd hlisting
      have hpath : (Artifact.index i).path ∈ artifacts.map (·.path) := List.mem_map_of_mem hi
      refine ⟨.index i, ⟨hi, ?_⟩, ?_⟩
      · rw [← hindex.trans hhome] at hname
        exact Location.moduleFile?_folder (h.isComponent_stem ha) hname (h.not_mem_paths hname) hpath
      · rw [Artifact.exports_index]
        exact List.mem_flatMap.2 ⟨_, hexports, hmem⟩

/-! ## Links of builders -/

/-- Every super type of a builder's type has a builder. -/
theorem exists_superBuilder (h : c.Run s settings artifacts) (himplements : s.ImplementsInterfaces)
    {b : Builder} (hb : .builder b ∈ artifacts) {t : SelectableType} (ht : t ∈ b.type.superTypes) :
    ∃ u, .builder u ∈ artifacts ∧ u.typeName = t.name ∧ u.catalog = c := by
  obtain ⟨_, _, hbuilder⟩ := typeName_mem_of_mem_artifacts h.catalog h.artifacts hb
  obtain ⟨_, hmodel⟩ := typeOf_of_type? h.catalog (builds_of_builder hbuilder).type
  have hmodelled := (Outline.typeOf_eq_ok hmodel).2
  have hcomposite : t.name ∈ s.compositeNames := by
    rw [Schema.mem_compositeNames_iff]
    have hcases := hmodelled.superType_cases (lineage_eq h.catalog) ht
    rw [schema_eq h.catalog] at hcases
    rcases hcases with hlisted | ⟨u, hget, _⟩
    · obtain ⟨d, hget, hkind⟩ := (Option.any_eq_true _ _).1 (himplements.of_mem_ownInterfaces hlisted)
      refine ⟨d, hget, ?_⟩
      cases d <;> first | rfl | simp [TypeDef.kind] at hkind
    · exact ⟨_, hget, rfl⟩
  obtain ⟨u, hu⟩ := exists_builder h.catalog h.artifacts hcomposite
  obtain ⟨hname, _⟩ := typeOf_of_type? h.catalog (builds_of_builder hu).type
  exact ⟨u, mem_artifacts_of_builder h.catalog h.artifacts hcomposite hu, hname,
    (builds_of_builder hu).catalog⟩

theorem commonTypes_mem (h : c.Run s settings artifacts) : .commonTypes c.lineage ∈ artifacts := by
  obtain ⟨builders, _, rfl⟩ := map_eq_ok_iff.1 h.artifacts
  simp [artifactsOf]

/-- A builder finds the common types one folder further up. -/
theorem leads_commonTypes (h : c.Run s settings artifacts) {b : Builder} (hb : .builder b ∈ artifacts) :
    Artifact.Leads artifacts (Artifact.builder b).path "../CommonTypes" (.commonTypes c.lineage) := by
  have hcommon := h.commonTypes_mem
  have hstem : Path.IsComponent CommonTypes.location.stem := h.isComponent_stem hcommon
  have hpath : (Artifact.commonTypes c.lineage).path ∈ artifacts.map (·.path) :=
    List.mem_map_of_mem hcommon
  have hbelow : (Artifact.builder b).location.folder ≠ .root := by rintro ⟨⟩
  have habove := Location.moduleFile?_above (h.isComponent_stem hb) hbelow hstem rfl hpath
  have hmodule : "../CommonTypes" = "../" ++ CommonTypes.location.stem := by decide
  refine ⟨hcommon, ?_⟩
  rw [hmodule]
  exact habove

/-- The empty builder of a super type is exported by the builder of that, which is in the same folder. -/
theorem exists_requested_superType (h : c.Run s settings artifacts)
    (himplements : s.ImplementsInterfaces) {b : Builder} (hb : .builder b ∈ artifacts)
    {t : SelectableType} (ht : t ∈ b.type.superTypes) : ∃ target,
      Artifact.Leads artifacts (Artifact.builder b).path ("./" ++ b.catalog.builderName t.name) target ∧
        ⟨true, b.catalog.instanceName t.name⟩ ∈ target.exports := by
  obtain ⟨hcatalog, _, _⟩ := typeName_mem_of_mem_artifacts h.catalog h.artifacts hb
  obtain ⟨u, hu, hname, hsame⟩ := h.exists_superBuilder himplements hb ht
  have hfile : (Artifact.builder u).location.stem = b.catalog.builderName t.name := by
    rw [hcatalog, ← hname, ← hsame]
    rfl
  refine ⟨_, ⟨hu, ?_⟩, ?_⟩
  · rw [← hfile]
    exact Location.moduleFile?_here (h.isComponent_stem hb) (h.isComponent_stem hu) rfl
      (List.mem_map_of_mem hu)
  · rw [hcatalog, ← hname]
    subst hsame
    exact Artifact.mem_exports_of_listing (c := u.catalog) rfl
      (List.mem_append_right _ List.mem_cons_self)

/-- What a builder imports by statements is exported by the common types and by other builders. -/
theorem exists_requested (h : c.Run s settings artifacts) (himplements : s.ImplementsInterfaces)
    {b : Builder} (hb : .builder b ∈ artifacts) {l : Link} (hl : l ∈ b.importLinks)
    (hrelative : Path.isRelative l.module = true) :
    ∃ target, Artifact.Leads artifacts (Artifact.builder b).path l.module target ∧
      ∀ e ∈ l.exports, e ∈ target.exports := by
  rw [Builder.importLinks] at hl
  rcases List.mem_append.1 hl with hl | hl
  · rcases List.mem_cons.1 hl with rfl | hl
    · -- The runtime is not among the files.
      simp [Path.isRelative, String.startsWith_string_iff] at hrelative
    · split at hl
      · obtain rfl := List.mem_singleton.1 hl
        refine ⟨_, h.leads_commonTypes hb, fun e he => ?_⟩
        exact Artifact.mem_exports_of_listing (c := c) rfl (List.mem_append_left _ he)
      · cases hl
  · obtain ⟨t, ht, rfl⟩ := List.mem_map.1 hl
    obtain ⟨target, hleads, hexports⟩ := h.exists_requested_superType himplements hb ht
    refine ⟨target, hleads, fun e he => ?_⟩
    obtain rfl := List.mem_singleton.1 he
    exact hexports

theorem closed_importLinks (h : c.Run s settings artifacts) (himplements : s.ImplementsInterfaces)
    (ha : a ∈ artifacts) {l : Link} (hl : l ∈ a.importLinks s settings)
    (hrelative : Path.isRelative l.module = true) :
    (∃ target, Artifact.Leads artifacts a.path l.module target) ∧
      ∀ e ∈ l.exports, ∃ target, Artifact.Leads artifacts a.path l.module target ∧
        e ∈ target.exports := by
  rw [Artifact.importLinks] at hl
  rcases List.mem_append.1 hl with hl | hl
  · cases a with
    | builder b =>
      obtain ⟨target, hleads, hexports⟩ := h.exists_requested himplements ha hl hrelative
      exact ⟨⟨target, hleads⟩, fun e he => ⟨target, hleads, hexports e he⟩⟩
    | commonTypes _ | enum _ | input _ | index _ => cases hl
  · obtain ⟨⟨module, names⟩, hgroup, rfl⟩ := List.mem_map.1 hl
    have himported {n : String} (hn : n ∈ names) :
        ∃ target, Artifact.Leads artifacts a.path module target ∧ ⟨false, n⟩ ∈ target.exports := by
      have hgrouped := Page.mem_grouped.2 ⟨names, hgroup, hn⟩
      exact h.exists_imported ha (Page.mem_grouped_importGroups.1 hgrouped).2
    constructor
    · obtain ⟨n, hn⟩ := List.exists_mem_of_ne_nil names (Page.ne_nil_importGroups _ hgroup)
      obtain ⟨target, hleads, _⟩ := himported hn
      exact ⟨target, hleads⟩
    · intro e he
      obtain ⟨n, hn, rfl⟩ := List.mem_map.1 he
      exact himported hn

theorem closed_exportLinks (h : c.Run s settings artifacts) (hi : .index i ∈ artifacts) {l : Link}
    (hl : l ∈ (Artifact.index i).exportLinks) :
    ∃ target, Artifact.Leads artifacts (Artifact.index i).path l.module target ∧
      ∀ e ∈ l.exports, e ∈ target.exports := by
  obtain ⟨m, hm, hl⟩ := List.mem_flatMap.1 hl
  obtain ⟨target, htarget, hhome, hlisting⟩ := (h.mem_exports_iff hi).1 hm
  rw [ModuleExports.module_of_mem_links hl]
  refine ⟨target, h.leads_of_listing hi htarget hhome.symm hlisting, fun e he => ?_⟩
  apply Artifact.mem_exports_of_listing hlisting
  rw [← ModuleExports.flatMap_links]
  exact List.mem_flatMap.2 ⟨l, hl, he⟩

/-- What a file exports, the index next to it exports again. -/
theorem exists_exporting (h : c.Run s settings artifacts) (ha : a ∈ artifacts)
    (hnot : ∀ i, a ≠ .index i) {e : Export} (he : e ∈ a.exports) : ∃ i, .index i ∈ artifacts ∧
      (Artifact.index i).path = Path.join (Path.parent a.path) "index.ts" ∧
      ∃ l ∈ (Artifact.index i).exportLinks, e ∈ l.exports ∧
        Artifact.Leads artifacts (Artifact.index i).path l.module a := by
  obtain ⟨m, hm⟩ := Artifact.exists_listing (c := c) hnot
  obtain ⟨i, hi, hhome, hexports, hleads⟩ := h.exists_index_listing ha hm
  have hfolder : a.location.folder = i.folder := by
    rw [hhome]
    cases a with
    | index i => exact absurd rfl (hnot i)
    | _ => rfl
  have hpromised : e ∈ m.exports := (Artifact.mem_exports_iff hm hnot).1 he
  rw [← ModuleExports.flatMap_links] at hpromised
  obtain ⟨l, hl, hel⟩ := List.mem_flatMap.1 hpromised
  refine ⟨i, hi, ?_, l, List.mem_flatMap.2 ⟨m, hexports, hl⟩, hel, ?_⟩
  · rw [Artifact.path, Artifact.path, Location.parent_path (h.isComponent_stem ha), hfolder]
    rfl
  · rw [ModuleExports.module_of_mem_links hl]
    exact hleads

/-- The index of a folder, the index of the output directory exports again. -/
theorem exists_exporting_index (h : c.Run s settings artifacts) (hi : .index i ∈ artifacts)
    (hfolder : i.folder ≠ .root) : ∃ root, .index root ∈ artifacts ∧
      (Artifact.index root).path = "index.ts" ∧
      ∃ l ∈ (Artifact.index root).exportLinks, l.names = none ∧
        Artifact.Leads artifacts (Artifact.index root).path l.module (.index i) := by
  obtain ⟨name, hname⟩ : ∃ name, i.folder.name? = some name := by
    cases hcase : i.folder with
    | root => exact absurd hcase hfolder
    | _ => exact ⟨_, rfl⟩
  have hlisting : (Artifact.index i).listing? c = some (folderExports name) := by
    rw [Artifact.listing?, hname]
    rfl
  obtain ⟨root, hroot, hhome, hexports, hleads⟩ := h.exists_index_listing hi hlisting
  refine ⟨root, hroot, ?_, ⟨false, none, "./" ++ name⟩, ?_, rfl, hleads⟩
  · rw [Artifact.path, Artifact.location, Index.location, hhome]
    change (Location.mk .root "index" none).path = "index.ts"
    cbv
  · exact List.mem_flatMap.2 ⟨_, hexports, List.mem_cons_self⟩

end Run

/-! ## Closure -/

variable {c : Catalog} {s : Schema} {settings : Settings} {artifacts : List Artifact}

/-- In a run that succeeds, the files are closed under imports. -/
theorem closed_under_imports {source : String} (hs : Schema.parse source = .ok s)
    (himplements : s.ImplementsInterfaces) (hsuffix : '/' ∉ settings.fetcherSuffix.toList)
    (hc : ofSchema s settings = .ok c) (hartifacts : c.artifacts = .ok artifacts)
    (hrender : ∀ a ∈ artifacts, ∃ text, c.render a = .ok text) :
    -- The script of a file is what writes it, and its statements are its links and its declarations.
    (∀ a ∈ artifacts, let page := (a.page s settings).2
      a.page s settings = Op.runAll (a.importScript ++ .closeImports :: a.script settings)
        (Sheet.fresh ⟨s, settings, a.location⟩) ∧
      c.render a = .ok (Page.leadingText page.importLines ++ page.body) ∧
      (∀ line, line ∈ page.importLines ↔ ∃ l ∈ a.importLinks s settings, line = l.line "import") ∧
      Op.statementTexts (a.script settings) =
        a.declarations.map (·.text) ++ a.exportLinks.map fun l => l.line "export" ++ "\n") ∧
    -- A link to another file leads to one that exports what is asked for.
    (∀ a ∈ artifacts, ∀ l ∈ a.importLinks s settings ++ a.exportLinks, Path.isRelative l.module →
      (∃ target, Artifact.Leads artifacts a.path l.module target) ∧
      ∀ e ∈ l.exports, ∃ target, Artifact.Leads artifacts a.path l.module target ∧
        e ∈ target.exports) ∧
    -- The index next to a file passes on what the file exports.
    (∀ a ∈ artifacts, (∀ i, a ≠ .index i) → ∀ e ∈ a.exports, ∃ i, .index i ∈ artifacts ∧
      (Artifact.index i).path = Path.join (Path.parent a.path) "index.ts" ∧
      ∃ l ∈ (Artifact.index i).exportLinks, e ∈ l.exports ∧
        Artifact.Leads artifacts (Artifact.index i).path l.module a) ∧
    -- The index of the output directory passes on the other indexes.
    ∀ i, .index i ∈ artifacts → i.folder ≠ .root → ∃ root, .index root ∈ artifacts ∧
      (Artifact.index root).path = "index.ts" ∧
      ∃ l ∈ (Artifact.index root).exportLinks, l.names = none ∧
        Artifact.Leads artifacts (Artifact.index root).path l.module (.index i) := by
  have h : c.Run s settings artifacts :=
    ⟨hc, hartifacts, fun d hd => (Schema.isName_of_parse hs d hd).isComponent, hsuffix⟩
  refine ⟨fun a ha => ?_, fun a ha l hl hrelative => ?_, fun a ha hnot e he => ?_, fun i hi hfolder => ?_⟩
  · obtain ⟨text, htext⟩ := hrender a ha
    refine ⟨Artifact.page_eq, ?_, fun line => Artifact.mem_importLines_iff,
      Artifact.statementTexts_script⟩
    rw [render, schema_eq hc, settings_eq hc] at htext ⊢
    rw [← Page.header_eq, ← Artifact.text_of_render htext, htext]
  · rcases List.mem_append.1 hl with hl | hl
    · exact h.closed_importLinks himplements ha hl hrelative
    · cases a with
      | index i =>
        obtain ⟨target, hleads, hexports⟩ := h.closed_exportLinks ha hl
        exact ⟨⟨target, hleads⟩, fun e he => ⟨target, hleads, hexports e he⟩⟩
      | commonTypes _ | builder _ | enum _ | input _ => cases hl
  · exact h.exists_exporting ha hnot he
  · exact h.exists_exporting_index hi hfolder

/-- A schema text with a super type, an enum and input objects. -/
def studioText : String :=
  "enum Color \x7b RED \x7d input Brush \x7b color: Color spare: Brush \x7d " ++
  "interface Node \x7b id: ID! \x7d type Canvas implements Node \x7b id: ID! paint(with: Brush): Color! \x7d"

set_option maxRecDepth 8000 in
theorem closed_under_imports_of_studio : ∃ s c artifacts, Schema.parse studioText = .ok s ∧
    s.ImplementsInterfaces ∧ ofSchema s {} = .ok c ∧ c.artifacts = .ok artifacts ∧
    (∀ a ∈ artifacts, ∃ text, c.render a = .ok text) ∧
    ∀ a ∈ artifacts, ∀ l ∈ a.importLinks s {} ++ a.exportLinks, Path.isRelative l.module →
      ∃ target, Artifact.Leads artifacts a.path l.module target := by
  have hok : (Schema.parse studioText >>= fun s =>
      if s.ImplementsInterfaces then
        ofSchema s {} >>= fun c => c.artifacts >>= fun artifacts => artifacts.mapM fun a =>
          a.types.forM fun type => Sheet.check ⟨s, {}, a.location⟩ type.base
      else .error .importsClosed).isOk = true := by
    cbv
  obtain ⟨_, hchecks⟩ := exists_of_isOk hok
  obtain ⟨s, hs, hchecks⟩ := bind_eq_ok_iff.1 hchecks
  split at hchecks
  · next himplements =>
    obtain ⟨c, artifacts, hc, hartifacts, hrender⟩ : Succeeds s {} :=
      succeeds_of_checks (by rw [hchecks]; rfl)
    have hsuffix : '/' ∉ ({} : Settings).fetcherSuffix.toList := by decide
    have hclosed := closed_under_imports hs himplements hsuffix hc hartifacts hrender
    exact ⟨s, c, artifacts, hs, himplements, hc, hartifacts, hrender, fun a ha l hl hrelative =>
      (hclosed.2.1 a ha l hl hrelative).1⟩
  · cases hchecks

end Catalog

end TypedQuery
