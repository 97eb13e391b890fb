-- SUMMARY: Generated files leave no region open, and their brackets are balanced.
import TypedQuery.Proofs.Artifact.Closed
import TypedQuery.Proofs.Artifact.Neutral

/-!
# Balanced files

A file can be generated from a schema whose words are names, with a suffix that has no bracket and
targets for the scalars that are balanced. Then all regions are left behind its body, none was left
that was not open, and the brackets of the whole text, imports included, are balanced
(`Catalog.balanced_of_render`).
-/
namespace TypedQuery

/-! ## Imports -/

/-- Asking for imports writes nothing. -/
theorem Op.Neutral.imports {ops : List Op} (h : ops.all Op.isImport = true) : Neutral ops := by
  induction ops with
  | nil => exact .nil
  | cons op rest ih =>
    obtain ⟨hop, hrest⟩ := Bool.and_eq_true_iff.1 h
    intro n
    have hsame : op.nest n = some n := by
      cases op <;> first | rfl | cases hop
    rw [nestAll, hsame]
    exact ih hrest n

namespace Page

variable {p : Page} {group : String × List String}

theorem balanced_header (h : ∀ line ∈ p.importLines, Balanced line) : Balanced p.header := by
  rw [header_eq, leadingText]
  split
  · rfl
  · refine Balanced.append (.join fun s hs => ?_) (by decide)
    obtain ⟨line, hline, rfl⟩ := List.mem_map.1 hs
    exact (h line hline).append (by decide)

/-- The types that are imported are definitions, and so is the name in the path of a module. -/
theorem tidy_ofGroup (hnames : ∀ n, p.schema.isDefinition n = true → Plain n)
    (hgroup : group ∈ p.importGroups) : (Link.ofGroup group).Tidy := by
  have hmodule {n : String} (hn : n ∈ group.2) : p.modulePath? n = some group.1 :=
    (mem_grouped_importGroups.1 (mem_grouped.2 ⟨group.2, hgroup, hn⟩)).2
  have hplain {n : String} (hn : n ∈ group.2) : Plain n :=
    hnames n (by rw [← isSome_modulePath?, hmodule hn, Option.isSome_some])
  constructor
  case names =>
    rintro _ ⟨⟩ n hn
    exact hplain hn
  case module =>
    obtain ⟨n, hn⟩ := List.exists_mem_of_ne_nil _ (ne_nil_importGroups group hgroup)
    have hpath := hmodule hn
    change Plain group.1
    unfold modulePath? at hpath
    split at hpath
    · cases hpath
    · next folder _ =>
      split at hpath
      · rw [← Option.some.inj hpath]
        exact Plain.append (by decide) (hplain hn)
      · obtain ⟨directory, hdirectory, heq⟩ := Option.map_eq_some_iff.1 hpath
        rw [← heq]
        refine Plain.append (by split <;> decide) ?_
        cases folder <;> cases hdirectory <;> decide

end Page

/-! ## Links -/

/-- Exports from a module whose names have no brackets. -/
structure ModuleExports.Tidy (e : ModuleExports) : Prop where
  module : Plain e.module
  types : ∀ n ∈ e.types, Plain n
  values : ∀ n ∈ e.values, Plain n

theorem ModuleExports.Tidy.links {e : ModuleExports} (h : e.Tidy) : ∀ l ∈ e.links, l.Tidy := by
  have hmodule : Plain ("./" ++ e.module) := Plain.append (by decide) h.module
  have hall {names : List String} (hnames : ∀ n ∈ names, Plain n) {l : Link} {types : Bool}
      (hl : l ∈ if names.isEmpty then [] else [⟨types, some names, "./" ++ e.module⟩]) :
      l.Tidy := by
    split at hl
    · cases hl
    · cases List.mem_singleton.1 hl
      exact ⟨fun _ heq => Option.some.inj heq ▸ hnames, hmodule⟩
  have heverything {l : Link}
      (hl : l ∈ if e.everything then [⟨false, none, "./" ++ e.module⟩] else []) : l.Tidy := by
    split at hl
    · cases List.mem_singleton.1 hl
      exact ⟨nofun, hmodule⟩
    · cases hl
  intro l hl
  rw [ModuleExports.links, List.mem_append, List.mem_append] at hl
  exact hl.elim (fun hl => hl.elim heverything (hall h.types)) (hall h.values)

namespace Builder

variable {b : Builder}

theorem Tidy.importLinks (h : b.Tidy) : ∀ l ∈ b.importLinks, l.Tidy := by
  have hruntime : Link.Tidy ⟨false, some ["ObjectFetcher", "createFetcher", "createFetchableType"],
      "graphql-ts-client-api"⟩ :=
    ⟨fun _ heq => Option.some.inj heq ▸ by decide, by decide⟩
  have hcommon : Link.Tidy ⟨true, some ["WithTypeName", "ImplementationType"], "../CommonTypes"⟩ :=
    ⟨fun _ heq => Option.some.inj heq ▸ by decide, by decide⟩
  have hsuper {t : SelectableType} (ht : t ∈ b.type.superTypes) : Link.Tidy
      ⟨false, some [b.catalog.instanceName t.name], "./" ++ b.catalog.builderName t.name⟩ := by
    obtain ⟨hinstance, hname⟩ := h.superTypes t ht
    exact ⟨fun _ heq => Option.some.inj heq ▸ List.forall_mem_singleton.2 hinstance,
      Plain.append (by decide) hname⟩
  rw [Builder.importLinks]
  refine List.forall_mem_append.2 ⟨List.forall_mem_cons.2 ⟨hruntime, ?_⟩, ?_⟩
  · split
    · exact List.forall_mem_singleton.2 hcommon
    · exact List.forall_mem_nil _
  · exact List.forall_mem_map.2 fun t ht => hsuper ht

theorem Tidy.exports (h : b.Tidy) : (b.catalog.builderExports b).Tidy where
  module := h.name
  types := by
    have harguments : Plain b.argumentsName := h.typeName.append (by decide)
    refine List.forall_mem_cons.2 ⟨h.name, ?_⟩
    split
    · exact List.forall_mem_nil _
    · exact List.forall_mem_singleton.2 harguments
  values := by
    refine List.forall_mem_cons.2 ⟨h.instanceName, ?_⟩
    split
    · exact List.forall_mem_nil _
    · exact List.forall_mem_singleton.2 (h.instanceName.append (by decide))

end Builder

/-! ## Words of the schema -/

/-- What goes into files from the schema and the settings has no brackets, or balanced ones. -/
structure Catalog.Tidy (c : Catalog) : Prop where
  words : ∀ w ∈ c.schema.words, Sdl.IsName w
  indent : Plain c.settings.indent
  suffix : Plain c.settings.fetcherSuffix
  scalars : ∀ e ∈ c.settings.scalarTypes.entries, Balanced e.2

/-- The indentation of settings that are valid is blank. -/
theorem Settings.plain_indent {settings : Settings} (h : settings.validate = .ok ()) :
    Plain settings.indent := by
  unfold validate at h
  split at h
  · cases h
  · split at h
    · cases h
    · next hblank =>
      exact plain_of_all (by simpa [Text.allBlank] using hblank) (by decide)

theorem SelectableField.Over.tidy {f : SelectableField} {P : String → Prop} (h : f.Over P)
    (hplain : ∀ w, P w → Plain w) : f.Tidy where
  name := hplain _ h.name
  arguments a ha := by
    obtain ⟨hname, type, htype, hspelling⟩ := h.arguments a ha
    exact ⟨hplain _ hname, hspelling ▸ balanced_spelling (hplain _ htype)⟩
  connection n hn := hplain n (h.connection n hn)
  edge n hn := hplain n (h.edge n hn)
  target n hn := hplain n (h.target n hn)

namespace Catalog

variable {c : Catalog} {s : Schema} {settings : Settings} {name : String} {b : Builder}
  {a : Artifact} {artifacts : List Artifact} {text : String}

theorem tidy_of_ofSchema (hc : ofSchema s settings = .ok c) (hnames : s.Named)
    (hsuffix : Plain settings.fetcherSuffix)
    (hscalars : ∀ e ∈ settings.scalarTypes.entries, Balanced e.2) : c.Tidy where
  words := by
    rw [schema_eq hc]
    exact hnames
  indent := by
    obtain ⟨_, hvalid, _⟩ := bind_eq_ok_iff.1 hc
    rw [settings_eq hc]
    exact Settings.plain_indent hvalid
  suffix := by
    rw [settings_eq hc]
    exact hsuffix
  scalars := by
    rw [settings_eq hc]
    exact hscalars

namespace Tidy

theorem plain (h : c.Tidy) {w : String} (hw : w ∈ c.schema.words) : Plain w := (h.words w hw).plain

theorem sheet (h : c.Tidy) (l : Location) : Sheet.Tidy ⟨c.schema, c.settings, l⟩ where
  indent := h.indent
  names _ _ hget := h.plain (Schema.name_mem_words hget)
  members _ _ hget _ hm := h.plain (Schema.words_subset hget (List.mem_cons_of_mem _ hm))
  targets scalar target htarget := by
    have husual : ∀ e ∈ Writing.usualScalarTypes, Balanced e.2 := by decide
    rcases (Option.orElse_eq_some _ _ _).1 htarget with hset | ⟨_, hlookup⟩
    · exact h.scalars _ (NameMap.get?_eq_some_iff.1 hset)
    · obtain ⟨before, behind, hmem, _⟩ := List.lookup_eq_some_iff.1 hlookup
      exact husual (scalar, target) (hmem ▸ List.mem_append_right before List.mem_cons_self)

/-- Whatever a builder writes comes from the words of the schema, but for the suffix. -/
theorem builder (h : c.Tidy) (hc : ofSchema s settings = .ok c) (hb : c.Builds name b) :
    b.Tidy := by
  obtain rfl := hb.catalog
  obtain ⟨rfl, hmodel⟩ := typeOf_of_type? hc hb.type
  have hmodelled := (Outline.typeOf_eq_ok hmodel).2
  -- Fields are modelled with the connections of the outline, which are those of the schema.
  have hconnections : b.catalog.connections = b.catalog.schema.connections := by
    rw [(ofSchema_eq_ok hc).1]
    rfl
  have hword {t : SelectableType} (ht : b.catalog.Modelled t) : t.name ∈ b.catalog.schema.words := by
    obtain ⟨d, hget⟩ := Option.isSome_iff_exists.1 ht.known
    exact Schema.name_mem_words hget
  have hbuilder {n : String} (hn : n ∈ b.catalog.schema.words) : Plain (b.catalog.builderName n) :=
    (h.plain hn).append h.suffix
  have hinstance {n : String} (hn : n ∈ b.catalog.schema.words) :
      Plain (b.catalog.instanceName n) := by
    rw [instanceName_eq (h.words n hn)]
    exact (h.words n hn).lowerFirst.plain.append (by decide)
  have hfield {f : SelectableField} (hf : f.Over (· ∈ b.catalog.schema.words)) : f.Tidy :=
    hf.tidy fun w hw => h.plain hw
  constructor
  case typeName => exact h.plain (hword hmodelled)
  case name => exact hbuilder (hword hmodelled)
  case instanceName => exact hinstance (hword hmodelled)
  case superTypes =>
    intro t ht
    have ht := hword (hmodelled.modelled_of_mem_superTypes ht)
    exact ⟨hinstance ht, hbuilder ht⟩
  case declared => exact fun f hf => hfield (hmodelled.over_of_declared hconnections hf)
  case fields =>
    intro p hp
    have hover := Outline.over_of_mem_fields hmodel hconnections (hb.mem_fields hp).1
    have hdefinition := Schema.listed_words_subset (hb.listed p hp).1
    refine ⟨hfield hover, ?_, h.plain (hdefinition List.mem_cons_self), fun a ha => ?_⟩
    · intro t ht
      -- A field is associated with its connection, or with its target and whatever is below that.
      rw [associatedTypes] at ht
      split at ht
      · next n hconnection =>
        exact List.mem_singleton.1 ht ▸ h.plain (hover.connection n hconnection)
      · next n _ htarget =>
        rcases List.mem_cons.1 ht with rfl | ht
        · exact h.plain (hover.target _ htarget)
        · rw [lineage_eq hc] at ht
          exact h.plain (Schema.descendants_subset (NameSet.mem_toList.1 ht))
      · cases ht
    · have hargument : a.name ∈ p.2.words := List.mem_cons_of_mem _ (List.mem_cons_of_mem _
        (List.mem_flatMap.2 ⟨a, ha, List.mem_cons_self⟩))
      exact h.plain (hdefinition hargument)

/-- What an index exports are names that its modules give, next to fixed ones. -/
theorem exports (h : c.Tidy) (hc : ofSchema s settings = .ok c)
    (hartifacts : c.artifacts = .ok artifacts) {i : Index} (hi : .index i ∈ artifacts) :
    ∀ e ∈ i.exports, e.Tidy := by
  have hdefinition {n : String} (hn : n ∈ c.schema.words) : (definitionExports n).Tidy :=
    ⟨h.plain hn, List.forall_mem_singleton.2 (h.plain hn), nofun⟩
  obtain ⟨builders, hbuilders, rfl⟩ := map_eq_ok_iff.1 hartifacts
  rcases index_mem_artifactsOf_iff.1 hi with rfl | ⟨_, rfl⟩ | ⟨_, rfl⟩ | rfl
  · refine List.forall_mem_map.2 fun b hb => ?_
    obtain ⟨t, _, hbuilder⟩ := exists_of_mem_right (mapM_eq_ok_iff.1 hbuilders) hb
    have hbuilds := builds_of_builder hbuilder
    obtain rfl := hbuilds.catalog
    exact (h.builder hc hbuilds).exports
  · exact List.forall_mem_map.2 fun d hd =>
      hdefinition (Schema.name_mem_words (Schema.mem_enums_iff.1 hd))
  · exact List.forall_mem_map.2 fun d hd =>
      hdefinition (Schema.name_mem_words (Schema.mem_inputs_iff.1 hd))
  · have hfolder (folder : String) (h : Plain folder) : (folderExports folder).Tidy :=
      ⟨h, nofun, nofun⟩
    refine List.forall_mem_cons.2 ⟨⟨by decide, by decide, by decide⟩, ?_⟩
    refine List.forall_mem_map.2 fun folder hmem => hfolder folder ?_
    have hnames : ∀ folder ∈ ["fetchers", "enums", "inputs"], Plain folder := by decide
    apply hnames
    revert hmem
    cases c.schema.enums.isEmpty <;> cases c.schema.inputs.isEmpty <;> simp <;> tauto

end Tidy

/-! ## Files -/

/-- The files of a catalog: the common types, the one of a name, or an index of those that are
listed. -/
inductive Makes (c : Catalog) : Artifact → Prop where
  | commonTypes : c.Makes (.commonTypes c.lineage)
  | builder {name : String} {b : Builder} (h : c.builder name = .ok b) : c.Makes (.builder b)
  | enum {name : String} {d : EnumDef} (h : c.schema.get? name = some (.enum d)) : c.Makes (.enum d)
  | input {name : String} {d : InputDef} (h : c.schema.get? name = some (.input d)) :
    c.Makes (.input d)
  | index {artifacts : List Artifact} {i : Index} (h : c.artifacts = .ok artifacts)
    (hi : .index i ∈ artifacts) : c.Makes (.index i)

theorem makes_of_mem (hc : ofSchema s settings = .ok c) (hartifacts : c.artifacts = .ok artifacts)
    (ha : a ∈ artifacts) : c.Makes a := by
  cases a with
  | commonTypes l =>
    obtain ⟨builders, _, rfl⟩ := map_eq_ok_iff.1 hartifacts
    obtain rfl : l = c.lineage := by simpa [artifactsOf] using ha
    exact .commonTypes
  | builder b => exact .builder (typeName_mem_of_mem_artifacts hc hartifacts ha).2.2
  | enum d => exact .enum (schema_eq hc ▸ (enum_mem_iff hc hartifacts).1 ha)
  | input d => exact .input (schema_eq hc ▸ (input_mem_iff hc hartifacts).1 ha)
  | index i => exact .index hartifacts ha

namespace Makes

/-- The body of a file closes what it opens. -/
theorem neutral_script (ha : c.Makes a) (h : c.Tidy) (hc : ofSchema s settings = .ok c) :
    Op.Neutral (a.script c.settings) := by
  cases ha with
  | commonTypes =>
    have hcasts : c.lineage.downcasts.Over Plain ∧ c.lineage.upcasts.Over Plain := by
      rw [lineage_eq hc]
      have hover := Schema.over_casts (s := c.schema)
      exact ⟨hover.1.mono fun _ => h.plain, hover.2.mono fun _ => h.plain⟩
    exact CommonTypes.neutral_script hcasts.1 hcasts.2
  | builder hb => exact Builder.neutral_script (h.builder hc (builds_of_builder hb))
  | enum hget =>
    have hwords := Schema.words_subset hget
    exact EnumDef.neutral_script (h.plain (hwords List.mem_cons_self)) fun v hv =>
      h.plain (hwords (List.mem_cons_of_mem _ hv))
  | input hget =>
    have hwords := Schema.words_subset hget
    exact InputDef.neutral_script (h.plain (hwords List.mem_cons_self)) fun f hf =>
      h.plain (hwords (List.mem_cons_of_mem _ (List.mem_flatMap.2 ⟨f, hf, List.mem_cons_self⟩)))
  | index hartifacts hi =>
    exact Index.neutral_script fun e he =>
      (h.exports hc hartifacts hi e he).links

/-- The statements that a file asks for have balanced brackets. -/
theorem tidy_statementLinks (ha : c.Makes a) (h : c.Tidy) (hc : ofSchema s settings = .ok c) :
    ∀ l ∈ a.statementLinks, l.Tidy := by
  cases ha with
  | builder hb => exact (h.builder hc (builds_of_builder hb)).importLinks
  | commonTypes | enum _ | input _ | index _ _ => exact List.forall_mem_nil _

/-- The lines that a file begins with have balanced brackets. -/
theorem balanced_importLines (ha : c.Makes a) (h : c.Tidy) (hc : ofSchema s settings = .ok c) :
    ∀ line ∈ (a.page c.schema c.settings).2.importLines, Balanced line := by
  intro line hline
  obtain ⟨l, hl, rfl⟩ := Artifact.mem_importLines_iff.1 hline
  suffices l.Tidy from this.balanced_line (by decide)
  rcases List.mem_append.1 hl with hl | hl
  · exact ha.tidy_statementLinks h hc l hl
  · obtain ⟨group, hgroup, rfl⟩ := List.mem_map.1 hl
    have hschema : (a.page c.schema c.settings).2.schema = c.schema :=
      congrArg Sheet.schema Artifact.sheet_page
    refine Page.tidy_ofGroup (fun n hn => ?_) hgroup
    rw [hschema] at hn
    obtain ⟨d, hget, _⟩ := Schema.isDefinition_iff.1 hn
    exact h.plain (Schema.name_mem_words hget)

end Makes

/-- Of every file that can be rendered, all regions are left behind its body, none was left that was
not open, and the brackets of the text are balanced. -/
theorem balanced_of_render (hnames : s.Named) (hsuffix : Plain settings.fetcherSuffix)
    (hscalars : ∀ e ∈ settings.scalarTypes.entries, Balanced e.2)
    (hc : ofSchema s settings = .ok c) (ha : c.Makes a) (hrender : c.render a = .ok text) :
    let page := (a.page s settings).2
    page.regions = [] ∧ page.strayLeaves = 0 ∧ Balanced text := by
  have htidy := tidy_of_ofSchema hc hnames hsuffix hscalars
  obtain rfl := schema_eq hc
  obtain rfl := settings_eq hc
  intro page
  have hok : (a.page c.schema c.settings).1 = .ok () := Artifact.exists_render_iff.1 ⟨text, hrender⟩
  have hscript : Op.Neutral (a.importScript ++ .closeImports :: a.script c.settings) :=
    (Op.Neutral.imports a.all_isImport_importScript).append (ha.neutral_script htidy hc)
  have hpage : page = _ := congrArg Prod.snd Artifact.page_eq
  rw [Artifact.page_eq] at hok
  obtain ⟨hkinds, hdue, hstray⟩ := hpage ▸ Op.nested_runAll (htidy.sheet a.location) hok hscript
  -- The header is balanced line by line, and the body because its script makes up for all it
  -- opens.
  refine ⟨List.map_eq_nil_iff.1 hkinds, hstray, ?_⟩
  rw [Artifact.text_of_render hrender]
  exact (Page.balanced_header (ha.balanced_importLines htidy hc)).append hdue

/-- A schema whose files have brackets of all kinds. -/
def gallery : Schema where
  types := [
    .interface ⟨"Node", [], [⟨"id", .nonNull (.named "ID"), []⟩]⟩,
    .enum ⟨"Color", ["RED"]⟩,
    .input ⟨"Filter", [⟨"colors", .list (.named "Color")⟩]⟩,
    .object ⟨"Painting", ["Node"],
      [⟨"id", .nonNull (.named "ID"), []⟩, ⟨"size", .nonNull (.named "Size"), []⟩,
        ⟨"copies", .list (.nonNull (.named "Painting")), [⟨"filter", .named "Filter"⟩]⟩]⟩,
    .scalar "ID", .scalar "Size"]
  roots := .unset
  distinct := by decide

/-- A target with brackets. -/
def sizes : Settings :=
  { scalarTypes := (∅ : NameMap String).insert "Size" "Array<\x7b width: number; at: number[] \x7d>" }

theorem balanced_of_render_gallery :
    gallery.Named ∧ Plain sizes.fetcherSuffix ∧
    (∀ e ∈ sizes.scalarTypes.entries, Balanced e.2) ∧
    ∃ c artifacts, ofSchema gallery sizes = .ok c ∧ c.artifacts = .ok artifacts ∧
      ∀ a ∈ artifacts, ∃ text, c.Makes a ∧ c.render a = .ok text ∧
        (a.page gallery sizes).2.regions = [] ∧ (a.page gallery sizes).2.strayLeaves = 0 ∧
        Balanced text := by
  have hnames : ∀ w ∈ gallery.words, Sdl.IsName w := by decide
  have hscalars : ∀ e ∈ sizes.scalarTypes.entries, Balanced e.2 := by decide
  refine ⟨hnames, by decide, hscalars, ?_⟩
  obtain ⟨c, artifacts, hc, hartifacts, hrender⟩ : Succeeds gallery sizes := by
    apply succeeds_of_checks
    cbv
  refine ⟨c, artifacts, hc, hartifacts, fun a ha => ?_⟩
  obtain ⟨text, htext⟩ := hrender a ha
  have hmakes := makes_of_mem hc hartifacts ha
  exact ⟨text, hmakes, htext, balanced_of_render hnames (by decide) hscalars hc hmakes htext⟩

end Catalog

end TypedQuery
