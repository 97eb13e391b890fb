-- SUMMARY: A builder holds the listed fields of its type, each with its own model.
import Mathlib
import TypedQuery.Artifact.Basic
import TypedQuery.Proofs.Model.Inheritance

/-!
# Fields of builders

A builder pairs the fields that walking a type finds with the definitions that the type lists. In a
regular schema nothing is lost or mixed up on the way: no field is missing, and a model that was
inherited is the one that the definition would have had.
-/
namespace TypedQuery

namespace Catalog

variable {c : Catalog} {s : Schema} {settings : Settings} {name : String} {b : Builder}

/-! ## Builders -/

/-- What a builder consists of. -/
structure Builds (c : Catalog) (name : String) (b : Builder) : Prop where
  catalog : b.catalog = c
  type : c.type? name = .ok b.type
  fields : b.fields.map (·.1) = b.type.fields.filter fun f => !c.settings.excludes name f.name
  listed : ∀ p ∈ b.fields, p.2 ∈ c.schema.listedFields name ∧ p.2.name = p.1.name

theorem listedField_eq_ok {listed : List FieldDef} {f : SelectableField}
    {p : SelectableField × FieldDef} (h : listedField name listed f = .ok p) :
    p.1 = f ∧ p.2 ∈ listed ∧ p.2.name = f.name := by
  unfold listedField at h
  split at h
  · next d hfind =>
    cases h
    exact ⟨rfl, List.mem_of_find?_eq_some hfind, by simpa using List.find?_some hfind⟩
  · cases h

theorem builds_of_builder (h : c.builder name = .ok b) : c.Builds name b := by
  unfold builder at h
  split at h
  · cases h
  · next t htype =>
    obtain ⟨fields, hfields, rfl⟩ := map_eq_ok_iff.1 h
    have hpairs := mapM_eq_ok_iff.1 hfields
    refine ⟨rfl, htype, ?_, ?_⟩
    · exact map_eq_of_forall₂ hpairs fun f p hp => (listedField_eq_ok hp).1
    · intro p hp
      obtain ⟨f, _, hf⟩ := exists_of_mem_right hpairs hp
      obtain ⟨rfl, hlisted, hname⟩ := listedField_eq_ok hf
      exact ⟨hlisted, hname⟩

/-- If all files can be generated, every composite type has a builder. -/
theorem exists_builder {artifacts : List Artifact} (hc : ofSchema s settings = .ok c)
    (hartifacts : c.artifacts = .ok artifacts) (hname : name ∈ s.compositeNames) :
    ∃ b, c.builder name = .ok b := by
  obtain ⟨builders, hbuilders, _⟩ := map_eq_ok_iff.1 hartifacts
  obtain ⟨t, ht, hmodel⟩ := exists_of_mem_left (ofSchema_eq_ok hc).2 hname
  obtain ⟨b, _, hb⟩ := exists_of_mem_left (mapM_eq_ok_iff.1 hbuilders) ht
  exact ⟨b, (Outline.typeOf_eq_ok hmodel).1 ▸ hb⟩

/-- There is one builder for each composite type, in the order of the schema. -/
theorem typeNames_of_builders {builders : List Builder} (hc : ofSchema s settings = .ok c)
    (hbuilders : c.builders = .ok builders) : builders.map (·.typeName) = s.compositeNames := by
  have htypes : c.types.map (·.name) = s.compositeNames :=
    map_eq_of_forall₂ (ofSchema_eq_ok hc).2 fun _ _ hmodel => (Outline.typeOf_eq_ok hmodel).1
  rw [← htypes]
  refine (map_eq_map_of_forall₂ (mapM_eq_ok_iff.1 hbuilders) fun t _ b hb => ?_).symm
  exact (typeOf_of_type? hc (builds_of_builder hb).type).1.symm

/-- A schema has files if computing them succeeds. -/
theorem exists_artifacts (s : Schema) (settings : Settings)
    (h : (ofSchema s settings >>= artifacts).isOk = true) :
    ∃ c all, ofSchema s settings = .ok c ∧ c.artifacts = .ok all := by
  obtain ⟨all, hall⟩ := exists_of_isOk h
  obtain ⟨c, hc, hartifacts⟩ := bind_eq_ok_iff.1 hall
  exact ⟨c, all, hc, hartifacts⟩

/-- The builder of every composite type is among the files. -/
theorem mem_artifacts_of_builder {artifacts : List Artifact} (hc : ofSchema s settings = .ok c)
    (hartifacts : c.artifacts = .ok artifacts) (hname : name ∈ s.compositeNames)
    (hb : c.builder name = .ok b) : .builder b ∈ artifacts := by
  obtain ⟨builders, hbuilders, rfl⟩ := map_eq_ok_iff.1 hartifacts
  obtain ⟨t, ht, hmodel⟩ := exists_of_mem_left (ofSchema_eq_ok hc).2 hname
  -- The files have a builder of every type, and of a name there is only one.
  obtain ⟨other, hother, hbuilder⟩ := exists_of_mem_left (mapM_eq_ok_iff.1 hbuilders) ht
  rw [(Outline.typeOf_eq_ok hmodel).1, hb] at hbuilder
  cases hbuilder
  simp [artifactsOf, hother]

/-! ## Pairs -/

/-- The type of a builder has a model of every field that it lists. -/
theorem Builds.exists_field (h : c.Builds name b) (hc : ofSchema s settings = .ok c)
    (hs : s.Regular) {d : FieldDef} (hd : d ∈ c.schema.listedFields name) :
    ∃ f ∈ b.type.fields, f.name = d.name ∧ c.fieldModel name d = .ok f := by
  obtain ⟨rfl, hmodel⟩ := typeOf_of_type? hc h.type
  have hmodelled := (Outline.typeOf_eq_ok hmodel).2
  obtain ⟨f, hfield, hf⟩ := hmodelled.exists_field_of_listed (regular_of_ofSchema hc hs) hd
  obtain ⟨hmem, hname⟩ := SelectableType.field?_eq_some_iff.1 hfield
  exact ⟨f, hmem, hname, hf⟩

theorem Builds.mem_fields (h : c.Builds name b) {p : SelectableField × FieldDef}
    (hp : p ∈ b.fields) :
    p.1 ∈ b.type.fields ∧ c.settings.excludes name p.1.name = false := by
  have hkept : p.1 ∈ b.fields.map (·.1) := List.mem_map_of_mem hp
  rw [h.fields] at hkept
  simpa using List.mem_filter.1 hkept

theorem Builds.nodup_names (h : c.Builds name b) : (b.fields.map (·.1.name)).Nodup := by
  have hsub : ((b.fields.map (·.1)).map (·.name)).Sublist (b.type.fields.map (·.name)) := by
    rw [h.fields]
    exact List.filter_sublist.map _
  rw [List.map_map] at hsub
  exact b.type.nodup_fields.sublist hsub

/-- The model in a pair is the model of the definition in it. -/
theorem Builds.fieldModel_of_mem (h : c.Builds name b) (hc : ofSchema s settings = .ok c)
    (hs : s.Regular) {p : SelectableField × FieldDef} (hp : p ∈ b.fields) :
    c.fieldModel name p.2 = .ok p.1 := by
  obtain ⟨hlisted, hname⟩ := h.listed p hp
  obtain ⟨f, hf, hfname, hmodel⟩ := h.exists_field hc hs hlisted
  have hmem := (h.mem_fields hp).1
  rw [hmodel, List.inj_on_of_nodup_map b.type.nodup_fields hf hmem (hfname.trans hname)]

/-- The definitions in the pairs are those that are listed and not left out. -/
theorem Builds.mem_definitions_iff (h : c.Builds name b) (hc : ofSchema s settings = .ok c)
    (hs : s.Regular) {d : FieldDef} : d ∈ b.fields.map (·.2) ↔
      d ∈ c.schema.listedFields name ∧ c.settings.excludes name d.name = false := by
  constructor
  · intro hd
    obtain ⟨p, hp, rfl⟩ := List.mem_map.1 hd
    obtain ⟨hlisted, hname⟩ := h.listed p hp
    rw [hname]
    exact ⟨hlisted, (h.mem_fields hp).2⟩
  · rintro ⟨hlisted, hkept⟩
    obtain ⟨f, hf, hname, _⟩ := h.exists_field hc hs hlisted
    have hmem : f ∈ b.fields.map (·.1) := by
      rw [h.fields]
      exact List.mem_filter.2 ⟨hf, by simpa [hname] using hkept⟩
    obtain ⟨p, hp, rfl⟩ := List.mem_map.1 hmem
    obtain ⟨hother, hsame⟩ := h.listed p hp
    -- A pair could hold another definition of the same name, but a regular schema lists no name
    -- twice.
    have hnodup : ((c.schema.listedFields name).map (·.name)).Nodup :=
      (regular_of_ofSchema hc hs).schema.nodup_listedFields
    rw [← List.inj_on_of_nodup_map hnodup hother hlisted (hsame.trans hname)]
    exact List.mem_map_of_mem hp

theorem Builds.nodup_definitions (h : c.Builds name b) : (b.fields.map (·.2)).Nodup := by
  apply List.Nodup.of_map FieldDef.name
  have hnames : (b.fields.map (·.2)).map (·.name) = b.fields.map (·.1.name) := by
    rw [List.map_map]
    exact List.map_congr_left fun p hp => (h.listed p hp).2
  rw [hnames]
  exact h.nodup_names

/-- In a regular schema whose files can all be generated, the builder of a composite type pairs
exactly the listed fields that the settings do not leave out, each of them once, with the models
that these very definitions have. -/
theorem builder_fields_of_listed {artifacts : List Artifact} (hs : s.Regular)
    (hc : ofSchema s settings = .ok c) (hartifacts : c.artifacts = .ok artifacts)
    (hname : name ∈ s.compositeNames) :
    ∃ b, c.builder name = .ok b ∧
      (b.fields.map (·.2)).Perm
        ((s.listedFields name).filter fun d => !settings.excludes name d.name) ∧
      (b.fields.map (·.2)).Nodup ∧
      ∀ p ∈ b.fields, c.fieldModel name p.2 = .ok p.1 := by
  obtain ⟨b, hb⟩ := exists_builder hc hartifacts hname
  have hbuilds := builds_of_builder hb
  have hlisted : ((s.listedFields name).filter fun d => !settings.excludes name d.name).Nodup :=
    (List.Nodup.of_map FieldDef.name hs.nodup_listedFields).filter _
  refine ⟨b, hb, ?_, hbuilds.nodup_definitions, ?_⟩
  · rw [List.perm_ext_iff_of_nodup hbuilds.nodup_definitions hlisted]
    intro d
    rw [hbuilds.mem_definitions_iff hc hs, schema_eq hc, settings_eq hc, List.mem_filter]
    simp
  · intro p hp
    exact hbuilds.fieldModel_of_mem hc hs hp

/-- A schema with a diamond of interfaces, a redeclaration that narrows, and a union. -/
def beings : Schema where
  types := [
    .interface ⟨"Node", [], [⟨"id", .nonNull (.named "ID"), []⟩]⟩,
    .interface ⟨"Named", ["Node"],
      [⟨"id", .nonNull (.named "ID"), []⟩, ⟨"name", .named "String", []⟩]⟩,
    .interface ⟨"Aged", ["Node"],
      [⟨"id", .nonNull (.named "ID"), []⟩, ⟨"age", .named "Int", []⟩]⟩,
    .object ⟨"Person", ["Named", "Aged", "Node"],
      [⟨"id", .nonNull (.named "ID"), []⟩, ⟨"name", .nonNull (.named "String"), []⟩,
        ⟨"age", .named "Int", []⟩, ⟨"pets", .list (.named "Pet"), []⟩]⟩,
    .object ⟨"Pet", ["Named", "Node"],
      [⟨"id", .nonNull (.named "ID"), []⟩, ⟨"name", .named "String", []⟩]⟩,
    .union ⟨"Being", ["Person", "Pet"]⟩,
    .scalar "ID", .scalar "String", .scalar "Int"]
  roots := .unset
  distinct := by decide

/-- Settings that leave out the age of persons. -/
def ageless : Settings := { excluded := Settings.addField ∅ "Person" "age" }

theorem exists_ofSchema_beings : ∃ c, ofSchema beings ageless = .ok c := by
  apply exists_of_isOk
  cbv

theorem builder_fields_of_person : beings.Regular ∧
    ∃ c artifacts, ofSchema beings ageless = .ok c ∧ c.artifacts = .ok artifacts ∧
      ∃ b, c.builder "Person" = .ok b ∧
        (b.fields.map (·.2)).Perm
          ((beings.listedFields "Person").filter fun d => !ageless.excludes "Person" d.name) ∧
        (b.fields.map (·.2)).Nodup ∧
        ∀ p ∈ b.fields, c.fieldModel "Person" p.2 = .ok p.1 := by
  have hregular : beings.Regular := ⟨by decide, by decide⟩
  obtain ⟨c, all, hc, hartifacts⟩ := exists_artifacts beings ageless (by cbv)
  exact ⟨hregular, c, all, hc, hartifacts,
    builder_fields_of_listed hregular hc hartifacts (by decide)⟩

end Catalog

end TypedQuery
