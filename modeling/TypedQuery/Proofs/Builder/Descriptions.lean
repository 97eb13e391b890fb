-- SUMMARY: What the runtime knows about the fields of a type, and when that covers its accessors.
import TypedQuery.Proofs.Builder.Fields

/-!
# Descriptions

Generated code describes every type to the runtime by one call. The runtime puts the calls together
again: the fields in the call of a type come first, then those of its super types. A call leaves out
what the settings exclude from the described type, while accessors are left out by the type that has
them. `gathered_iff` says what the runtime finds. For an accessor that is the accessor's own field
if the family of the type `Covers` it.
-/
namespace TypedQuery

/-! ## The runtime -/

/-- The fields that the runtime finds for a type, from the calls that it has seen: those of the
type's own call, and then those of the super types that the call lists, depth first. Of several
fields of one name the first one counts. -/
inductive Gathered (calls : List TypeDescription) : String → List SelectableField → Prop
  | call {d : TypeDescription} {above : List (List SelectableField)} :
      d ∈ calls → List.Forall₂ (Gathered calls) d.superTypes above →
      Gathered calls d.name (d.fields ++ above.flatten)
  | missing {name : String} : (∀ d ∈ calls, d.name ≠ name) → Gathered calls name []

/-- The call in a file. -/
def Artifact.description? : Artifact → Option TypeDescription
  | builder b => some b.description
  | commonTypes _ | enum _ | input _ | index _ => none

/-- The calls in all files. -/
def Artifact.descriptions (artifacts : List Artifact) : List TypeDescription :=
  artifacts.filterMap description?

namespace SelectableType

variable {settings : Settings} {t : SelectableType} {n : String} {f : SelectableField}

/-- The declared fields that are described. -/
def described (settings : Settings) (t : SelectableType) : List SelectableField :=
  t.declared.filter fun f => !settings.excludes t.name f.name

/-- The type declares a field of the name and describes it. -/
def describes (settings : Settings) (t : SelectableType) (name : String) : Bool :=
  t.declares name && !settings.excludes t.name name

/-- The call that describes the type. -/
def description (settings : Settings) (t : SelectableType) : TypeDescription :=
  { name := t.name
    category := t.category
    superTypes := t.superTypes.map (·.name)
    fields := t.described settings }

/-- Of the types in the family, the first one that describes a field of the name declares this very
field. -/
def Covers (settings : Settings) (t : SelectableType) (f : SelectableField) : Prop :=
  ∃ u, t.family.find? (·.describes settings f.name) = some u ∧ f ∈ u.declared

theorem any_described : (t.described settings).any (·.name = n) = t.describes settings n := by
  rw [Bool.eq_iff_iff, describes, declares, described, Bool.and_eq_true, List.any_eq_true,
    List.any_eq_true]
  constructor
  · rintro ⟨f, hf, hname⟩
    obtain ⟨hmem, hkept⟩ := List.mem_filter.1 hf
    exact ⟨⟨f, hmem, hname⟩, of_decide_eq_true hname ▸ hkept⟩
  · rintro ⟨⟨f, hmem, hname⟩, hkept⟩
    exact ⟨f, List.mem_filter.2 ⟨hmem, (of_decide_eq_true hname).symm ▸ hkept⟩, hname⟩

/-- Among the described fields of a family, a field is the first one of its name if the family
covers it. -/
theorem find?_described_eq_some_iff
    (hdistinct : ∀ u ∈ t.family, (u.declared.map (·.name)).Nodup) :
    (t.family.flatMap (·.described settings)).find? (·.name = f.name) = some f ↔
      t.Covers settings f := by
  simp only [find?_flatMap_eq_bind, any_described, Option.bind_eq_some_iff, Covers]
  apply exists_congr
  intro u
  apply and_congr_right
  intro hfind
  have hu := List.mem_of_find?_eq_some hfind
  have hdescribes : u.describes settings f.name = true := by simpa using List.find?_some hfind
  have hkept : ((u.described settings).map (·.name)).Nodup :=
    (hdistinct u hu).sublist (List.filter_sublist.map _)
  rw [find?_eq_some_iff_of_nodup hkept]
  constructor
  · rintro ⟨hf, _⟩
    exact (List.mem_filter.1 hf).1
  · intro hf
    exact ⟨List.mem_filter.2 ⟨hf, (Bool.and_eq_true_iff.1 hdescribes).2⟩, rfl⟩

/-- A field of a type is covered if no member of the family excludes a field of the name. -/
theorem covers_of_field? (hfield : t.field? f.name = some f)
    (hkept : ∀ u ∈ t.family, u.declares f.name → settings.excludes u.name f.name = false) :
    t.Covers settings f := by
  have hsame : ∀ u ∈ t.family, u.describes settings f.name = u.declares f.name := by
    intro u hu
    rw [describes]
    cases hdeclares : u.declares f.name with
    | false => rfl
    | true => rw [hkept u hu hdeclares]; rfl
  rw [field?_eq, find?_flatMap_eq_bind] at hfield
  obtain ⟨u, hu, hf⟩ := Option.bind_eq_some_iff.1 hfield
  exact ⟨u, (List.find?_congr hsame).trans hu, List.mem_of_find?_eq_some hf⟩

end SelectableType

namespace Catalog

variable {c : Catalog} {s : Schema} {settings : Settings} {name : String} {t : SelectableType}
  {artifacts : List Artifact}

/-! ## The calls of a catalog -/

/-- The calls that describe the composite types of the schema, in order. -/
def descriptions (c : Catalog) : List TypeDescription := c.types.map (·.description c.settings)

theorem descriptions_artifactsOf {builders : List Builder} :
    Artifact.descriptions (c.artifactsOf builders) = builders.map (·.description) := by
  have hbuilders : (builders.map Artifact.builder).filterMap Artifact.description? =
      builders.map (·.description) := by
    rw [List.filterMap_map, ← List.filterMap_eq_map]
    rfl
  have henums : (c.schema.enums.map Artifact.enum).filterMap Artifact.description? = [] := by
    rw [List.filterMap_map]
    exact List.filterMap_eq_nil_iff.2 fun _ _ => rfl
  have hinputs : (c.schema.inputs.map Artifact.input).filterMap Artifact.description? = [] := by
    rw [List.filterMap_map]
    exact List.filterMap_eq_nil_iff.2 fun _ _ => rfl
  have hindex : ∀ (skip : Prop) [Decidable skip] (i : Index),
      (if skip then [] else [Artifact.index i]).filterMap Artifact.description? = [] := by
    intro skip _ i
    split <;> rfl
  unfold Artifact.descriptions artifactsOf
  simp only [List.filterMap_append, hbuilders, henums, hinputs, hindex]
  simp [List.filterMap_cons, Artifact.description?]

/-- The files of a catalog hold the calls of all composite types, and no others. -/
theorem descriptions_eq (hc : ofSchema s settings = .ok c)
    (hartifacts : c.artifacts = .ok artifacts) :
    Artifact.descriptions artifacts = c.descriptions := by
  obtain ⟨builders, hbuilders, rfl⟩ := map_eq_ok_iff.1 hartifacts
  rw [descriptions_artifactsOf]
  symm
  apply map_eq_map_of_forall₂ (mapM_eq_ok_iff.1 hbuilders)
  intro t ht b hb
  have hbuilds := builds_of_builder hb
  have htype := (typeOf_of_type? hc hbuilds.type).2
  rw [typeOf_of_mem_types hc ht] at htype
  cases htype
  rw [Builder.description, SelectableType.description, Builder.typeName, Builder.describedFields,
    SelectableType.described, hbuilds.catalog, Builder.typeName]

/-! ## What the calls add up to -/

/-- The call of a composite type is the only one of its name. -/
theorem gathered_iff_exists (hc : ofSchema s settings = .ok c) (ht : c.typeOf t.name = .ok t)
    (hname : t.name ∈ c.schema.compositeNames) {fields : List SelectableField} :
    Gathered c.descriptions t.name fields ↔
      ∃ above, List.Forall₂ (Gathered c.descriptions) (t.superTypes.map (·.name)) above ∧
        fields = t.described c.settings ++ above.flatten := by
  have hcall : t.description c.settings ∈ c.descriptions :=
    List.mem_map_of_mem (mem_types_of_typeOf hc ht hname)
  constructor
  · intro h
    -- The name is generalized so that the cases are not held up by it.
    generalize hsame : t.name = name at h
    cases h with
    | @call d above hd habove =>
      obtain ⟨u, hu, rfl⟩ := List.mem_map.1 hd
      have hmodel := typeOf_of_mem_types hc hu
      rw [show u.name = t.name from hsame.symm, ht] at hmodel
      cases hmodel
      exact ⟨above, habove, rfl⟩
    | missing hnone => exact absurd hsame (hnone _ hcall)
  · rintro ⟨above, habove, rfl⟩
    exact .call hcall habove

/-- A type that is not composite has no call, and nothing to describe either. -/
theorem gathered_iff_of_not_composite (hc : ofSchema s settings = .ok c)
    (ht : c.typeOf t.name = .ok t) (hname : ¬ t.name ∈ c.schema.compositeNames)
    {fields : List SelectableField} :
    Gathered c.descriptions t.name fields ↔
      fields = t.family.flatMap (·.described c.settings) := by
  have hmodel := (Outline.typeOf_eq_ok ht).2
  have hempty : t.family.flatMap (·.described c.settings) = [] := by
    rw [List.flatMap_eq_nil_iff]
    intro u hu
    rw [SelectableType.described, hmodel.declared_of_not_composite (lineage_eq hc) hname hu,
      List.filter_nil]
  have hnone : ∀ d ∈ c.descriptions, d.name ≠ t.name := by
    rintro d hd hsame
    obtain ⟨u, hu, rfl⟩ := List.mem_map.1 hd
    exact hname (hsame ▸ name_mem_of_mem_types hc hu)
  rw [hempty]
  constructor
  · intro h
    generalize hsame : t.name = name at h
    cases h with
    | call hd _ => exact absurd hsame.symm (hnone _ hd)
    | missing _ => rfl
  · rintro rfl
    exact .missing hnone

/-- What the runtime gathers for a type are the described fields of its family. -/
theorem gathered_iff (hc : ofSchema s settings = .ok c) (ht : c.typeOf t.name = .ok t)
    {fields : List SelectableField} : Gathered c.descriptions t.name fields ↔
      fields = t.family.flatMap (·.described c.settings) := by
  induction t using SelectableType.induction_superTypes generalizing fields with
  | step t ih =>
    by_cases hname : t.name ∈ c.schema.compositeNames
    · -- By induction, what is gathered for the super types is determined, one list for each of
      -- them.
      have habove : ∀ above,
          List.Forall₂ (Gathered c.descriptions) (t.superTypes.map (·.name)) above ↔
            above = t.superTypes.map fun u => u.family.flatMap (·.described c.settings) := by
        intro above
        rw [List.forall₂_map_left_iff]
        refine forall₂_iff_eq_map fun u hu fields => ih u hu ?_
        obtain ⟨superName, _, hmodel⟩ :=
          exists_of_mem_right (Outline.typeOf_eq_ok ht).2.superTypes hu
        exact (Outline.typeOf_eq_ok hmodel).1 ▸ hmodel
      rw [gathered_iff_exists hc ht hname, SelectableType.family_eq, List.flatMap_cons,
        List.flatMap_assoc]
      simp only [habove, exists_eq_left, List.flatMap_def]
    · exact gathered_iff_of_not_composite hc ht hname

/-! ## Accessors -/

/-- For an accessor, the runtime finds the field that the accessor was made from if and only if the
family of the type covers that field. This is so whenever the settings exclude no field of that name
from a type of the family that declares one. -/
theorem gathered_covers_accessors (hc : ofSchema s settings = .ok c)
    (hartifacts : c.artifacts = .ok artifacts) (hname : name ∈ s.compositeNames) :
    ∃ b, c.builder name = .ok b ∧ .builder b ∈ artifacts ∧
      ∃ fields,
        (∀ others, Gathered (Artifact.descriptions artifacts) name others ↔ others = fields) ∧
        ∀ p ∈ b.fields,
          (fields.find? (·.name = p.1.name) = some p.1 ↔ b.type.Covers settings p.1) ∧
          ((∀ u ∈ b.type.family, u.declares p.1.name →
              settings.excludes u.name p.1.name = false) →
            fields.find? (·.name = p.1.name) = some p.1) := by
  obtain ⟨b, hb⟩ := exists_builder hc hartifacts hname
  have hbuilds := builds_of_builder hb
  obtain ⟨rfl, hmodel⟩ := typeOf_of_type? hc hbuilds.type
  have hdistinct : ∀ u ∈ b.type.family, (u.declared.map (·.name)).Nodup := by
    intro u hu
    exact (Outline.typeOf_eq_ok (Outline.typeOf_of_mem_family hmodel hu)).2.distinct
  refine ⟨b, hb, mem_artifacts_of_builder hc hartifacts hname hb,
    b.type.family.flatMap (·.described settings), ?_, ?_⟩
  · intro others
    rw [descriptions_eq hc hartifacts, gathered_iff hc hmodel, settings_eq hc]
  · intro p hp
    rw [SelectableType.find?_described_eq_some_iff hdistinct]
    refine ⟨Iff.rfl, ?_⟩
    intro hkept
    have hfield := SelectableType.field?_eq_some_iff.2 ⟨(hbuilds.mem_fields hp).1, rfl⟩
    exact SelectableType.covers_of_field? hfield hkept

/-- An interface with an identifier, and a type that implements it. -/
def staff : Schema where
  types := [
    .interface ⟨"Node", [], [⟨"id", .nonNull (.named "ID"), []⟩]⟩,
    .object ⟨"Employee", ["Node"],
      [⟨"id", .nonNull (.named "ID"), []⟩, ⟨"name", .named "String", []⟩]⟩,
    .scalar "ID", .scalar "String"]
  roots := .unset
  distinct := by decide

/-- Settings that leave out the identifier of the interface alone. -/
def anonymousNodes : Settings := { excluded := Settings.addField ∅ "Node" "id" }

theorem gathered_covers_accessors_of_employee :
    ∃ c artifacts, ofSchema staff anonymousNodes = .ok c ∧ c.artifacts = .ok artifacts ∧
      ∃ b, c.builder "Employee" = .ok b ∧ .builder b ∈ artifacts ∧
        ∃ fields,
          (∀ others,
            Gathered (Artifact.descriptions artifacts) "Employee" others ↔ others = fields) ∧
          ∀ p ∈ b.fields,
            (fields.find? (·.name = p.1.name) = some p.1 ↔ b.type.Covers anonymousNodes p.1) ∧
            ((∀ u ∈ b.type.family, u.declares p.1.name →
                anonymousNodes.excludes u.name p.1.name = false) →
              fields.find? (·.name = p.1.name) = some p.1) := by
  obtain ⟨c, all, hc, hartifacts⟩ := exists_artifacts staff anonymousNodes (by cbv)
  exact ⟨c, all, hc, hartifacts, gathered_covers_accessors hc hartifacts (by decide)⟩

/-- Leaving out the identifier of the interface takes it from the implementing type as well: the
type keeps the accessor, and the runtime finds no such field. -/
theorem not_gathered_id_of_employee :
    ∃ c artifacts, ofSchema staff anonymousNodes = .ok c ∧ c.artifacts = .ok artifacts ∧
      anonymousNodes.excludes "Employee" "id" = false ∧
      ∃ b, c.builder "Employee" = .ok b ∧ .builder b ∈ artifacts ∧
        (∃ p ∈ b.fields, p.1.name = "id") ∧
        ∀ fields, Gathered (Artifact.descriptions artifacts) "Employee" fields →
          ∀ f ∈ fields, f.name ≠ "id" := by
  have hrun : (do
      let c ← ofSchema staff anonymousNodes
      let artifacts ← c.artifacts
      let b ← c.builder "Employee"
      return (b.fields.map fun p => p.1.name,
        (b.type.family.flatMap (·.described anonymousNodes)).map (·.name)) :
      Except Error (List String × List String)) = .ok (["name", "id"], ["name"]) := by cbv
  obtain ⟨c, hc, hrest⟩ := bind_eq_ok_iff.1 hrun
  obtain ⟨artifacts, hartifacts, hrest⟩ := bind_eq_ok_iff.1 hrest
  obtain ⟨b, hb, hnames⟩ := bind_eq_ok_iff.1 hrest
  obtain ⟨haccessors, hgathered⟩ := Prod.mk.inj (Except.ok.inj hnames)
  obtain ⟨hname, hmodel⟩ := typeOf_of_type? hc (builds_of_builder hb).type
  refine ⟨c, artifacts, hc, hartifacts, by decide, b, hb,
    mem_artifacts_of_builder hc hartifacts (by decide) hb, ?_, ?_⟩
  · have hmem : "id" ∈ b.fields.map fun p => p.1.name := haccessors ▸ by decide
    exact List.mem_map.1 hmem
  · intro fields hfields f hf hid
    rw [descriptions_eq hc hartifacts] at hfields
    have hfamily := (gathered_iff hc (hname.symm ▸ hmodel)).1 (hname.symm ▸ hfields)
    rw [hfamily, settings_eq hc] at hf
    have hmem := List.mem_map.2 ⟨f, hf, hid⟩
    rw [hgathered] at hmem
    exact absurd hmem (by decide)

end Catalog

end TypedQuery
