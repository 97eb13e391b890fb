-- SUMMARY: The order of the types of a schema is of no account for its files.
import TypedQuery.Proofs.Artifact.Scripts
import TypedQuery.Proofs.Builder.Fields
import TypedQuery.Proofs.Emit.Lookup
import TypedQuery.Proofs.Model.Order

/-!
# Files of reordered schemas

Two schemas with the same types, the same roots and the same order of unions make the same catalog, up
to the order of its types: a name has the same model in both, or in none, and the builder of a name and
the common types are rendered to the same text.
-/
namespace TypedQuery

/-! ## Rendering -/

namespace Artifact

variable {a a' : Artifact} {schema schema' : Schema} {s : Settings}

/-- Files with the same operations are rendered alike if the schemas find the same types. -/
theorem render_congr (hget : schema'.get? = schema.get?) (hlocation : a'.location = a.location)
    (himports : a'.importScript = a.importScript) (hscript : a'.script s = a.script s) :
    a'.render schema' s = a.render schema s := by
  have hsheet : schema'.get? = (Sheet.mk schema s a.location).schema.get? := hget
  obtain ⟨hresult, hcontent⟩ :=
    Op.content_runAll_under (a.importScript ++ .closeImports :: a.script s) hsheet
  -- The second file is the first one, run on a sheet that looks up its names in the other schema.
  have hpage : a'.page schema' s = Op.runAll (a.importScript ++ .closeImports :: a.script s)
      ((Sheet.mk schema s a.location).under schema').fresh := by
    rw [page_eq, himports, hscript, hlocation]
    rfl
  rw [← page_eq, ← hpage] at hresult hcontent
  unfold render
  rcases hfirst : a'.page schema' s with ⟨_ | _, p'⟩ <;>
    rcases hsecond : a.page schema s with ⟨_ | _, p⟩ <;>
      rw [hfirst, hsecond] at hresult hcontent <;> cases hresult
  · rfl
  · exact congrArg Except.ok hcontent

end Artifact

namespace Builder

variable {b : Builder} {c : Catalog}

/-- The builder of the same type in another catalog. -/
def within (b : Builder) (c : Catalog) : Builder := { b with catalog := c }

/-- What a builder writes takes from the catalog the settings and the lineage only. -/
theorem scripts_within (hsettings : c.settings = b.catalog.settings)
    (hlineage : c.lineage = b.catalog.lineage) :
    (b.within c).location = b.location ∧ (b.within c).importScript = b.importScript ∧
      (b.within c).script = b.script := by
  -- With the records taken apart, the schema and the models of the catalog occur nowhere in the
  -- scripts.
  obtain ⟨⟨⟨schema, settings, lineage, connections⟩, types⟩, type, fields⟩ := b
  obtain ⟨⟨schema', settings', lineage', connections'⟩, types'⟩ := c
  cases hsettings
  cases hlineage
  exact ⟨rfl, rfl, rfl⟩

end Builder

namespace Catalog

variable {c c' : Catalog} {s s' : Schema} {settings : Settings} {name : String}

theorem lineage_eq_of_reordered (h : s.Reordered s') (hc : ofSchema s settings = .ok c)
    (hc' : ofSchema s' settings = .ok c') : c'.lineage = c.lineage := by
  rw [lineage_eq hc, lineage_eq hc', schema_eq hc, schema_eq hc', h.lineage_eq]

theorem builder_eq_of_reordered (h : s.Reordered s') (hc : ofSchema s settings = .ok c)
    (hc' : ofSchema s' settings = .ok c') :
    c'.builder name = (c.builder name).map (·.within c') := by
  unfold builder
  rw [← type?_eq_of_reordered h hc hc', schema_eq hc, schema_eq hc', settings_eq hc,
    settings_eq hc', h.listedFields_eq]
  cases c.type? name with
  | error failure => rfl
  | ok t =>
    dsimp only
    cases (t.fields.filter fun f => !settings.excludes name f.name).mapM
      (listedField name (s'.listedFields name)) <;> rfl

theorem renderBuilder_eq_of_reordered (h : s.Reordered s') (hc : ofSchema s settings = .ok c)
    (hc' : ofSchema s' settings = .ok c') : c.renderBuilder name = c'.renderBuilder name := by
  unfold renderBuilder
  rw [builder_eq_of_reordered h hc hc']
  cases hbuilder : c.builder name with
  | error failure => rfl
  | ok b =>
    have hcatalog : b.catalog = c := (builds_of_builder hbuilder).catalog
    have hsettings : c'.settings = b.catalog.settings := by
      rw [hcatalog, settings_eq hc, settings_eq hc']
    obtain ⟨hlocation, himports, hscript⟩ :=
      Builder.scripts_within hsettings (hcatalog ▸ lineage_eq_of_reordered h hc hc')
    have hrender : (Artifact.builder (b.within c')).render s' settings =
        (Artifact.builder b).render s settings :=
      Artifact.render_congr h.symm.get?_eq hlocation himports (congrFun hscript _)
    change c.render (.builder b) = c'.render (.builder (b.within c'))
    rw [render, render, settings_eq hc, settings_eq hc', schema_eq hc, schema_eq hc', hrender]

theorem renderCommonTypes_eq_of_reordered (h : s.Reordered s') (hc : ofSchema s settings = .ok c)
    (hc' : ofSchema s' settings = .ok c') : c.renderCommonTypes = c'.renderCommonTypes := by
  unfold renderCommonTypes render
  rw [lineage_eq_of_reordered h hc hc', settings_eq hc, settings_eq hc', schema_eq hc, schema_eq hc']
  exact (Artifact.render_congr h.symm.get?_eq rfl rfl rfl).symm

/-- Schemas that list the same types in different orders, but for the unions, can both be modelled or
both not. Every composite type has the same model in both, with the same category, super types and
fields, and the builder of a name and the common types are rendered to the same texts, or both not. -/
theorem ofSchema_reordered (h : s.Reordered s') :
    ((∃ c, ofSchema s settings = .ok c) ↔ ∃ c', ofSchema s' settings = .ok c') ∧
    ∀ c c', ofSchema s settings = .ok c → ofSchema s' settings = .ok c' →
      (∀ name ∈ s.compositeNames, ∃ t, c.type? name = .ok t ∧ c'.type? name = .ok t) ∧
      (∀ name, c.renderBuilder name = c'.renderBuilder name) ∧
      c.renderCommonTypes = c'.renderCommonTypes := by
  refine ⟨⟨?_, ?_⟩, fun c c' hc hc' => ⟨fun name hname => ?_, fun name => ?_, ?_⟩⟩
  · rintro ⟨c, hc⟩
    exact exists_ofSchema_of_reordered h hc
  · rintro ⟨c', hc'⟩
    exact exists_ofSchema_of_reordered h.symm hc'
  · obtain ⟨t, ht⟩ := exists_type? hc hname
    exact ⟨t, ht, (type?_eq_of_reordered h hc hc').symm.trans ht⟩
  · exact renderBuilder_eq_of_reordered h hc hc'
  · exact renderCommonTypes_eq_of_reordered h hc hc'

/-- The types of `beings`, the last one first. -/
def beingsReversed : Schema where
  types := beings.types.reverse
  roots := .unset
  distinct := by decide

theorem ofSchema_reordered_beings : beings.Reordered beingsReversed ∧
    (∃ c, ofSchema beings ageless = .ok c) ∧
    ((∃ c, ofSchema beings ageless = .ok c) ↔ ∃ c', ofSchema beingsReversed ageless = .ok c') ∧
    ∀ c c', ofSchema beings ageless = .ok c → ofSchema beingsReversed ageless = .ok c' →
      (∀ name ∈ beings.compositeNames, ∃ t, c.type? name = .ok t ∧ c'.type? name = .ok t) ∧
      (∀ name, c.renderBuilder name = c'.renderBuilder name) ∧
      c.renderCommonTypes = c'.renderCommonTypes := by
  have hreordered : beings.Reordered beingsReversed :=
    ⟨(List.reverse_perm _).symm, by decide, rfl⟩
  exact ⟨hreordered, exists_ofSchema_beings, ofSchema_reordered hreordered⟩

end Catalog

end TypedQuery
