-- SUMMARY: Lineage, models, common types and associated types have the same subtypes.
import TypedQuery.Proofs.Artifact.CommonTypes
import TypedQuery.Proofs.Builder.Fields
import TypedQuery.Proofs.Model.Subtypes

/-!
# Views of subtypes

A schema without cycles spells out which types are below which. The lineage of its catalog, the models
of its types, the helpers in the text of the common types, and the types that are associated with a
field all start from the immediate casts that the lineage keeps, and all come to the same types:
`Catalog.subtypes_agree`.
-/
namespace TypedQuery

namespace CommonTypes.Helpers

variable {s : Schema}

/-- A walk down the lineage lists what is below a type. -/
theorem lists_walk_downcasts (h : s.Acyclic) : Lists (Lineage.ofSchema s).downcasts.walk s.Below := by
  apply NameGraph.acyclic_reduce.lists_walk.congr
  intro a b
  exact Lineage.path_downcasts_ofSchema h

/-- The type of forms lists what is below a type. -/
theorem lists_forms (h : s.Acyclic) :
    Lists (ofLineage (.ofSchema s)).implementationType.forms s.Below := by
  have heval : (ofLineage (.ofSchema s)).implementationType.forms =
      (Lineage.ofSchema s).downcasts.walk := by
    funext depth name
    exact ImplementationType.forms_ofGraph depth name
  rw [heval]
  exact lists_walk_downcasts h

/-- The function for casts down lists what is below a type. -/
theorem lists_downcastTypes (h : s.Acyclic) :
    Lists (ofLineage (.ofSchema s)).downcastTypes.names s.Below := by
  have heval : (ofLineage (.ofSchema s)).downcastTypes.names =
      (Lineage.ofSchema s).downcasts.walk := by
    funext depth name
    exact CastFunction.names_ofGraph depth name
  rw [heval]
  exact lists_walk_downcasts h

/-- The function for casts up lists what a type is below. -/
theorem lists_upcastTypes (h : s.Acyclic) :
    Lists (ofLineage (.ofSchema s)).upcastTypes.names fun b a => s.Below a b := by
  have heval : (ofLineage (.ofSchema s)).upcastTypes.names = (Lineage.ofSchema s).upcasts.walk := by
    funext depth name
    exact CastFunction.names_ofGraph depth name
  rw [heval]
  apply (Lineage.ofSchema s).acyclic.lists_walk.congr
  intro b a
  exact Lineage.path_upcasts_ofSchema h

end CommonTypes.Helpers

namespace Catalog

open CommonTypes

variable {c : Catalog} {s : Schema} {settings : Settings} {f : SelectableField} {a b : String}
  {t : SelectableType}

theorem mem_descendants_iff (h : s.Acyclic) (hc : ofSchema s settings = .ok c) :
    b ∈ c.lineage.descendants a ↔ s.Below a b := by
  rw [lineage_eq hc, schema_eq hc, Lineage.mem_descendants, Lineage.path_downcasts_ofSchema h]

theorem mem_ancestors_iff (h : s.Acyclic) (hc : ofSchema s settings = .ok c) :
    a ∈ c.lineage.ancestors b ↔ s.Below a b := by
  rw [lineage_eq hc, schema_eq hc, Lineage.mem_ancestors, Lineage.path_upcasts_ofSchema h]

/-- The super types above a type that was modelled are the types that it is below. -/
theorem exists_superType_iff (h : s.Acyclic) (hinterfaces : s.ImplementsInterfaces)
    (hc : ofSchema s settings = .ok c) (ht : c.type? b = .ok t) (hcategory : t.category = .object) :
    (∃ u ∈ t.superTypes.flatMap SelectableType.family, u.name = a) ↔ s.Below a b := by
  obtain ⟨rfl, hmodel⟩ := typeOf_of_type? hc ht
  rw [(ofSchema_eq_ok hc).1] at hmodel
  rw [Outline.exists_superType_iff hinterfaces (Outline.typeOf_eq_ok hmodel).2 hcategory,
    Lineage.path_upcasts_ofSchema h]

/-- A field without a connection is associated with its target and everything below that. -/
theorem associatedTypes_eq (h : s.Acyclic) (hc : ofSchema s settings = .ok c)
    (htarget : f.target = some a) (hconnection : f.connection = none) :
    ∃ below, c.associatedTypes f = a :: below ∧ (a :: below).Nodup ∧
      ∀ b, b ∈ below ↔ s.Below a b := by
  have hmem (b : String) : b ∈ (c.lineage.descendants a).toList ↔ s.Below a b :=
    mem_descendants_iff h hc
  refine ⟨(c.lineage.descendants a).toList, ?_, ?_, hmem⟩
  · rw [associatedTypes, htarget, hconnection]
  · refine List.nodup_cons.2 ⟨?_, (c.lineage.descendants a).nodup⟩
    intro hself
    exact h a ((hmem a).1 hself)

/-- The types below a type are the same wherever one looks for them, if no type is below itself and
only interfaces are implemented. They are the descendants in the lineage; the types of which it is an
ancestor; those whose models have it above them; those that the text of the common types lists for it,
in the type of forms and in the functions for casts, all of which come to an end; and those that are
associated with a field besides its target. -/
theorem subtypes_agree (h : s.Acyclic) (hinterfaces : s.ImplementsInterfaces)
    (hc : ofSchema s settings = .ok c) :
    (∀ a b, b ∈ c.lineage.descendants a ↔ s.Below a b) ∧
    (∀ a b, a ∈ c.lineage.ancestors b ↔ s.Below a b) ∧
    (∀ a b t, c.type? b = .ok t → t.category = .object →
      ((∃ u ∈ t.superTypes.flatMap SelectableType.family, u.name = a) ↔ s.Below a b)) ∧
    (∃ text helpers, c.renderCommonTypes = .ok text ∧
      text.toList = layout settings.indent.toList false
        ((Helpers.lines helpers).flatMap Line.strokes) ∧
      Lists helpers.implementationType.forms s.Below ∧
      Lists helpers.downcastTypes.names s.Below ∧
      Lists helpers.upcastTypes.names fun b a => s.Below a b) ∧
    ∀ f a, f.target = some a → f.connection = none →
      ∃ below, c.associatedTypes f = a :: below ∧ (a :: below).Nodup ∧
        ∀ b, b ∈ below ↔ s.Below a b := by
  refine ⟨fun a b => ?_, fun a b => ?_, fun a b t ht hcategory => ?_, ?_,
    fun f a htarget hconnection => ?_⟩
  · exact mem_descendants_iff h hc
  · exact mem_ancestors_iff h hc
  · exact exists_superType_iff h hinterfaces hc ht hcategory
  · obtain ⟨text, hrender, hlines⟩ := Artifact.render_commonTypes c.lineage c.schema c.settings
    rw [lineage_eq hc, schema_eq hc, settings_eq hc] at hlines
    exact ⟨text, .ofLineage (.ofSchema s), hrender, hlines, Helpers.lists_forms h,
      Helpers.lists_downcastTypes h, Helpers.lists_upcastTypes h⟩
  · exact associatedTypes_eq h hc htarget hconnection

/-- `Person` implements `Node` in the schema, but the lineage only has the way over other interfaces. -/
theorem subtypes_agree_of_beings : beings.Acyclic ∧ beings.ImplementsInterfaces ∧
    ∃ c t, ofSchema beings ageless = .ok c ∧ c.type? "Person" = .ok t ∧ t.category = .object ∧
      "Person" ∈ c.lineage.descendants "Node" ∧ "Node" ∈ c.lineage.ancestors "Person" ∧
      ∃ u ∈ t.superTypes.flatMap SelectableType.family, u.name = "Node" := by
  have hacyclic : beings.Acyclic := by decide +kernel
  have hinterfaces : beings.ImplementsInterfaces := by decide
  obtain ⟨c, hc⟩ := exists_ofSchema_beings
  have hperson : "Person" ∈ beings.compositeNames := by decide
  obtain ⟨t, ht⟩ := exists_type? hc hperson
  have hcategory : t.category = .object := by
    obtain ⟨hname, hmodel⟩ := typeOf_of_type? hc ht
    rw [(Outline.typeOf_eq_ok hmodel).2.category, (ofSchema_eq_ok hc).1, hname]
    decide
  have hstep : beings.Step "Node" "Person" := Schema.edge_rawEdges_iff_step.1 (by decide)
  have hbelow : beings.Below "Node" "Person" := .single hstep
  obtain ⟨hdescendants, hancestors, hsupers, _⟩ := subtypes_agree hacyclic hinterfaces hc
  exact ⟨hacyclic, hinterfaces, c, t, hc, ht, hcategory, (hdescendants _ _).2 hbelow,
    (hancestors _ _).2 hbelow, (hsupers _ _ t ht hcategory).2 hbelow⟩

end Catalog

end TypedQuery
