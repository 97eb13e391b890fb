-- SUMMARY: The fields of a union are those that all its members list alike.
import Mathlib
import TypedQuery.Proofs.Model.Preorder
import TypedQuery.Proofs.Model.Regrouped

/-!
# Fields that members share

A union lists no fields. What can be selected on it is computed from what its members list, before any of
them is modelled: `Schema.sharedFields`. A member need not declare such a field, it may inherit it, but
walking it finds the same field: `Outline.Modelled.mem_fields_of_member`. `Catalog.union_fields_shared` puts
this together, and adds that the order of the members decides about nothing but the order of the fields.
-/
namespace TypedQuery

namespace Outline

namespace Modelled

variable {o : Outline} {t u : SelectableType} {d : UnionDef} {f : SelectableField}

/-- The fields of a union are the models of those that its members share. -/
theorem fields_of_union (h : o.Modelled t) (hlineage : o.lineage = .ofSchema o.schema)
    (hd : o.schema.get? t.name = some (.union d)) :
    t.fields = t.declared ∧
      List.Forall₂ (fun g f => o.fieldModel t.name g = .ok f) (o.schema.sharedFields d.members)
        t.fields := by
  have hunion : o.schema.isUnion t.name = true := Schema.isUnion_iff.2 ⟨d, hd⟩
  -- Whatever is above a union is a union, and declares nothing because a member of it has no fields
  -- itself.
  have habove : (t.superTypes.flatMap SelectableType.family).flatMap (·.declared) = [] := by
    rw [List.flatMap_eq_nil_iff]
    intro u hu
    exact h.declared_above hlineage (Schema.ownInterfaces_of_isUnion hunion)
      (Schema.ownFields_of_isUnion hunion) hu
  have hfields : t.fields = t.declared := by
    rw [SelectableType.fields_eq, SelectableType.family_eq, List.flatMap_cons, habove, List.append_nil,
      firstOfEach_of_nodup h.distinct]
  have hlisted : (o.schema.listedFields t.name).filter (!isInherited o.schema t.superTypes ·) =
      o.schema.sharedFields d.members := by
    rw [List.filter_eq_self.2, Schema.listedFields_of_union hd]
    intro g _
    rw [h.not_isInherited_of_isUnion hlineage hunion]
    rfl
  have hdeclared := h.declared
  rw [hlisted] at hdeclared
  exact ⟨hfields, hfields ▸ hdeclared⟩

/-- A member has every field of a union, whether it declares or inherits it. -/
theorem mem_fields_of_member (ht : o.Modelled t) (hu : o.Modelled u) (ho : o.Regular)
    (hd : o.schema.get? t.name = some (.union d)) (hmember : u.name ∈ d.members)
    (hunion : o.schema.isUnion u.name = false) (hf : f ∈ t.fields) : f ∈ u.fields := by
  obtain ⟨g, hg, hmodel⟩ := exists_of_mem_right (ht.fields_of_union ho.lineage hd).2 hf
  have hown : g ∈ o.schema.listedFields u.name := by
    rw [Schema.listedFields_of_not_isUnion hunion]
    exact (Schema.mem_sharedFields_iff.1 hg).2 _ hmember
  -- The field that the walk finds is modelled for the member, not for the union, which makes no
  -- difference.
  obtain ⟨other, hother, hsame⟩ := hu.exists_field_of_listed ho hown
  rw [fieldModel_of_fieldModel hmodel] at hsame
  cases hsame
  exact (SelectableType.field?_eq_some_iff.1 hother).1

end Modelled

end Outline

namespace Catalog

variable {c : Catalog} {s s' : Schema} {settings : Settings} {name : String} {d : UnionDef}

/-- A union has the same fields in regrouped schemas, in some order. -/
theorem exists_type?_of_regrouped (h : s.Regrouped s') (hs : s.Regular) (hc : ofSchema s settings = .ok c)
    (hd : s.get? name = some (.union d)) {t : SelectableType} (ht : c.type? name = .ok t) :
    ∃ c' t', ofSchema s' settings = .ok c' ∧ c'.type? name = .ok t' ∧ t'.fields.Perm t.fields := by
  obtain ⟨c', hc'⟩ := exists_ofSchema_of_regrouped h hs hc
  obtain ⟨rfl, hmodel⟩ := typeOf_of_type? hc ht
  obtain ⟨t', hmodel', hcounterpart⟩ :=
    Outline.exists_counterpart h hs t.name t ((ofSchema_eq_ok hc).1 ▸ hmodel)
  rw [← (ofSchema_eq_ok hc').1] at hmodel'
  have hname' : t'.name = t.name := (Outline.typeOf_eq_ok hmodel').1
  obtain ⟨e, he, _⟩ := h.exists_union hd
  have hcomposite : t.name ∈ s'.compositeNames := Schema.mem_compositeNames_iff.2 ⟨_, he, rfl⟩
  refine ⟨c', t', hc', type?_of_typeOf hc' hcomposite hmodel', ?_⟩
  have hfields : t.fields = t.declared :=
    ((Outline.typeOf_eq_ok hmodel).2.fields_of_union (lineage_eq hc) ((schema_eq hc).symm ▸ hd)).1
  have hfields' : t'.fields = t'.declared :=
    ((Outline.typeOf_eq_ok hmodel').2.fields_of_union (lineage_eq hc')
      (by rw [schema_eq hc', hname', he])).1
  rw [hfields, hfields']
  exact hcounterpart.declared.symm

/-- The fields of a union are the models of the fields that all its members list alike, in the order of the
first member. Every member that is an object or an interface has each of them, declared or inherited. If
unions list their members in another order, a union has the same fields in some order. -/
theorem union_fields_shared (hs : s.Regular) (hc : ofSchema s settings = .ok c)
    (hd : s.get? name = some (.union d)) :
    ∃ t, c.type? name = .ok t ∧
      List.Forall₂ (fun g f => c.fieldModel name g = .ok f) (s.sharedFields d.members) t.fields ∧
      (∀ m ∈ d.members, ∀ e, s.get? m = some e → e.kind = .object ∨ e.kind = .interface →
        ∃ u, c.type? m = .ok u ∧ ∀ f ∈ t.fields, u.field? f.name = some f) ∧
      ∀ s', s.Regrouped s' → ∃ c' t', ofSchema s' settings = .ok c' ∧ c'.type? name = .ok t' ∧
        t'.fields.Perm t.fields := by
  have hcomposite : name ∈ s.compositeNames := Schema.mem_compositeNames_iff.2 ⟨_, hd, rfl⟩
  obtain ⟨t, ht⟩ := exists_type? hc hcomposite
  obtain ⟨rfl, hmodel⟩ := typeOf_of_type? hc ht
  have hmodelled := (Outline.typeOf_eq_ok hmodel).2
  have hunion : c.schema.get? t.name = some (.union d) := (schema_eq hc).symm ▸ hd
  refine ⟨t, ht, ?_, ?_, fun s' h => exists_type?_of_regrouped h hs hc hd ht⟩
  · have hfields := (hmodelled.fields_of_union (lineage_eq hc) hunion).2
    rwa [schema_eq hc] at hfields
  · intro m hm e he hkind
    have hselectable : m ∈ s.compositeNames := by
      refine Schema.mem_compositeNames_iff.2 ⟨e, he, ?_⟩
      cases e <;> simp_all [TypeDef.kind, TypeDef.isComposite]
    obtain ⟨u, hu⟩ := exists_type? hc hselectable
    obtain ⟨rfl, hmodel'⟩ := typeOf_of_type? hc hu
    have hnot : c.schema.isUnion u.name = false := by
      rw [schema_eq hc]
      cases e <;> simp_all [Schema.isUnion, TypeDef.kind]
    refine ⟨u, hu, fun f hf => SelectableType.field?_eq_some_iff.2 ⟨?_, rfl⟩⟩
    exact hmodelled.mem_fields_of_member (Outline.typeOf_eq_ok hmodel').2 (regular_of_ofSchema hc hs)
      hunion hm hnot hf

/-- Workers are persons, which are nodes, or robots, which list the same fields the other way round. -/
def workers (members : List String) : Schema where
  types := [
    .interface ⟨"Node", [], [⟨"id", .named "ID", []⟩, ⟨"name", .named "String", []⟩]⟩,
    .object ⟨"Person", ["Node"], [⟨"id", .named "ID", []⟩, ⟨"name", .named "String", []⟩,
      ⟨"age", .named "Int", []⟩]⟩,
    .object ⟨"Robot", [], [⟨"name", .named "String", []⟩, ⟨"id", .named "ID", []⟩]⟩,
    .union ⟨"Worker", members⟩, .scalar "ID", .scalar "String", .scalar "Int"]
  roots := .unset
  distinct := by simp [TypeDef.name]

theorem union_fields_shared_workers : (workers ["Person", "Robot"]).Regular ∧
    (workers ["Person", "Robot"]).Regrouped (workers ["Robot", "Person"]) ∧
    ∃ c t u c' t', ofSchema (workers ["Person", "Robot"]) {} = .ok c ∧
      c.type? "Worker" = .ok t ∧ t.fields.map (·.name) = ["id", "name"] ∧
      c.type? "Person" = .ok u ∧ (∀ f ∈ t.fields, u.field? f.name = some f) ∧
      ofSchema (workers ["Robot", "Person"]) {} = .ok c' ∧ c'.type? "Worker" = .ok t' ∧
      t'.fields.Perm t.fields := by
  have hregular : (workers ["Person", "Robot"]).Regular := ⟨by decide, by decide⟩
  have hregrouped : (workers ["Person", "Robot"]).Regrouped (workers ["Robot", "Person"]) :=
    ⟨.cons (.same _) (.cons (.same _) (.cons (.same _) (.cons (.union (.swap ..))
      (.cons (.same _) (.cons (.same _) (.cons (.same _) .nil)))))), rfl⟩
  obtain ⟨c, hc⟩ : ∃ c, ofSchema (workers ["Person", "Robot"]) {} = .ok c := exists_of_isOk (by cbv)
  have hunion : (workers ["Person", "Robot"]).get? "Worker" =
      some (.union ⟨"Worker", ["Person", "Robot"]⟩) := rfl
  obtain ⟨t, ht, hfields, hmembers, hregroup⟩ := union_fields_shared hregular hc hunion
  obtain ⟨u, hu, hshared⟩ := hmembers "Person" (by decide) _ rfl (.inl rfl)
  obtain ⟨c', t', hc', ht', hperm⟩ := hregroup _ hregrouped
  refine ⟨hregular, hregrouped, c, t, u, c', t', hc, ht, ?_, hu, hshared, hc', ht', hperm⟩
  rw [← map_eq_map_of_forall₂ hfields fun g _ f hmodel => (Outline.name_of_fieldModel hmodel).symm]
  decide

end Catalog

end TypedQuery
