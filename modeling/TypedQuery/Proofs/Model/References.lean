-- SUMMARY: Whatever a modelled type lists refers to types that the schema has.
import TypedQuery.Proofs.Model.Inheritance

/-!
# References of listed fields

Modelling looks up the type and the arguments of the fields that a type does not inherit, and of no
others. An inherited field is found by search in a super type that lists it as well, so that it was
looked up there. This holds of every schema, regular or not.
-/
namespace TypedQuery

/-- The schema has the types that the type and the arguments of a field refer to. -/
structure Schema.Knows (s : Schema) (d : FieldDef) : Prop where
  type : (s.get? d.type.base).isSome
  arguments : ∀ a ∈ d.arguments, (s.get? a.type.base).isSome

namespace Outline

variable {o : Outline} {t u : SelectableType} {n : String} {d : FieldDef}

theorem knows_of_fieldModel {name : String} {f : SelectableField}
    (h : o.fieldModel name d = .ok f) : o.schema.Knows d := by
  obtain ⟨target, hget, harguments, _⟩ := fieldModel_eq_ok_iff.1 h
  exact ⟨by rw [hget]; rfl, harguments⟩

/-- What the search for an inherited field finds, a member of the family lists. -/
theorem Modelled.exists_listed_of_inheritedFrom? (h : o.Modelled t)
    (hfound : inheritedFrom? o.schema n t = some d) :
    ∃ u ∈ t.family, d ∈ o.schema.listedFields u.name := by
  induction t using SelectableType.induction_superTypes with
  | step t ih =>
    have hunion := not_isUnion_of_inheritedFrom? hfound
    rw [inheritedFrom?_of_isSome h.known hunion] at hfound
    split at hfound
    · refine ⟨t, SelectableType.mem_family_self, ?_⟩
      rw [Schema.listedFields_of_not_isUnion hunion]
      exact List.mem_of_find?_eq_some hfound
    · obtain ⟨u, hu, hfound⟩ := List.exists_of_findSome?_eq_some hfound
      obtain ⟨v, hv, hlisted⟩ := ih u hu (h.modelled_of_mem_superTypes hu) hfound
      refine ⟨v, ?_, hlisted⟩
      rw [SelectableType.family_eq]
      exact List.mem_cons_of_mem _ (List.mem_flatMap.2 ⟨u, hu, hv⟩)

/-- The schema has all types that the fields of a modelled type, and of its super types, refer to. -/
theorem Modelled.knows_of_mem_family (h : o.Modelled t) (hu : u ∈ t.family)
    (hd : d ∈ o.schema.listedFields u.name) : o.schema.Knows d := by
  induction t using SelectableType.induction_superTypes generalizing u d with
  | step t ih =>
    rw [SelectableType.family_eq] at hu
    rcases List.mem_cons.1 hu with rfl | hu
    · cases hown : isInherited o.schema u.superTypes d with
      | false =>
        obtain ⟨f, _, hmodel⟩ := h.exists_declared hd hown
        exact knows_of_fieldModel hmodel
      | true =>
        obtain ⟨v, hv, hfound⟩ := List.exists_of_findSome?_eq_some (isInherited_iff.1 hown)
        have hmodelled := h.modelled_of_mem_superTypes hv
        obtain ⟨w, hw, hlisted⟩ := hmodelled.exists_listed_of_inheritedFrom? hfound
        exact ih v hv hmodelled hw hlisted
    · obtain ⟨v, hv, hu⟩ := List.mem_flatMap.1 hu
      exact ih v hv (h.modelled_of_mem_superTypes hv) hu hd

theorem Modelled.knows_of_listed (h : o.Modelled t) (hd : d ∈ o.schema.listedFields t.name) :
    o.schema.Knows d :=
  h.knows_of_mem_family SelectableType.mem_family_self hd

end Outline

end TypedQuery
