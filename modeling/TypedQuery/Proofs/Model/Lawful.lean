-- SUMMARY: A selectable type can be made if and only if it keeps the rules on such types.
import TypedQuery.Proofs.Model.Family
import TypedQuery.Proofs.Model.Rules

/-!
# Lawful types

`SelectableType.Lawful` lists the rules on selectable types, without regard to the order in which they are
checked. `exists_make?_iff` says that a type is refused for breaking one of them and for no other reason.
`makes_iff_lawful` adds what a type that was made is like, its inherited fields included.
-/
namespace TypedQuery

/-- The fields that a category asks for are found, each of the category it must have. -/
def TypeCategory.MetBy (field? : String → Option SelectableField) : TypeCategory → Prop
  | .object => True
  | .connection => ∃ f, field? "edges" = some f ∧ f.category = .list
  | .edge =>
    (∃ f, field? "node" = some f ∧ f.category = .reference) ∧
      ∃ f, field? "cursor" = some f ∧ f.category = .scalar

namespace SelectableType

variable {name : String} {category : TypeCategory} {superTypes : List SelectableType}
  {declared : List SelectableField} {t u : SelectableType} {f : SelectableField}

/-- The rules on a type: its fields are complete and no two of them have one name, it has the fields that
its category asks for, and it has no super types unless it is an object type. -/
structure Lawful (category : TypeCategory) (superTypes : List SelectableType)
    (declared : List SelectableField) : Prop where
  complete : ∀ f ∈ declared, f.Complete
  distinct : (declared.map (·.name)).Nodup
  meets : category.MetBy fun n => declared.find? (·.name = n)
  superTypes : category ≠ .object → superTypes = []

/-! ## Making types -/

theorem requiredFields_iff_metBy :
    (∀ r ∈ requiredFields category, requireField name declared r.1 r.2 = .ok ()) ↔
      category.MetBy fun n => declared.find? (·.name = n) := by
  simp only [requireField_eq_ok_iff]
  cases category <;> simp [requiredFields, TypeCategory.MetBy]

/-- A type can be made if and only if it keeps the rules. -/
theorem exists_make?_iff :
    (∃ t, make? name category superTypes declared = .ok t) ↔ Lawful category superTypes declared := by
  simp only [make?_eq_ok_iff, requiredFields_iff_metBy, checkFields_eq_ok_iff]
  constructor
  · rintro ⟨t, ⟨hcomplete, hdistinct, _⟩, hmeets, hsupers, _⟩
    exact ⟨hcomplete, hdistinct, hmeets, hsupers⟩
  · rintro ⟨hcomplete, hdistinct, hmeets, hsupers⟩
    exact ⟨_, ⟨hcomplete, hdistinct, by simp⟩, hmeets, hsupers, rfl⟩

/-! ## Types that were made -/

/-- The type was made, and so was every type above it. -/
inductive Made : SelectableType → Prop
  | make {name : String} {category : TypeCategory} {superTypes : List SelectableType}
      {declared : List SelectableField} {t : SelectableType} : (∀ u ∈ superTypes, Made u) →
      make? name category superTypes declared = .ok t → Made t

theorem Made.complete_of_mem_family (h : Made t) (hu : u ∈ t.family) (hf : f ∈ u.declared) :
    f.Complete := by
  induction h with
  | @make name category superTypes declared t _ hmake ih =>
    obtain ⟨hfields, _, _, rfl⟩ := make?_eq_ok_iff.1 hmake
    rw [family_eq] at hu
    rcases List.mem_cons.1 hu with rfl | hu
    · exact (checkFields_eq_ok_iff.1 hfields).1 f hf
    · obtain ⟨v, hv, hu⟩ := List.mem_flatMap.1 hu
      exact ih v hv hu

/-- The fields of a type are complete, the inherited ones too. -/
theorem Made.complete (h : Made t) (hf : f ∈ t.fields) : f.Complete := by
  -- An inherited field comes from some member of the family, and that member was made too.
  have hfield : t.field? f.name = some f := field?_eq_some_iff.2 ⟨hf, rfl⟩
  rw [field?_eq] at hfield
  obtain ⟨u, hu, hdeclared⟩ := List.mem_flatMap.1 (List.mem_of_find?_eq_some hfield)
  exact h.complete_of_mem_family hu hdeclared

/-- A declared field is a field of the type, whatever the type inherits. -/
theorem field?_of_declared {n : String} (hfind : t.declared.find? (·.name = n) = some f) :
    t.field? n = some f := by
  rw [field?_eq_or, hfind, Option.some_or]

theorem metBy_field? (h : category.MetBy fun n => t.declared.find? (·.name = n)) :
    category.MetBy t.field? := by
  cases category with
  | object => trivial
  | connection =>
    obtain ⟨edges, hedges, hlist⟩ := h
    exact ⟨edges, field?_of_declared hedges, hlist⟩
  | edge =>
    obtain ⟨⟨node, hnode, hreference⟩, cursor, hcursor, hscalar⟩ := h
    exact ⟨⟨node, field?_of_declared hnode, hreference⟩, cursor, field?_of_declared hcursor, hscalar⟩

/-- A type can be made of some declarations if and only if it keeps the rules. It then declares what was
given in the order in which it was given, and all its fields together, the inherited ones included, have
distinct names and are what its category asks for. If the types above it were made as well, each of these
fields is complete. -/
theorem makes_iff_lawful (name : String) (category : TypeCategory) (superTypes : List SelectableType)
    (decls : List FieldDecl) :
    ((∃ t, make? name category superTypes (decls.map FieldDecl.field) = .ok t) ↔
      Lawful category superTypes (decls.map FieldDecl.field)) ∧
    ∀ t, make? name category superTypes (decls.map FieldDecl.field) = .ok t →
      t = ⟨name, category, superTypes, decls.map FieldDecl.field⟩ ∧
      (t.fields.map (·.name)).Nodup ∧ t.category.MetBy t.field? ∧
      ((∀ u ∈ superTypes, Made u) → ∀ f ∈ t.fields, f.Complete) := by
  refine ⟨exists_make?_iff, fun t hmake => ?_⟩
  have hlawful := exists_make?_iff.1 ⟨t, hmake⟩
  obtain ⟨_, _, _, ht⟩ := make?_eq_ok_iff.1 hmake
  refine ⟨ht, t.nodup_fields, ?_, fun hsupers f => (Made.make hsupers hmake).complete⟩
  apply metBy_field?
  rw [ht]
  exact hlawful.meets

/-- The declarations of the edges of a connection. -/
def edgeDecls : List FieldDecl :=
  [.full { name := "node", category := .reference, target := some "Employee" }, .scalar "cursor"]

theorem makes_iff_lawful_edge :
    Lawful .edge [] (edgeDecls.map FieldDecl.field) ∧
    ∃ t, make? "EmployeeEdge" .edge [] (edgeDecls.map FieldDecl.field) = .ok t ∧
      t.declared.map (·.name) = ["node", "cursor"] ∧ TypeCategory.edge.MetBy t.field? := by
  obtain ⟨hiff, hmade⟩ := makes_iff_lawful "EmployeeEdge" .edge [] edgeDecls
  have hmake : make? "EmployeeEdge" .edge [] (edgeDecls.map FieldDecl.field) =
      .ok ⟨"EmployeeEdge", .edge, [], edgeDecls.map FieldDecl.field⟩ := rfl
  exact ⟨hiff.1 ⟨_, hmake⟩, _, hmake, rfl, (hmade _ hmake).2.2.1⟩

end SelectableType

end TypedQuery
