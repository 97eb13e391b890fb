-- SUMMARY: Lineages have no cycles, whatever casts they are made from, so types are modelled bottom-up.
import Mathlib.Order.WellFounded
import TypedQuery.Model.Outline

/-!
# Acyclic lineages

A schema can say that interfaces implement each other or that unions contain each other. A lineage
keeps no cast that points into such a cycle: its two graphs are inverse to each other, and neither
leads from a type back to itself. Modelling the super types of a type first therefore comes to an
end.
-/
namespace TypedQuery

namespace Lineage

variable {raw : NameGraph} {a b c : String}

theorem edge_downcasts_iff : (ofEdges raw).downcasts.Edge a c ↔
    raw.Edge a c ∧ ∀ b, raw.Edge a b → ¬ raw.Path b c :=
  NameGraph.edge_reduce

theorem edge_upcasts_iff : (ofEdges raw).upcasts.Edge b a ↔ (ofEdges raw).downcasts.Edge a b :=
  NameGraph.edge_inverse

theorem path_upcasts_iff : (ofEdges raw).upcasts.Path b a ↔ (ofEdges raw).downcasts.Path a b :=
  NameGraph.path_inverse

theorem mem_descendants {l : Lineage} : b ∈ l.descendants a ↔ l.downcasts.Path a b :=
  NameGraph.mem_reachable

theorem mem_ancestors {l : Lineage} : a ∈ l.ancestors b ↔ l.upcasts.Path b a :=
  NameGraph.mem_reachable

theorem mem_descendants_iff_mem_ancestors :
    b ∈ (ofEdges raw).descendants a ↔ a ∈ (ofEdges raw).ancestors b := by
  rw [mem_descendants, mem_ancestors, path_upcasts_iff]

theorem not_mem_descendants_self : ¬ a ∈ (ofEdges raw).descendants a :=
  fun h => NameGraph.acyclic_reduce a (mem_descendants.1 h)

theorem not_mem_ancestors_self : ¬ a ∈ (ofEdges raw).ancestors a :=
  fun h => (ofEdges raw).acyclic a (mem_ancestors.1 h)

end Lineage

/-! ## Types under construction -/

namespace Outline

variable {o : Outline}

/-- The names of the types that are being modelled at one moment, innermost first: a type, then a
super type of it, a super type of that, and so on. -/
inductive UnderConstruction (o : Outline) : List String → Prop
  | start (name : String) : UnderConstruction o [name]
  | superType {name superName : String} {below : List String} :
      UnderConstruction o (name :: below) → superName ∈ o.superNames name →
      UnderConstruction o (superName :: name :: below)

/-- The innermost type is an ancestor of every other type under construction. -/
theorem UnderConstruction.path {name x : String} {below : List String}
    (h : o.UnderConstruction (name :: below)) (hx : x ∈ below) : o.lineage.upcasts.Path x name := by
  -- The induction is on how the stack was built up, hence for every stack.
  generalize hstack : name :: below = stack at h
  induction h generalizing name below x with
  | start first =>
    cases hstack
    cases hx
  | @superType first superName rest _ hsuper ih =>
    cases hstack
    have hedge : o.lineage.upcasts.Edge first superName := edge_of_mem_superNames hsuper
    rcases List.mem_cons.1 hx with rfl | hx
    · exact .single hedge
    · exact .tail (ih hx rfl) hedge

/-- No type is met again while it is under construction. -/
theorem UnderConstruction.nodup {stack : List String} (h : o.UnderConstruction stack) :
    stack.Nodup := by
  induction h with
  | start name => simp
  | @superType name superName below hbelow hsuper ih =>
    refine List.nodup_cons.2 ⟨?_, ih⟩
    intro hmem
    exact o.lineage.acyclic superName ((UnderConstruction.superType hbelow hsuper).path hmem)

/-- Going from types to super types comes to an end. -/
theorem wellFounded_superNames (o : Outline) :
    WellFounded fun superName name => superName ∈ o.superNames name := by
  refine Subrelation.wf ?_ (measure fun name => (o.lineage.ancestors name).size).wf
  intro superName name hsuper
  exact size_ancestors_lt hsuper

end Outline

/-! ## The lineage of arbitrary casts -/

namespace Lineage

/-- Whatever casts a lineage is made from: it holds the casts that no path over another target
replaces, has no cycle, and reads the same in both directions. Of whatever schema it is the lineage,
no type is met again among its own super types while these are modelled, and the super types run
out. -/
theorem ofEdges_acyclic_and_inverse (raw : NameGraph) :
    (ofEdges raw).downcasts.Acyclic ∧
    (∀ a c, (ofEdges raw).downcasts.Edge a c ↔
      raw.Edge a c ∧ ∀ b, raw.Edge a b → ¬ raw.Path b c) ∧
    (∀ a b, (ofEdges raw).downcasts.Edge a b ↔ (ofEdges raw).upcasts.Edge b a) ∧
    (∀ a b, b ∈ (ofEdges raw).descendants a ↔ a ∈ (ofEdges raw).ancestors b) ∧
    (∀ a, ¬ a ∈ (ofEdges raw).descendants a ∧ ¬ a ∈ (ofEdges raw).ancestors a) ∧
    ∀ (s : Schema) (settings : Settings),
      (WellFounded fun superName name =>
        superName ∈ (Outline.ofSchema s settings).superNames name) ∧
      ∀ stack, (Outline.ofSchema s settings).UnderConstruction stack → stack.Nodup := by
  refine ⟨NameGraph.acyclic_reduce, ?_, ?_, ?_, ?_, ?_⟩
  · intro a c
    exact edge_downcasts_iff
  · intro a b
    exact edge_upcasts_iff.symm
  · intro a b
    exact mem_descendants_iff_mem_ancestors
  · intro a
    exact ⟨not_mem_descendants_self, not_mem_ancestors_self⟩
  · intro s settings
    refine ⟨Outline.wellFounded_superNames _, ?_⟩
    intro stack h
    exact h.nodup

end Lineage

end TypedQuery
