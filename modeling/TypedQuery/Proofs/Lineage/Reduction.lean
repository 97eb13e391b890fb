-- SUMMARY: The casts that a lineage keeps are the transitive reduction of those it is made from.
import Mathlib.Logic.Relation
import Mathlib.Order.Bounds.Basic
import TypedQuery.Lineage

/-!
# Transitive reduction

Of casts without a cycle, a lineage keeps exactly those that no longer path replaces. The kept edges
reach what the given ones reach, and every edge set that does so contains them.
-/
namespace TypedQuery

namespace NameGraph

variable {g : NameGraph} {a b c : String}

/-- The edges of a graph. -/
def edges (g : NameGraph) : Set (String × String) := {e | g.Edge e.1 e.2}

/-- Along the edges of the set one gets from each name to the same names as in the graph. -/
def Spans (set : Set (String × String)) (g : NameGraph) : Prop :=
  ∀ a b, Relation.ReflTransGen (fun x y => (x, y) ∈ set) a b ↔ Relation.ReflTransGen g.Edge a b

/-- A kept edge cannot be replaced by a path over another name. -/
theorem not_path_over_of_edge_reduce (hedge : g.reduce.Edge a c) (hfirst : g.Path a b) :
    ¬ g.Path b c := by
  intro hsecond
  obtain ⟨_, hkept⟩ := edge_reduce.1 hedge
  rcases Path.head hfirst with hstep | ⟨x, hstep, hrest⟩
  · exact hkept b hstep hsecond
  · exact hkept x hstep (hrest.trans hsecond)

/-- Reduction keeps what can be reached. The induction is on how much less can be reached from the
end of the path than from its start: a path over a name in between falls into two shorter ones, and
a path that has no name in between is an edge that is kept. -/
theorem Acyclic.path_reduce {a c : String} (h : g.Acyclic) (hpath : g.Path a c) :
    g.reduce.Path a c := by
  by_cases hover : ∃ b, g.Path a b ∧ g.Path b c
  · obtain ⟨b, hfirst, hsecond⟩ := hover
    have hab := h.size_reachable_lt hfirst
    have hbc := h.size_reachable_lt hsecond
    exact (h.path_reduce hfirst).trans (h.path_reduce hsecond)
  · have hedge : g.Edge a c := by
      rcases Path.head hpath with hedge | ⟨b, hstep, hrest⟩
      · exact hedge
      · exact absurd ⟨b, .single hstep, hrest⟩ hover
    refine .single (edge_reduce.2 ⟨hedge, ?_⟩)
    intro b hstep hrest
    exact hover ⟨b, .single hstep, hrest⟩
termination_by (g.reachable a).size - (g.reachable c).size

theorem Acyclic.path_reduce_iff (h : g.Acyclic) : g.reduce.Path a b ↔ g.Path a b :=
  ⟨path_of_path_reduce, h.path_reduce⟩

theorem Acyclic.spans_reduce (h : g.Acyclic) : Spans g.reduce.edges g := by
  intro a b
  rw [Relation.reflTransGen_iff_eq_or_transGen, Relation.reflTransGen_iff_eq_or_transGen]
  exact or_congr_right h.path_reduce_iff

/-- Every edge set that spans an acyclic graph holds the kept edges. -/
theorem Acyclic.mem_of_spans {set : Set (String × String)} (h : g.Acyclic) (hset : Spans set g)
    (hedge : g.reduce.Edge a c) : (a, c) ∈ set := by
  have hne : a ≠ c := by
    rintro rfl
    exact h a (.single (edge_reduce.1 hedge).1)
  have hway := (hset a c).2 (.single (edge_reduce.1 hedge).1)
  -- By the first step of the way: it stays at `a`, or goes to `c` at once, or goes over a third
  -- name, which the reduction would not have left to the edge.
  induction hway using Relation.ReflTransGen.head_induction_on with
  | refl => exact absurd rfl hne
  | @head a b hstep hrest ih =>
    by_cases hab : b = a
    · subst hab
      exact ih hedge hne
    by_cases hbc : b = c
    · exact hbc ▸ hstep
    have hfirst : g.Path a b :=
      ((Relation.reflTransGen_iff_eq_or_transGen.1 ((hset a b).1 (.single hstep))).resolve_left hab)
    have hsecond : g.Path b c :=
      ((Relation.reflTransGen_iff_eq_or_transGen.1 ((hset b c).1 hrest)).resolve_left (Ne.symm hbc))
    exact absurd hsecond (not_path_over_of_edge_reduce hedge hfirst)

/-- No path of other kept edges leads from the source of a kept edge to its target. -/
theorem not_path_of_others (hedge : g.reduce.Edge a c) :
    ¬ Relation.TransGen (fun x y => g.reduce.Edge x y ∧ (x, y) ≠ (a, c)) a c := by
  intro hpath
  have hforget : ∀ x y, Relation.TransGen
      (fun x y => g.reduce.Edge x y ∧ (x, y) ≠ (a, c)) x y → g.Path x y := fun x y hxy =>
    path_of_path_reduce (Relation.TransGen.mono (fun _ _ hstep => hstep.1) x y hxy)
  rcases Relation.TransGen.head'_iff.1 hpath with ⟨b, hstep, hrest⟩
  rcases Relation.reflTransGen_iff_eq_or_transGen.1 hrest with rfl | hrest
  · exact hstep.2 rfl
  · exact not_path_over_of_edge_reduce hedge (hforget a b (.single hstep)) (hforget b c hrest)

end NameGraph

namespace Lineage

open NameGraph

/-- A lineage made from casts without a cycle holds their transitive reduction: it reaches what they
reach, it is contained in every edge set that does, and none of its edges is implied by others. -/
theorem downcasts_transitiveReduction {raw : NameGraph} (h : raw.Acyclic) :
    (∀ a b, (ofEdges raw).downcasts.Path a b ↔ raw.Path a b) ∧
    IsLeast {set | Spans set raw} (ofEdges raw).downcasts.edges ∧
    ∀ a c, (ofEdges raw).downcasts.Edge a c →
      ¬ Relation.TransGen
        (fun x y => (ofEdges raw).downcasts.Edge x y ∧ (x, y) ≠ (a, c)) a c := by
  refine ⟨fun a b => h.path_reduce_iff, ⟨h.spans_reduce, ?_⟩, fun a c => not_path_of_others⟩
  rintro set hset ⟨a, c⟩ hedge
  exact h.mem_of_spans hset hedge

/-- Casts with shortcuts over one, two and three steps. -/
def shortcuts : NameGraph :=
  [("A", "B"), ("A", "C"), ("A", "D"), ("B", "C"), ("C", "D"), ("A", "E"), ("B", "E")].foldl
    (fun g (source, target) => g.addEdge source target) ∅

theorem downcasts_shortcuts :
    shortcuts.Acyclic ∧
    (ofEdges shortcuts).downcasts.targets "A" = ["B"] ∧
    IsLeast {set | Spans set shortcuts} (ofEdges shortcuts).downcasts.edges := by
  have hacyclic : shortcuts.Acyclic := by decide +kernel
  exact ⟨hacyclic, by decide +kernel, (downcasts_transitiveReduction hacyclic).2.1⟩

end Lineage

end TypedQuery
