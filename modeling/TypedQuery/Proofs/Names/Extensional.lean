-- SUMMARY: Sets, maps and graphs of names are equal if they hold the same.
import Mathlib.Data.List.Nodup
import TypedQuery.Names.NameGraph

/-!
# Extensionality

Since names are kept in ascending order, a set is determined by its members and a map by what its keys
have. So it does not matter in which order edges are added to a graph.
-/
namespace TypedQuery

/-- Lists that ascend by a key and have the same members are equal. -/
theorem eq_of_ascending {α : Type} {key : α → String} {as bs : List α}
    (ha : as.Pairwise (key · < key ·)) (hb : bs.Pairwise (key · < key ·))
    (hmem : ∀ a, a ∈ as ↔ a ∈ bs) : as = bs := by
  have hnodup {cs : List α} (hc : cs.Pairwise (key · < key ·)) : cs.Nodup := by
    apply hc.imp
    rintro a _ hlt rfl
    exact String.lt_irrefl (key a) hlt
  have hperm : as.Perm bs := (List.perm_ext_iff_of_nodup (hnodup ha) (hnodup hb)).2 hmem
  refine hperm.eq_of_pairwise ?_ ha hb
  intro a b _ _ hab hba
  exact absurd (String.lt_trans hab hba) (String.lt_irrefl _)

namespace NameSet

/-- Sets with the same members are equal. -/
theorem ext_mem {s t : NameSet} (h : ∀ name, name ∈ s ↔ name ∈ t) : s = t := by
  have hlists : s.toList = t.toList := @eq_of_ascending String id _ _ s.ascending t.ascending h
  cases s
  cases t
  cases hlists
  rfl

end NameSet

namespace NameMap

variable {α : Type}

/-- Maps whose keys have the same values are equal. -/
theorem ext_get? {m n : NameMap α} (h : ∀ key, m.get? key = n.get? key) : m = n := by
  have hentries : m.entries = n.entries := by
    refine eq_of_ascending (List.pairwise_map.1 m.ascending) (List.pairwise_map.1 n.ascending) ?_
    rintro ⟨key, value⟩
    rw [← get?_eq_some_iff, ← get?_eq_some_iff, h]
  cases m
  cases n
  cases hentries
  rfl

end NameMap

namespace NameGraph

variable {g : NameGraph} {a b c d : String}

theorem get?_addEdge : (g.addEdge a b).get? c =
    if c = a then some (((g.get? a).getD ∅).insert b) else g.get? c :=
  NameMap.get?_update

theorem addEdge_comm : (g.addEdge a b).addEdge c d = (g.addEdge c d).addEdge a b := by
  apply NameMap.ext_get?
  intro name
  simp only [get?_addEdge]
  by_cases hac : a = c
  · subst hac
    have hinsert : ((((g.get? a).getD ∅).insert b).insert d) =
        ((((g.get? a).getD ∅).insert d).insert b) := by
      apply NameSet.ext_mem
      intro other
      simp only [NameSet.mem_insert]
      exact or_left_comm
    by_cases hname : name = a <;> simp [hname, hinsert]
  · have hca : ¬ c = a := fun h => hac h.symm
    by_cases hna : name = a
    · simp [hna, hac]
    · simp [hna, hca]

/-- The order in which edges are added makes no difference. -/
theorem foldl_addEdge_eq_of_perm {edges others : List (String × String)} (h : edges.Perm others) :
    edges.foldl (fun g (source, target) => g.addEdge source target) g =
      others.foldl (fun g (source, target) => g.addEdge source target) g :=
  h.foldl_eq' (fun _ _ _ _ _ => addEdge_comm) g

end NameGraph

end TypedQuery
