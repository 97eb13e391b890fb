-- SUMMARY: Walking down an acyclic graph without looking back ends, and finds what can be reached.
import TypedQuery.Names.Path
import TypedQuery.Proofs.Fallible
import TypedQuery.Proofs.Lists

/-!
# Walks that keep no record

`NameGraph.walk` lists a name and then, for each of its targets, what a walk from there lists. Nothing
is noted down, so that a name is listed once for every way to it, and on a cycle the walk would go on
for ever. A bound on the number of walks that are under way at once makes it a function. On a graph
without cycles some bound is enough for every name.
-/
namespace TypedQuery

/-- An evaluation was given up because too many calls were under way at once. -/
inductive TooDeep where
  | tooDeep
  deriving DecidableEq, Repr

/-- Given enough depth the evaluation of every name ends, and it lists the name itself and besides
exactly the names that are related to it. -/
structure Lists (eval : Nat → String → Except TooDeep (List String))
    (related : String → String → Prop) : Prop where
  ends : ∀ name, ∃ depth names, eval depth name = .ok names
  self : ∀ depth name names, eval depth name = .ok names → name ∈ names
  others : ∀ depth name names, eval depth name = .ok names →
    ∀ other, other ≠ name ∧ other ∈ names ↔ related name other

theorem Lists.congr {eval : Nat → String → Except TooDeep (List String)}
    {related related' : String → String → Prop} (h : Lists eval related)
    (hrelated : ∀ a b, related a b ↔ related' a b) : Lists eval related' := by
  refine ⟨h.ends, h.self, ?_⟩
  intro depth name names hnames other
  rw [← hrelated]
  exact h.others depth name names hnames other

namespace NameGraph

variable {g : NameGraph} {a b : String} {depth : Nat} {names : List String}

/-- A name, and what a walk lists from each of its targets. -/
def walk (g : NameGraph) : Nat → String → Except TooDeep (List String)
  | 0, _ => .error .tooDeep
  | depth + 1, name => do
    let below ← (g.targets name).mapM (g.walk depth)
    return name :: below.flatten

theorem walk_succ_eq_ok_iff : g.walk (depth + 1) a = .ok names ↔
    ∃ below, List.Forall₂ (fun b listed => g.walk depth b = .ok listed) (g.targets a) below ∧
      names = a :: below.flatten := by
  rw [walk, bind_eq_ok_iff]
  simp only [mapM_eq_ok_iff]
  refine exists_congr fun below => and_congr_right fun _ => ?_
  constructor
  · intro h
    cases h
    rfl
  · rintro rfl
    rfl

/-- A walk lists the name where it starts and what can be reached from there. -/
theorem mem_walk (h : g.walk depth a = .ok names) : b ∈ names ↔ b = a ∨ g.Path a b := by
  induction depth generalizing a names with
  | zero => cases h
  | succ depth ih =>
    obtain ⟨below, hbelow, rfl⟩ := walk_succ_eq_ok_iff.1 h
    rw [List.mem_cons]
    apply or_congr_right
    rw [List.mem_flatten]
    constructor
    · rintro ⟨listed, hlisted, hb⟩
      obtain ⟨c, hedge, hwalk⟩ := exists_of_mem_right hbelow hlisted
      rcases (ih hwalk).1 hb with rfl | hpath
      · exact .single hedge
      · exact .cons hedge hpath
    · intro hpath
      rcases Path.head hpath with hedge | ⟨c, hedge, hrest⟩
      · obtain ⟨listed, hlisted, hwalk⟩ := exists_of_mem_left hbelow hedge
        exact ⟨listed, hlisted, (ih hwalk).2 (Or.inl rfl)⟩
      · obtain ⟨listed, hlisted, hwalk⟩ := exists_of_mem_left hbelow hedge
        exact ⟨listed, hlisted, (ih hwalk).2 (Or.inr hrest)⟩

/-- Without cycles a walk goes no deeper than there are names to be reached: along every edge there
are fewer of them. -/
theorem Acyclic.exists_walk (h : g.Acyclic) (hdepth : (g.reachable a).size < depth) :
    ∃ names, g.walk depth a = .ok names := by
  induction depth generalizing a with
  | zero => exact absurd hdepth (Nat.not_lt_zero _)
  | succ depth ih =>
    have hbelow : ∃ below, (g.targets a).mapM (g.walk depth) = .ok below := by
      apply exists_mapM_eq_ok_iff.2
      intro b hedge
      apply ih
      have hsize := h.size_reachable_lt (.single hedge)
      omega
    obtain ⟨below, hbelow⟩ := hbelow
    exact ⟨_, walk_succ_eq_ok_iff.2 ⟨below, mapM_eq_ok_iff.1 hbelow, rfl⟩⟩

/-- Walks in a graph without cycles list what can be reached. -/
theorem Acyclic.lists_walk (h : g.Acyclic) : Lists g.walk g.Path := by
  refine ⟨?_, ?_, ?_⟩
  · intro a
    exact ⟨_, h.exists_walk (Nat.lt_succ_self _)⟩
  · intro depth a names hwalk
    exact (mem_walk hwalk).2 (Or.inl rfl)
  · intro depth a names hwalk b
    rw [mem_walk hwalk]
    constructor
    · rintro ⟨hne, hmem⟩
      exact hmem.resolve_left hne
    · intro hpath
      refine ⟨?_, Or.inr hpath⟩
      rintro rfl
      exact h b hpath

end NameGraph

end TypedQuery
