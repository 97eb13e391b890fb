-- SUMMARY: Finite directed graphs over names.
import TypedQuery.Names.NameMap
import TypedQuery.Names.NameSet

/-!
# Graphs over names

A graph maps a name to the set of its targets; a name can be present without any. `collect` gathers
what can be reached from a name, `reduce` keeps the edges that no longer path replaces, and `inverse`
turns every edge around.
-/
namespace TypedQuery

/-- A finite directed graph. -/
abbrev NameGraph : Type := NameMap NameSet

namespace NameGraph

/-- The targets of a name, in ascending order. -/
def targets (g : NameGraph) (name : String) : List String :=
  match g.get? name with
  | some names => names.toList
  | none => []

/-- Make a name present. -/
def addName (g : NameGraph) (name : String) : NameGraph :=
  g.update name fun names => names.getD ∅

/-- Add an edge. -/
def addEdge (g : NameGraph) (source target : String) : NameGraph :=
  g.update source fun names => (names.getD ∅).insert target

def edgeCount (g : NameGraph) : Nat :=
  g.entries.foldl (fun count (_, names) => count + names.size) 0

/-! ## Reachability -/

/-- The work left for names that have not been seen: each of them, and each of their targets. -/
def unseenWork (seen : NameSet) (entries : List (String × NameSet)) : Nat :=
  match entries with
  | [] => 0
  | (name, names) :: rest =>
    (if name ∈ seen then 0 else names.toList.length + 1) + unseenWork seen rest

theorem unseenWork_insert_le (seen : NameSet) (name : String)
    (entries : List (String × NameSet)) :
    unseenWork (seen.insert name) entries ≤ unseenWork seen entries := by
  induction entries with
  | nil => exact Nat.le_refl _
  | cons entry rest ih =>
    obtain ⟨first, names⟩ := entry
    simp only [unseenWork, NameSet.mem_insert]
    by_cases h : first ∈ seen
    · simpa [h] using ih
    · by_cases hname : first = name <;> simp [h, hname] <;> omega

theorem unseenWork_insert_lt {seen names : NameSet} {name : String}
    {entries : List (String × NameSet)} (hseen : ¬ name ∈ seen)
    (hlookup : entries.lookup name = some names) :
    unseenWork (seen.insert name) entries + names.toList.length + 1 ≤ unseenWork seen entries := by
  induction entries with
  | nil => simp at hlookup
  | cons entry rest ih =>
    obtain ⟨first, targets⟩ := entry
    rw [NameMap.lookup_cons] at hlookup
    simp only [unseenWork, NameSet.mem_insert]
    by_cases hname : name = first
    · subst hname
      simp only [if_true] at hlookup
      cases hlookup
      have := unseenWork_insert_le seen name rest
      simp [hseen]
      omega
    · have := ih (by simpa [hname] using hlookup)
      have hne : ¬ first = name := fun h => hname h.symm
      simp only [hne, false_or]
      omega

/-- Walk from the names that are still to be visited, depth first, and add every name that has not been
seen. -/
def follow (g : NameGraph) (seen : NameSet) : List String → NameSet
  | [] => seen
  | name :: rest =>
    if _h : name ∈ seen then follow g seen rest
    else follow g (seen.insert name) (g.targets name ++ rest)
termination_by pending => unseenWork seen g.entries + pending.length
decreasing_by
  · simp
  · simp only [List.length_append, List.length_cons, targets]
    split
    · next names hget =>
      have := unseenWork_insert_lt _h hget
      omega
    · have := unseenWork_insert_le seen name g.entries
      simp only [List.length_nil]
      omega

/-- Add everything that can be reached from a name by at least one edge. A name that has been seen is
taken to be dealt with. -/
def collect (g : NameGraph) (seen : NameSet) (name : String) : NameSet :=
  follow g seen (g.targets name)

/-- Everything that can be reached from a name by at least one edge. -/
def reachable (g : NameGraph) (name : String) : NameSet :=
  g.collect ∅ name

/-! ## Reduction and inverse -/

/-- Everything that can be reached from one of the names by at least one edge. -/
def implied (g : NameGraph) (names : NameSet) : NameSet :=
  names.toList.foldl g.collect ∅

/-- The edges whose target cannot be reached through another edge of the same source. All names stay
present. -/
def reduce (g : NameGraph) : NameGraph :=
  g.mapEntries fun _ names => names.filter (¬ · ∈ g.implied names)

/-- Every edge turned around. Only the targets of edges are present. -/
def inverse (g : NameGraph) : NameGraph :=
  g.entries.foldl
    (fun turned (source, names) =>
      names.toList.foldl (fun turned target => addEdge turned target source) turned)
    ∅

end NameGraph

end TypedQuery
