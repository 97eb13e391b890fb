-- SUMMARY: Finite sets of names, listed in ascending order.

/-!
# Sets of names

A set of names is its strictly ascending list, so that two sets with the same members are equal and
every traversal visits the members in code point order.
-/
namespace TypedQuery

/-- A finite set of names. -/
structure NameSet where
  toList : List String
  ascending : toList.Pairwise (· < ·) := by simp
  deriving DecidableEq

namespace NameSet

theorem ascending_nil : ([] : List String).Pairwise (· < ·) := .nil

def empty : NameSet := ⟨[], ascending_nil⟩

instance : EmptyCollection NameSet := ⟨empty⟩

instance : Inhabited NameSet := ⟨empty⟩

instance : Membership String NameSet := ⟨fun s name => name ∈ s.toList⟩

instance (name : String) (s : NameSet) : Decidable (name ∈ s) :=
  inferInstanceAs (Decidable (name ∈ s.toList))

@[simp] theorem mem_toList {s : NameSet} {name : String} : name ∈ s.toList ↔ name ∈ s := Iff.rfl

@[simp] theorem not_mem_empty {name : String} : ¬ name ∈ (∅ : NameSet) :=
  fun h => nomatch (h : name ∈ ([] : List String))

def size (s : NameSet) : Nat := s.toList.length

/-! ## Insertion -/

/-- Put a name at its place in an ascending list, once. -/
def insertInto (name : String) : List String → List String
  | [] => [name]
  | first :: rest =>
    if name < first then name :: first :: rest
    else if name = first then first :: rest
    else first :: insertInto name rest

@[simp] theorem mem_insertInto {name other : String} {names : List String} :
    other ∈ insertInto name names ↔ other = name ∨ other ∈ names := by
  induction names with
  | nil => simp [insertInto]
  | cons first rest ih =>
    rw [insertInto]
    split
    · simp
    · split
      · next h => simp [h]
      · simp [ih, or_left_comm]

theorem ascending_insertInto {name : String} {names : List String}
    (h : names.Pairwise (· < ·)) : (insertInto name names).Pairwise (· < ·) := by
  induction names with
  | nil => simp [insertInto]
  | cons first rest ih =>
    have hfirst := List.pairwise_cons.1 h
    rw [insertInto]
    split
    · next hlt =>
      refine List.pairwise_cons.2 ⟨fun other hmem => ?_, h⟩
      rcases List.mem_cons.1 hmem with rfl | hmem
      · exact hlt
      · exact String.lt_trans hlt (hfirst.1 other hmem)
    · split
      · exact h
      · next hlt hne =>
        refine List.pairwise_cons.2 ⟨fun other hmem => ?_, ih hfirst.2⟩
        rcases mem_insertInto.1 hmem with rfl | hmem
        · exact Decidable.byContradiction fun hnot =>
            hne (String.le_antisymm (String.not_lt.1 hnot) (String.not_lt.1 hlt))
        · exact hfirst.1 other hmem

/-- Add a name. -/
def insert (s : NameSet) (name : String) : NameSet :=
  ⟨insertInto name s.toList, ascending_insertInto s.ascending⟩

@[simp] theorem mem_insert {s : NameSet} {name other : String} :
    other ∈ s.insert name ↔ other = name ∨ other ∈ s :=
  mem_insertInto

/-- The set of the names of a list. -/
def ofList (names : List String) : NameSet :=
  names.foldl insert ∅

theorem mem_foldl_insert {names : List String} {s : NameSet} {name : String} :
    name ∈ names.foldl insert s ↔ name ∈ names ∨ name ∈ s := by
  induction names generalizing s with
  | nil => simp
  | cons first rest ih => simp [ih, or_assoc, or_left_comm]

@[simp] theorem mem_ofList {names : List String} {name : String} :
    name ∈ ofList names ↔ name ∈ names := by
  simp [ofList, mem_foldl_insert]

/-! ## Restriction -/

/-- The members that satisfy a test. -/
def filter (s : NameSet) (keep : String → Bool) : NameSet :=
  ⟨s.toList.filter keep, s.ascending.filter keep⟩

@[simp] theorem mem_filter {s : NameSet} {keep : String → Bool} {name : String} :
    name ∈ s.filter keep ↔ name ∈ s ∧ keep name = true :=
  List.mem_filter

/-- No name is listed twice. -/
theorem nodup (s : NameSet) : s.toList.Nodup := by
  refine s.ascending.imp ?_
  rintro first _ hlt rfl
  exact String.lt_irrefl first hlt

/-- A set inside another one that has a further member is smaller. -/
theorem size_lt_size {s t : NameSet} {name : String} (hsub : ∀ other, other ∈ s → other ∈ t)
    (ht : name ∈ t) (hs : ¬ name ∈ s) : s.size < t.size := by
  have hnodup : (name :: s.toList).Nodup := List.nodup_cons.2 ⟨hs, s.nodup⟩
  have hsubset : name :: s.toList ⊆ t.toList := by
    intro other hmem
    rcases List.mem_cons.1 hmem with rfl | hmem
    · exact ht
    · exact hsub other hmem
  exact hnodup.length_le_of_subset hsubset

end NameSet

end TypedQuery
