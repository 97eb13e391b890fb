-- SUMMARY: Finite maps keyed by names, listed in ascending order of their keys.

/-!
# Maps keyed by names

A map is its list of entries with strictly ascending keys, so that every traversal visits the keys in
code point order. `get?_update` and `mem_keys_update` describe the one operation that changes a map.
-/
namespace TypedQuery

/-- A finite map from names to values. -/
structure NameMap (α : Type) where
  entries : List (String × α)
  ascending : (entries.map (·.1)).Pairwise (· < ·) := by simp

namespace NameMap

variable {α β : Type}

instance [DecidableEq α] : DecidableEq (NameMap α) := fun a b =>
  if h : a.entries = b.entries then
    isTrue (by cases a; cases b; cases h; rfl)
  else isFalse fun heq => h (heq ▸ rfl)

def empty : NameMap α := ⟨[], .nil⟩

instance : EmptyCollection (NameMap α) := ⟨empty⟩

instance : Inhabited (NameMap α) := ⟨empty⟩

def keys (m : NameMap α) : List String := m.entries.map (·.1)

def size (m : NameMap α) : Nat := m.entries.length

/-- The value of a key. -/
def get? (m : NameMap α) (key : String) : Option α := m.entries.lookup key

def contains (m : NameMap α) (key : String) : Bool := (m.get? key).isSome

theorem lookup_cons {key first : String} {value : α} {rest : List (String × α)} :
    ((first, value) :: rest).lookup key = if key = first then some value else rest.lookup key := by
  rw [List.lookup_cons]
  by_cases h : key = first
  · simp [h]
  · rw [beq_false_of_ne h, if_neg h]

@[simp] theorem get?_empty {key : String} : (∅ : NameMap α).get? key = none := rfl

theorem lookup_eq_some_iff {entries : List (String × α)} {key : String} {value : α}
    (h : (entries.map (·.1)).Pairwise (· < ·)) :
    entries.lookup key = some value ↔ (key, value) ∈ entries := by
  induction entries with
  | nil => simp
  | cons entry rest ih =>
    obtain ⟨first, found⟩ := entry
    have hfirst := List.pairwise_cons.1 (List.map_cons ▸ h)
    rw [lookup_cons, List.mem_cons, Prod.mk.injEq]
    split
    · next heq =>
      subst heq
      have hnot : ¬ (key, value) ∈ rest := fun hmem =>
        String.lt_irrefl key (hfirst.1 key (List.mem_map_of_mem hmem))
      simp [hnot, eq_comm]
    · next hne => simp [hne, ih hfirst.2]

/-- The entries are the keys with their values. -/
theorem get?_eq_some_iff {m : NameMap α} {key : String} {value : α} :
    m.get? key = some value ↔ (key, value) ∈ m.entries :=
  lookup_eq_some_iff m.ascending

/-! ## Update -/

/-- Replace the value of a key in an ascending list of entries, or add the key at its place. -/
def updateIn (key : String) (change : Option α → α) : List (String × α) → List (String × α)
  | [] => [(key, change none)]
  | (first, value) :: rest =>
    if key < first then (key, change none) :: (first, value) :: rest
    else if key = first then (first, change (some value)) :: rest
    else (first, value) :: updateIn key change rest

theorem mem_keys_updateIn {key other : String} {change : Option α → α}
    {entries : List (String × α)} :
    other ∈ (updateIn key change entries).map (·.1) ↔
      other = key ∨ other ∈ entries.map (·.1) := by
  induction entries with
  | nil => simp [updateIn]
  | cons entry rest ih =>
    obtain ⟨first, value⟩ := entry
    rw [updateIn]
    split
    · simp
    · split
      · next h => simp [h]
      · rw [List.map_cons, List.mem_cons, ih]
        simp [or_left_comm]

theorem ascending_updateIn {key : String} {change : Option α → α} {entries : List (String × α)}
    (h : (entries.map (·.1)).Pairwise (· < ·)) :
    ((updateIn key change entries).map (·.1)).Pairwise (· < ·) := by
  induction entries with
  | nil => simp [updateIn]
  | cons entry rest ih =>
    obtain ⟨first, value⟩ := entry
    have hfirst := List.pairwise_cons.1 (List.map_cons ▸ h)
    rw [updateIn]
    split
    · next hlt =>
      refine List.pairwise_cons.2 ⟨fun other hmem => ?_, h⟩
      rcases List.mem_cons.1 hmem with rfl | hmem
      · exact hlt
      · exact String.lt_trans hlt (hfirst.1 other hmem)
    · split
      · exact h
      · next hlt hne =>
        refine List.pairwise_cons.2 ⟨fun other hmem => ?_, ih hfirst.2⟩
        rcases mem_keys_updateIn.1 hmem with rfl | hmem
        · exact Decidable.byContradiction fun hnot =>
            hne (String.le_antisymm (String.not_lt.1 hnot) (String.not_lt.1 hlt))
        · exact hfirst.1 other hmem

theorem lookup_updateIn {key other : String} {change : Option α → α} {entries : List (String × α)}
    (h : (entries.map (·.1)).Pairwise (· < ·)) :
    (updateIn key change entries).lookup other =
      if other = key then some (change (entries.lookup key)) else entries.lookup other := by
  induction entries with
  | nil => simp [updateIn, lookup_cons]
  | cons entry rest ih =>
    obtain ⟨first, value⟩ := entry
    have hfirst := List.pairwise_cons.1 (List.map_cons ▸ h)
    rw [updateIn]
    split
    · next hlt =>
      have hnone : ((first, value) :: rest).lookup key = none := by
        refine List.lookup_eq_none_iff.2 fun entry hmem => ?_
        have hle : key < entry.1 := by
          rcases List.mem_cons.1 hmem with rfl | hmem
          · exact hlt
          · exact String.lt_trans hlt (hfirst.1 _ (List.mem_map_of_mem hmem))
        simpa using fun heq => String.lt_irrefl _ (heq ▸ hle)
      rw [lookup_cons, hnone]
    · split
      · next h =>
        subst h
        rw [lookup_cons, lookup_cons]
        by_cases hkey : other = key <;> simp [lookup_cons, hkey]
      · next hne =>
        rw [lookup_cons, lookup_cons, lookup_cons, if_neg hne, ih hfirst.2]
        by_cases hkey : other = first
        · simp [hkey, Ne.symm hne]
        · simp [hkey]

/-- Set the value of a key from the value it had, if any. -/
def update (m : NameMap α) (key : String) (change : Option α → α) : NameMap α :=
  ⟨updateIn key change m.entries, ascending_updateIn m.ascending⟩

@[simp] theorem mem_keys_update {m : NameMap α} {key other : String} {change : Option α → α} :
    other ∈ (m.update key change).keys ↔ other = key ∨ other ∈ m.keys :=
  mem_keys_updateIn

theorem get?_update {m : NameMap α} {key other : String} {change : Option α → α} :
    (m.update key change).get? other =
      if other = key then some (change (m.get? key)) else m.get? other :=
  lookup_updateIn m.ascending

/-- Set the value of a key. -/
def insert (m : NameMap α) (key : String) (value : α) : NameMap α :=
  m.update key fun _ => value

/-! ## Mapping -/

/-- Replace every value by one computed from the key and the value. -/
def mapEntries (f : String → α → β) (m : NameMap α) : NameMap β :=
  ⟨m.entries.map fun (key, value) => (key, f key value), by
    have h : ((·.1) ∘ fun (key, value) => (key, f key value)) = fun (entry : String × α) => entry.1 :=
      rfl
    rw [List.map_map, h]
    exact m.ascending⟩

@[simp] theorem keys_mapEntries {f : String → α → β} {m : NameMap α} :
    (m.mapEntries f).keys = m.keys := by
  simp [mapEntries, keys, Function.comp_def]

theorem get?_mapEntries {f : String → α → β} {m : NameMap α} {key : String} :
    (m.mapEntries f).get? key = (m.get? key).map (f key) := by
  have h : ∀ entries : List (String × α),
      (entries.map fun (key, value) => (key, f key value)).lookup key =
        (entries.lookup key).map (f key) := by
    intro entries
    induction entries with
    | nil => rfl
    | cons entry rest ih =>
      obtain ⟨first, value⟩ := entry
      rw [List.map_cons, lookup_cons, lookup_cons, ih]
      by_cases h : key = first <;> simp [h]
  exact h m.entries

end NameMap

end TypedQuery
