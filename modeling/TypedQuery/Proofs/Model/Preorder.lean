-- SUMMARY: The fields of a type are the first of each name, from the type upwards.
import Mathlib.Logic.Relation
import TypedQuery.Proofs.Model.Family
import TypedQuery.Proofs.Model.Rules

/-!
# Fields in the order of the walk

The walk over a type passes the declared fields of the type, and then those of one super type after
the other, each with all that is above it. `SelectableType.fields_in_preorder` says that the fields
of the type are the first of each name among these, and what that means for the names, for the
order, and for a super type that is reached more than once.
-/
namespace TypedQuery

/-! ## First occurrences -/

section

variable {α β : Type} {key : α → String} {as bs : List α} {name : String}

/-- The members of a list whose key no earlier member has. -/
def firstOfEach (key : α → String) : List α → List α
  | [] => []
  | a :: rest => a :: (firstOfEach key rest).filter (key · ≠ key a)

theorem mem_keys_firstOfEach : name ∈ (firstOfEach key as).map key ↔ name ∈ as.map key := by
  induction as with
  | nil => rfl
  | cons a rest ih =>
    by_cases hname : name = key a
    · simp [firstOfEach, hname]
    · simp only [firstOfEach, List.map_cons, List.mem_cons, hname, false_or, ← ih, List.mem_map,
        List.mem_filter, decide_eq_true_eq]
      constructor
      · rintro ⟨b, ⟨hb, _⟩, rfl⟩
        exact ⟨b, hb, rfl⟩
      · rintro ⟨b, hb, rfl⟩
        exact ⟨b, ⟨hb, hname⟩, rfl⟩

theorem firstOfEach_map {f : β → α} {bs : List β} :
    firstOfEach key (bs.map f) = (firstOfEach (fun b => key (f b)) bs).map f := by
  induction bs with
  | nil => rfl
  | cons b rest ih =>
    rw [List.map_cons, firstOfEach, ih, List.filter_map, firstOfEach, List.map_cons]
    rfl

/-- Of a second list, only what has a new key stays. -/
theorem firstOfEach_append : firstOfEach key (as ++ bs) =
    firstOfEach key as ++ (firstOfEach key bs).filter (key · ∉ as.map key) := by
  induction as with
  | nil => simp [firstOfEach]
  | cons a rest ih =>
    rw [List.cons_append, firstOfEach, firstOfEach, ih, List.filter_append, List.filter_filter,
      List.cons_append]
    congr 3
    funext b
    simp [not_or, Bool.decide_and]

theorem firstOfEach_of_nodup (h : (as.map key).Nodup) : firstOfEach key as = as := by
  induction as with
  | nil => rfl
  | cons a rest ih =>
    obtain ⟨hnew, hrest⟩ := List.nodup_cons.1 h
    rw [firstOfEach, ih hrest, List.filter_eq_self.2]
    intro b hb
    simpa using fun heq : key b = key a => hnew (heq ▸ List.mem_map_of_mem hb)

end

namespace SelectableType

variable {name : String} {category : TypeCategory} {superTypes : List SelectableType}
  {declared : List SelectableField} {t u : SelectableType}

/-! ## What a walk adds -/

/-- A walk adds the first offer of every name that has not been found. -/
theorem foldl_keepFirst {found others : List (SelectableField × String)} :
    others.foldl keepFirst found = found ++
      (firstOfEach (·.1.name) others).filter (·.1.name ∉ found.map (·.1.name)) := by
  induction others generalizing found with
  | nil => simp [firstOfEach]
  | cons offer rest ih =>
    have hany : found.any (·.1.name = offer.1.name) ↔ offer.1.name ∈ found.map (·.1.name) := by
      simp [List.any_eq_true, List.mem_map]
    rw [List.foldl_cons, ih, firstOfEach, keepFirst]
    split
    · next hfound =>
      have hold := hany.1 hfound
      rw [List.filter_cons_of_neg (by simpa using hold), List.filter_filter]
      -- What has the name of this offer is filtered out either way: by the offer itself, or
      -- because the name was found.
      congr 2
      funext other
      by_cases hname : other.1.name = offer.1.name
      · simpa [hname] using hold
      · simp [hname]
    · next hfound =>
      have hnew : offer.1.name ∉ found.map (·.1.name) := fun hold => hfound (hany.2 hold)
      rw [List.filter_cons_of_pos (by simpa using hnew), List.append_assoc, List.filter_filter,
        List.singleton_append]
      congr 3
      funext other
      rw [Bool.eq_iff_iff]
      simp [not_or, and_comm]

/-- The fields of a type are the first of each name among the declared fields of its family. -/
theorem fields_eq : t.fields = firstOfEach (·.name) (t.family.flatMap (·.declared)) := by
  have hoffers : (offers t.family).map (·.1) = t.family.flatMap (·.declared) := by
    simp [offers, List.map_flatMap, Function.comp_def]
  rw [fields, harvest, found_gather, foldl_keepFirst, ← hoffers, firstOfEach_map]
  simp

/-- What has been walked over adds nothing when it is walked over again. -/
theorem found_gather_again {path again : List String} {h later : Harvest}
    (hlater : (gather path h u).found <+: later.found) :
    (gather again later u).found = later.found := by
  rw [found_gather, foldl_keepFirst, List.append_right_eq_self, List.filter_eq_nil_iff]
  intro offer hoffer
  suffices hfound : offer.1.name ∈ later.found.map (·.1.name) by simpa using hfound
  -- The first walk has left every name of the family among what was found, so that the second one
  -- has nothing to add.
  refine (hlater.map _).mem ?_
  rw [found_gather, foldl_keepFirst, List.map_append, List.mem_append]
  by_cases hold : offer.1.name ∈ h.found.map (·.1.name)
  · exact .inl hold
  · exact .inr (List.mem_map_of_mem (List.mem_filter.2 ⟨hoffer, by simpa using hold⟩))

/-! ## All that is above a type -/

/-- The family of a type holds the type, its super types, theirs, and so on. -/
theorem mem_family_iff :
    u ∈ t.family ↔ Relation.ReflTransGen (fun below above => above ∈ below.superTypes) t u := by
  constructor
  · induction t using induction_superTypes with
    | step t ih =>
      intro hu
      rw [family_eq, List.mem_cons, List.mem_flatMap] at hu
      rcases hu with rfl | ⟨above, habove, hu⟩
      · exact .refl
      · exact .head habove (ih above habove hu)
  · intro hu
    induction hu using Relation.ReflTransGen.head_induction_on with
    | refl => exact mem_family_self
    | head habove _ ih =>
      rw [family_eq]
      exact List.mem_cons_of_mem _ (List.mem_flatMap.2 ⟨_, habove, ih⟩)

/-! ## The fields of a type -/

/-- The fields of a type are the first of each name that the walk over its family passes: no name
twice, and the names that the type or any type above it declares. The declared fields come first and
as they are, a name stands for the first field of the name, and no walk over a type that was walked
over before adds to what has been found. -/
theorem fields_in_preorder (h : make? name category superTypes declared = .ok t) :
    t.fields = firstOfEach (·.name) (declared ++ (superTypes.flatMap family).flatMap (·.declared)) ∧
    (t.fields.map (·.name)).Nodup ∧
    (∀ n, n ∈ t.fields.map (·.name) ↔
      ∃ u, Relation.ReflTransGen (fun below above => above ∈ below.superTypes) t u ∧
        n ∈ u.declared.map (·.name)) ∧
    declared <+: t.fields ∧
    (∀ n, t.field? n = (t.family.flatMap (·.declared)).find? (·.name = n)) ∧
    (∀ u ∈ t.family, ∀ path again h later, (gather path h u).found <+: later.found →
      (gather again later u).found = later.found) := by
  obtain ⟨hfields, _, _, ht⟩ := make?_eq_ok_iff.1 h
  have hfamily : t.family.flatMap (·.declared) =
      declared ++ (superTypes.flatMap family).flatMap (·.declared) := by
    rw [family_eq, List.flatMap_cons, ht]
  refine ⟨by rw [fields_eq, hfamily], nodup_fields t, ?_, ?_, fun n => field?_eq,
    fun u _ path again h later => found_gather_again⟩
  · intro n
    rw [fields_eq, mem_keys_firstOfEach, List.map_flatMap, List.mem_flatMap]
    simp only [mem_family_iff]
  · rw [fields_eq, hfamily, firstOfEach_append,
      firstOfEach_of_nodup (distinct_of_checkFields hfields).1]
    exact List.prefix_append _ _

/-- A type above two others that both own something. -/
def top : SelectableType := ⟨"Node", .object, [], [{ name := "id", category := .id }]⟩

/-- A type that declares how it is owned. -/
def owned (name owner : String) : SelectableType :=
  ⟨name, .object, [top], [{ name := "owner", category := .reference, target := some owner }]⟩

/-- A type from which two ways lead to the same one. -/
def bottom : SelectableType :=
  ⟨"Bottom", .object, [owned "Left" "A", owned "Right" "B"], [{ name := "b" }]⟩

theorem fields_in_preorder_of_bottom :
    make? "Bottom" .object [owned "Left" "A", owned "Right" "B"] [{ name := "b" }] = .ok bottom ∧
    bottom.fields.map (·.name) = ["b", "owner", "id"] ∧
    bottom.field? "owner" = some { name := "owner", category := .reference, target := some "A" } ∧
    [{ name := "b" }] <+: bottom.fields := by
  have hmake : make? "Bottom" .object [owned "Left" "A", owned "Right" "B"] [{ name := "b" }] =
      .ok bottom := rfl
  obtain ⟨hfields, _, _, hprefix, hfield, _⟩ := fields_in_preorder hmake
  exact ⟨hmake, by rw [hfields]; decide, by rw [hfield]; decide, hprefix⟩

end SelectableType

end TypedQuery
