-- SUMMARY: The fields of a type, read off its family.
import TypedQuery.Model.Type
import TypedQuery.Proofs.Lists

/-!
# Fields and families

The walk that gathers the fields of a type keeps the first field of every name that the members of
the type's family declare, in the order of the family: `field?_eq` finds a field there, and
`nodup_fields` says that no name is kept twice.
-/
namespace TypedQuery

namespace SelectableType

variable {t u : SelectableType} {n : String}

/-! ## Families -/

theorem familyOfAll_eq (ts : List SelectableType) : familyOfAll ts = ts.flatMap family := by
  induction ts with
  | nil => rfl
  | cons t rest ih => rw [familyOfAll, ih, List.flatMap_cons]

theorem family_eq (t : SelectableType) : t.family = t :: t.superTypes.flatMap family := by
  cases t with
  | mk name category superTypes declared => rw [family, familyOfAll_eq]

theorem mem_family_self : t ∈ t.family := by
  rw [family_eq]
  exact List.mem_cons_self

/-- What holds of a type if it holds of its super types holds of every type. -/
theorem induction_superTypes {P : SelectableType → Prop}
    (step : ∀ t, (∀ u ∈ t.superTypes, P u) → P t) (t : SelectableType) : P t := by
  apply step
  intro u hu
  have : sizeOf u < sizeOf t := by
    have hlt := List.sizeOf_lt_of_mem hu
    cases t
    simp only [mk.sizeOf_spec]
    simp only at hlt
    omega
  exact induction_superTypes step u
termination_by sizeOf t

/-! ## Gathering -/

/-- The fields that the members of a family declare, with the names of those that declare them. -/
def offers (ts : List SelectableType) : List (SelectableField × String) :=
  ts.flatMap fun t => t.declared.map fun f => (f, t.name)

/-- Keep a field unless its name has been found. -/
def keepFirst (found : List (SelectableField × String)) (offer : SelectableField × String) :
    List (SelectableField × String) :=
  if found.any (·.1.name = offer.1.name) then found else found ++ [offer]

theorem found_add {path : List String} {type : String} {h : Harvest} {f : SelectableField} :
    (h.add path type f).found = keepFirst h.found (f, type) := by
  unfold Harvest.add keepFirst
  split
  · next hfind =>
    have hnone : h.found.any (·.1.name = f.name) = false := by
      rw [List.any_eq_false]
      exact fun x hx => List.find?_eq_none.1 hfind x hx
    simp [hnone]
  · next first origin hfind =>
    have hname : first.name = f.name := by simpa using List.find?_some hfind
    have hany : h.found.any (·.1.name = f.name) = true :=
      List.any_eq_true.2 ⟨_, List.mem_of_find?_eq_some hfind, by simpa using hname⟩
    rw [if_pos hany]
    split <;> rfl

theorem found_foldl_add {path : List String} {type : String} {declared : List SelectableField}
    {h : Harvest} :
    (declared.foldl (Harvest.add path type) h).found =
      (declared.map fun f => (f, type)).foldl keepFirst h.found := by
  induction declared generalizing h with
  | nil => rfl
  | cons f rest ih => rw [List.foldl_cons, ih, found_add, List.map_cons, List.foldl_cons]

theorem gatherAll_eq {path : List String} {h : Harvest} {ts : List SelectableType} :
    gatherAll path h ts = ts.foldl (gather path) h := by
  induction ts generalizing h with
  | nil => rfl
  | cons t rest ih => rw [gatherAll, ih, List.foldl_cons]

theorem gather_eq {path : List String} {h : Harvest} :
    gather path h t =
      t.superTypes.foldl (gather (t.name :: path))
        (t.declared.foldl (Harvest.add (t.name :: path) t.name) h) := by
  cases t with
  | mk name category superTypes declared => rw [gather, gatherAll_eq]

/-- The path of a walk decides about conflicts only. -/
theorem found_gather (t : SelectableType) : ∀ (path : List String) (h : Harvest),
    (gather path h t).found = (offers t.family).foldl keepFirst h.found := by
  induction t using induction_superTypes with
  | step t ih =>
    intro path h
    -- The statement is for every path, as the path grows on the way up. The induction hypothesis
    -- reaches the super types only, so the list of them is walked over in an induction of its own.
    have hall : ∀ (ts : List SelectableType) (h : Harvest), (∀ u ∈ ts, u ∈ t.superTypes) →
        (ts.foldl (gather (t.name :: path)) h).found =
          (offers (ts.flatMap family)).foldl keepFirst h.found := by
      intro ts
      induction ts with
      | nil => exact fun _ _ => rfl
      | cons u rest ihrest =>
        intro h hmem
        rw [List.foldl_cons, ihrest _ fun v hv => hmem v (List.mem_cons_of_mem _ hv),
          ih u (hmem u List.mem_cons_self), List.flatMap_cons, offers, offers, offers,
          List.flatMap_append, List.foldl_append]
    rw [gather_eq, hall _ _ fun u hu => hu, found_foldl_add, family_eq, offers, offers,
      List.flatMap_cons, List.foldl_append]

theorem find?_foldl_keepFirst {found others : List (SelectableField × String)} :
    (others.foldl keepFirst found).find? (·.1.name = n) =
      (found ++ others).find? (·.1.name = n) := by
  induction others generalizing found with
  | nil => simp
  | cons offer rest ih =>
    rw [List.foldl_cons, ih, keepFirst]
    split
    · next hany =>
      obtain ⟨earlier, hmem, hname⟩ := List.any_eq_true.1 hany
      rw [List.find?_append, List.find?_append, List.find?_cons]
      -- The offer is dropped. If it has the name that is searched for, an earlier one is found
      -- instead.
      by_cases hn : offer.1.name = n
      · have hsome : (found.find? (·.1.name = n)).isSome := by
          rw [List.find?_isSome]
          exact ⟨earlier, hmem, by simpa [hn] using hname⟩
        obtain ⟨first, hfirst⟩ := Option.isSome_iff_exists.1 hsome
        simp [hfirst]
      · simp [hn]
    · simp

theorem nodup_foldl_keepFirst {found others : List (SelectableField × String)}
    (h : (found.map (·.1.name)).Nodup) :
    ((others.foldl keepFirst found).map (·.1.name)).Nodup := by
  induction others generalizing found with
  | nil => exact h
  | cons offer rest ih =>
    rw [List.foldl_cons]
    refine ih ?_
    unfold keepFirst
    split
    · exact h
    · next hany =>
      rw [List.map_append, List.map_singleton]
      refine List.nodup_append.2 ⟨h, by simp, ?_⟩
      rintro name hname _ hother rfl
      obtain ⟨earlier, hmem, hearlier⟩ := List.mem_map.1 hname
      refine hany (List.any_eq_true.2 ⟨earlier, hmem, ?_⟩)
      simpa [List.mem_singleton.1 hother] using hearlier

/-! ## Fields -/

/-- A field of a type is the first one of its name that the family declares. -/
theorem field?_eq : t.field? n = (t.family.flatMap declared).find? (·.name = n) := by
  have hoffers : (offers t.family).map (·.1) = t.family.flatMap declared := by
    simp [offers, List.map_flatMap, Function.comp_def]
  rw [field?, fields, harvest, found_gather, ← hoffers, List.find?_map, List.find?_map]
  exact congrArg _ find?_foldl_keepFirst

theorem nodup_fields (t : SelectableType) : (t.fields.map (·.name)).Nodup := by
  rw [fields, harvest, found_gather, List.map_map]
  exact nodup_foldl_keepFirst (by simp)

theorem field?_eq_some_iff {f : SelectableField} :
    t.field? n = some f ↔ f ∈ t.fields ∧ f.name = n :=
  find?_eq_some_iff_of_nodup t.nodup_fields

/-- What a type does not declare itself is a field of the first super type that has it. -/
theorem field?_eq_or : t.field? n =
    (t.declared.find? (·.name = n)).or (t.superTypes.findSome? (·.field? n)) := by
  rw [field?_eq, family_eq, List.flatMap_cons, List.find?_append, List.flatMap_assoc,
    List.find?_flatMap]
  simp only [field?_eq]

theorem find?_of_declares (h : t.declares n) : ∃ f, t.declared.find? (·.name = n) = some f :=
  Option.isSome_iff_exists.1 (List.find?_isSome.2 (List.any_eq_true.1 h))

theorem find?_of_not_declares (h : ¬ t.declares n) : t.declared.find? (·.name = n) = none := by
  rw [List.find?_eq_none]
  intro f hf hname
  exact h (List.any_eq_true.2 ⟨f, hf, hname⟩)

theorem field?_of_declares (h : t.declares n) : t.field? n = t.declared.find? (·.name = n) := by
  obtain ⟨f, hfind⟩ := find?_of_declares h
  rw [field?_eq_or, hfind, Option.some_or]

theorem field?_of_not_declares (h : ¬ t.declares n) :
    t.field? n = t.superTypes.findSome? (·.field? n) := by
  rw [field?_eq_or, find?_of_not_declares h, Option.none_or]

/-- A type lacks the fields that no member of its family declares. -/
theorem field?_eq_none_iff : t.field? n = none ↔ ∀ u ∈ t.family, ¬ u.declares n := by
  simp only [field?_eq, List.find?_eq_none, List.mem_flatMap, declares, List.any_eq_true]
  constructor
  · rintro h u hu ⟨f, hf, hname⟩
    exact h f ⟨u, hu, hf⟩ hname
  · rintro h f ⟨u, hu, hf⟩ hname
    exact h u hu ⟨f, hf, hname⟩

end SelectableType

end TypedQuery
