-- SUMMARY: Schemas that list no field twice and implement nothing but interfaces.
import TypedQuery.Model.Outline
import TypedQuery.Proofs.Lists

/-!
# Regular schemas

Parsing does not check what a type lists. In a regular schema no object or interface lists a field
name twice, and every type that is implemented is an interface. What lies above a type is then
known: interfaces that it lists, and unions that list it.
-/
namespace TypedQuery

namespace Schema

variable {s : Schema} {name : String} {d : TypeDef} {f : FieldDef}

/-- A schema without repeated fields in which only interfaces are implemented. -/
structure Regular (s : Schema) : Prop where
  distinctFields : ∀ d ∈ s.types, (d.fields.map (·.name)).Nodup
  interfaces : ∀ d ∈ s.types, ∀ i ∈ d.interfaces, (s.get? i).any (·.kind = .interface)

/-- The name of a union. -/
def isUnion (s : Schema) (name : String) : Bool := (s.get? name).any (·.kind = .union)

/-- The fields that the definition of a name lists itself. -/
def ownFields (s : Schema) (name : String) : List FieldDef :=
  ((s.get? name).map TypeDef.fields).getD []

/-- The interfaces that the definition of a name lists itself. -/
def ownInterfaces (s : Schema) (name : String) : List String :=
  ((s.get? name).map TypeDef.interfaces).getD []

theorem get?_eq_some_iff : s.get? name = some d ↔ d ∈ s.types ∧ d.name = name :=
  find?_eq_some_iff_of_nodup s.distinct

theorem mem_compositeNames_iff :
    name ∈ s.compositeNames ↔ ∃ d, s.get? name = some d ∧ d.isComposite = true := by
  rw [compositeNames, List.mem_map]
  constructor
  · rintro ⟨d, hd, rfl⟩
    obtain ⟨hmem, hcomposite⟩ := List.mem_filter.1 hd
    exact ⟨d, get?_eq_some_iff.2 ⟨hmem, rfl⟩, hcomposite⟩
  · rintro ⟨d, hget, hcomposite⟩
    obtain ⟨hmem, hname⟩ := get?_eq_some_iff.1 hget
    exact ⟨d, List.mem_filter.2 ⟨hmem, hcomposite⟩, hname⟩

theorem nodup_compositeNames : s.compositeNames.Nodup :=
  s.distinct.sublist (List.filter_sublist.map _)

theorem nodup_enums : (s.enums.map (·.name)).Nodup :=
  s.distinct.sublist (sublist_map_filterMap fun d _ hsome => by cases d <;> cases hsome; rfl)

theorem nodup_inputs : (s.inputs.map (·.name)).Nodup :=
  s.distinct.sublist (sublist_map_filterMap fun d _ hsome => by cases d <;> cases hsome; rfl)

theorem mem_enums_iff {e : EnumDef} : e ∈ s.enums ↔ s.get? e.name = some (.enum e) := by
  rw [get?_eq_some_iff, enums, List.mem_filterMap]
  constructor
  · rintro ⟨d, hd, hsome⟩
    cases d with
    | enum other =>
      cases hsome
      exact ⟨hd, rfl⟩
    | _ => cases hsome
  · rintro ⟨hd, _⟩
    exact ⟨.enum e, hd, rfl⟩

theorem mem_inputs_iff {e : InputDef} : e ∈ s.inputs ↔ s.get? e.name = some (.input e) := by
  rw [get?_eq_some_iff, inputs, List.mem_filterMap]
  constructor
  · rintro ⟨d, hd, hsome⟩
    cases d with
    | input other =>
      cases hsome
      exact ⟨hd, rfl⟩
    | _ => cases hsome
  · rintro ⟨hd, _⟩
    exact ⟨.input e, hd, rfl⟩

theorem isUnion_iff : s.isUnion name = true ↔ ∃ d, s.get? name = some (.union d) := by
  unfold isUnion
  cases s.get? name with
  | none => simp
  | some d => cases d <;> simp [TypeDef.kind]

/-! ## Listed fields -/

theorem listedFields_of_not_isUnion (h : s.isUnion name = false) :
    s.listedFields name = s.ownFields name := by
  unfold listedFields
  split
  · next d hget =>
    rw [isUnion_iff.2 ⟨d, hget⟩] at h
    cases h
  · rfl

/-- A field of the same name and shape is the same field. -/
theorem any_sameShape_iff {fields : List FieldDef} :
    (fields.any fun g => g.name = f.name && g.sameShape f) = true ↔ f ∈ fields := by
  rw [List.any_eq_true]
  constructor
  · rintro ⟨g, hg, hsame⟩
    simp only [Bool.and_eq_true, decide_eq_true_eq, FieldDef.sameShape_iff] at hsame
    obtain ⟨hname, htype, harguments⟩ := hsame
    cases f
    cases g
    simp only at hname htype harguments
    exact hname ▸ htype ▸ harguments ▸ hg
  · intro hf
    exact ⟨f, hf, by simp [FieldDef.sameShape]⟩

/-- The fields that all members list, with one name, type and list of arguments, in the order of the
first member. -/
def sharedFields (s : Schema) : List String → List FieldDef
  | [] => []
  | first :: others => (s.ownFields first).filter fun f => ∀ m ∈ others, f ∈ s.ownFields m

theorem mem_sharedFields_iff {members : List String} :
    f ∈ s.sharedFields members ↔ members ≠ [] ∧ ∀ m ∈ members, f ∈ s.ownFields m := by
  cases members with
  | nil => simp [sharedFields]
  | cons first others => simp [sharedFields]

/-- A union lists what its members share. -/
theorem listedFields_of_union {d : UnionDef} (hget : s.get? name = some (.union d)) :
    s.listedFields name = s.sharedFields d.members := by
  unfold listedFields
  simp only [hget]
  cases d.members with
  | nil => rfl
  | cons first others =>
    apply List.filter_congr
    intro f _
    rw [Bool.eq_iff_iff, List.all_eq_true, decide_eq_true_eq]
    exact forall₂_congr fun m _ => any_sameShape_iff

/-- What a union lists, each of its members lists as well. -/
theorem mem_ownFields_of_union {d : UnionDef} {m : String} (hget : s.get? name = some (.union d))
    (hf : f ∈ s.listedFields name) (hm : m ∈ d.members) : f ∈ s.ownFields m := by
  rw [listedFields_of_union hget] at hf
  exact (mem_sharedFields_iff.1 hf).2 m hm

/-- A union with a member that has no fields lists nothing. -/
theorem listedFields_of_member {d : UnionDef} {m : String} (hget : s.get? name = some (.union d))
    (hm : m ∈ d.members) (hfields : s.ownFields m = []) : s.listedFields name = [] := by
  rw [List.eq_nil_iff_forall_not_mem]
  intro f hf
  have hown := mem_ownFields_of_union hget hf hm
  rw [hfields] at hown
  cases hown

theorem ownFields_of_isUnion (h : s.isUnion name = true) : s.ownFields name = [] := by
  obtain ⟨d, hget⟩ := isUnion_iff.1 h
  simp [ownFields, hget, TypeDef.fields]

theorem ownInterfaces_of_isUnion (h : s.isUnion name = true) : s.ownInterfaces name = [] := by
  obtain ⟨d, hget⟩ := isUnion_iff.1 h
  simp [ownInterfaces, hget, TypeDef.interfaces]

theorem not_isComposite (hname : ¬ name ∈ s.compositeNames) (hget : s.get? name = some d) :
    d.isComposite = false := by
  obtain ⟨hmem, rfl⟩ := get?_eq_some_iff.1 hget
  rw [Bool.eq_false_iff]
  intro hcomposite
  exact hname (List.mem_map_of_mem (List.mem_filter.2 ⟨hmem, hcomposite⟩))

theorem ownFields_of_not_composite (hname : ¬ name ∈ s.compositeNames) :
    s.ownFields name = [] := by
  unfold ownFields
  cases hget : s.get? name with
  | none => rfl
  | some d =>
    have hcomposite := not_isComposite hname hget
    cases d <;> first | rfl | cases hcomposite

theorem ownInterfaces_of_not_composite (hname : ¬ name ∈ s.compositeNames) :
    s.ownInterfaces name = [] := by
  unfold ownInterfaces
  cases hget : s.get? name with
  | none => rfl
  | some d =>
    have hcomposite := not_isComposite hname hget
    cases d <;> first | rfl | cases hcomposite

theorem listedFields_of_not_composite (hname : ¬ name ∈ s.compositeNames) :
    s.listedFields name = [] := by
  cases hunion : s.isUnion name with
  | false => rw [listedFields_of_not_isUnion hunion, ownFields_of_not_composite hname]
  | true =>
    obtain ⟨d, hget⟩ := isUnion_iff.1 hunion
    cases not_isComposite hname hget

theorem Regular.nodup_ownFields (h : s.Regular) : ((s.ownFields name).map (·.name)).Nodup := by
  unfold ownFields
  cases hget : s.get? name with
  | none => simp
  | some d => exact h.distinctFields d (get?_eq_some_iff.1 hget).1

theorem Regular.nodup_sharedFields (h : s.Regular) {members : List String} :
    ((s.sharedFields members).map (·.name)).Nodup := by
  cases members with
  | nil => exact List.nodup_nil
  | cons first others => exact h.nodup_ownFields.sublist (List.filter_sublist.map _)

/-- What members share does not depend on their order. -/
theorem Regular.sharedFields_perm (h : s.Regular) {members others : List String}
    (hperm : members.Perm others) : (s.sharedFields members).Perm (s.sharedFields others) := by
  -- Nothing is shared twice, so that it is enough to know what is shared.
  rw [List.perm_ext_iff_of_nodup h.nodup_sharedFields.of_map h.nodup_sharedFields.of_map]
  intro f
  have hnil : members = [] ↔ others = [] := by
    rw [← List.length_eq_zero_iff, hperm.length_eq, List.length_eq_zero_iff]
  simp only [mem_sharedFields_iff, Ne, hnil, hperm.mem_iff]

theorem Regular.nodup_listedFields (h : s.Regular) :
    ((s.listedFields name).map (·.name)).Nodup := by
  cases hunion : s.isUnion name with
  | false =>
    rw [listedFields_of_not_isUnion hunion]
    exact h.nodup_ownFields
  | true =>
    obtain ⟨d, hget⟩ := isUnion_iff.1 hunion
    rw [listedFields_of_union hget]
    exact h.nodup_sharedFields

/-! ## Casts -/

theorem edge_rawEdges {a b : String} :
    (Lineage.rawEdges s).Edge a b ↔ ∃ d ∈ s.types, (a, b) ∈ Lineage.edgesOf d := by
  rw [Lineage.rawEdges, NameGraph.edge_addEdges, or_iff_left NameGraph.not_edge_empty,
    List.mem_flatMap]

/-- What can be cast down to a type is an interface that the type lists or a union that lists it. -/
theorem edge_rawEdges_cases {a b : String} (h : (Lineage.rawEdges s).Edge a b) :
    a ∈ s.ownInterfaces b ∨ ∃ d, s.get? a = some (.union d) ∧ b ∈ d.members := by
  obtain ⟨d, hd, hmem⟩ := edge_rawEdges.1 h
  have hget : s.get? d.name = some d := get?_eq_some_iff.2 ⟨hd, rfl⟩
  unfold ownInterfaces
  cases d with
  | object e | interface e =>
    obtain ⟨i, hi, heq⟩ := List.mem_map.1 hmem
    cases heq
    rw [show s.get? e.name = _ from hget]
    exact Or.inl hi
  | union e =>
    obtain ⟨m, hm, heq⟩ := List.mem_map.1 hmem
    cases heq
    exact Or.inr ⟨e, hget, hm⟩
  | enum e | input e | scalar e => cases hmem

theorem Regular.not_isUnion_of_mem_ownInterfaces (h : s.Regular) {i : String}
    (hi : i ∈ s.ownInterfaces name) : s.isUnion i = false := by
  unfold ownInterfaces at hi
  cases hget : s.get? name with
  | none =>
    rw [hget] at hi
    cases hi
  | some d =>
    rw [hget] at hi
    have hkind := h.interfaces d (get?_eq_some_iff.1 hget).1 i hi
    unfold isUnion
    cases htarget : s.get? i with
    | none => rfl
    | some e =>
      rw [htarget] at hkind
      have hinterface : e.kind = .interface := by simpa using hkind
      simp [hinterface]

end Schema

end TypedQuery
