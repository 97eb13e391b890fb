-- SUMMARY: The subtypes that a schema spells out, and how lineages and models have them.
import TypedQuery.Proofs.Lineage.Acyclic
import TypedQuery.Proofs.Lineage.Reduction
import TypedQuery.Proofs.Model.Inheritance
import TypedQuery.Proofs.Schema.Connections

/-!
# Subtypes

One step down leads from an interface to a type that implements it, or from a union to a member;
`Schema.Below` is what any number of such steps lead to. If there is no cycle among them, a lineage
reaches the same types as they do. The super types of a model are one step up in the lineage, so that
all super types above a model are the types that it is below: `Outline.exists_superType_iff`.
-/
namespace TypedQuery

namespace Schema

variable {s : Schema} {a b name : String}

/-- A step down: from an interface to a type that implements it, or from a union to a member. -/
inductive Step (s : Schema) : String → String → Prop
  | implementor {d : TypeDef} {i : String} : d ∈ s.types → i ∈ d.interfaces → Step s i d.name
  | member {d : UnionDef} {m : String} : .union d ∈ s.types → m ∈ d.members → Step s d.name m

/-- One or more steps down lead from the first name to the second. -/
def Below (s : Schema) : String → String → Prop := Relation.TransGen s.Step

theorem edge_rawEdges_iff_step : (Lineage.rawEdges s).Edge a b ↔ s.Step a b := by
  rw [edge_rawEdges]
  constructor
  · rintro ⟨d, hd, hmem⟩
    cases d with
    | object e | interface e =>
      obtain ⟨i, hi, heq⟩ := List.mem_map.1 hmem
      cases heq
      exact .implementor hd hi
    | union e =>
      obtain ⟨m, hm, heq⟩ := List.mem_map.1 hmem
      cases heq
      exact .member hd hm
    | enum e | input e | scalar e => cases hmem
  · rintro (@⟨d, i, hd, hi⟩ | @⟨d, m, hd, hm⟩)
    · refine ⟨d, hd, ?_⟩
      cases d with
      | object e | interface e => exact List.mem_map_of_mem hi
      | union e | enum e | input e | scalar e => cases hi
    · exact ⟨_, hd, List.mem_map_of_mem hm⟩

theorem path_rawEdges_iff : (Lineage.rawEdges s).Path a b ↔ s.Below a b := by
  have hsame : (Lineage.rawEdges s).Edge = s.Step := by
    funext a b
    exact propext edge_rawEdges_iff_step
  rw [Below, ← hsame]

/-- No type is below itself. -/
def Acyclic (s : Schema) : Prop := ∀ name, ¬ s.Below name name

theorem acyclic_iff : s.Acyclic ↔ (Lineage.rawEdges s).Acyclic := by
  refine forall_congr' fun name => not_congr ?_
  exact path_rawEdges_iff.symm

instance : Decidable s.Acyclic := decidable_of_iff _ acyclic_iff.symm

/-- Everything that is implemented is an interface. -/
def ImplementsInterfaces (s : Schema) : Prop :=
  ∀ d ∈ s.types, ∀ i ∈ d.interfaces, (s.get? i).any (·.kind = .interface)

theorem ImplementsInterfaces.of_mem_ownInterfaces (h : s.ImplementsInterfaces)
    (ha : a ∈ s.ownInterfaces name) : (s.get? a).any (·.kind = .interface) := by
  unfold ownInterfaces at ha
  cases hget : s.get? name with
  | none =>
    rw [hget] at ha
    cases ha
  | some d =>
    rw [hget] at ha
    exact h d (get?_eq_some_iff.1 hget).1 a ha

instance : Decidable s.ImplementsInterfaces :=
  inferInstanceAs (Decidable (∀ d ∈ s.types, ∀ i ∈ d.interfaces, _))

end Schema

namespace Lineage

variable {s : Schema} {a b : String}

theorem path_downcasts_ofSchema (h : s.Acyclic) :
    (ofSchema s).downcasts.Path a b ↔ s.Below a b := by
  rw [← Schema.path_rawEdges_iff]
  exact (Schema.acyclic_iff.1 h).path_reduce_iff

theorem path_upcasts_ofSchema (h : s.Acyclic) :
    (ofSchema s).upcasts.Path b a ↔ s.Below a b :=
  path_upcasts_iff.trans (path_downcasts_ofSchema h)

end Lineage

/-! ## Super types of models -/

namespace Outline

variable {s : Schema} {settings : Settings} {name superName a : String} {t : SelectableType}

/-- Only objects are connections or edges. -/
theorem exists_object_of_categoryOf (h : (ofSchema s settings).categoryOf name ≠ .object) :
    ∃ d, s.get? name = some (.object d) := by
  unfold categoryOf at h
  split at h
  · next hconnection =>
    obtain ⟨k, hk⟩ := Option.isSome_iff_exists.1 hconnection
    have hname : k.type = name := by simpa using List.find?_some hk
    exact hname ▸ (Schema.objects_of_connection (List.mem_of_find?_eq_some hk)).1
  · split at h
    · next hedge =>
      obtain ⟨k, hk, hname⟩ := List.any_eq_true.1 hedge
      exact of_decide_eq_true hname ▸ (Schema.objects_of_connection hk).2
    · exact absurd rfl h

/-- The super types of an object type are the immediate casts up that the lineage has. -/
theorem mem_superNames_iff (h : (ofSchema s settings).categoryOf name = .object) :
    superName ∈ (ofSchema s settings).superNames name ↔
      (Lineage.ofSchema s).upcasts.Edge name superName := by
  refine ⟨edge_of_mem_superNames, ?_⟩
  intro hedge
  obtain ⟨upcasts, hupcasts, hmem⟩ := NameGraph.edge_iff.1 hedge
  have hraw := (NameGraph.edge_reduce.1 (NameGraph.edge_inverse.1 hedge)).1
  have hcandidate : superName ∈ s.ownInterfaces name ++ s.compositeNames := by
    rcases Schema.edge_rawEdges_cases hraw with hlisted | ⟨d, hget, _⟩
    · exact List.mem_append_left _ hlisted
    · obtain ⟨hd, hname⟩ := Schema.get?_eq_some_iff.1 hget
      apply List.mem_append_right
      exact hname ▸ List.mem_map_of_mem (List.mem_filter.2 ⟨hd, rfl⟩)
  have hlineage : (ofSchema s settings).lineage.upcasts.get? name = some upcasts := hupcasts
  rw [superNames, if_neg (fun hne => hne h), hlineage]
  exact List.mem_eraseDups.2 (List.mem_filter.2 ⟨hcandidate, decide_eq_true hmem⟩)

/-- The super types of a type are no connections or edges, because they are interfaces and unions. -/
theorem categoryOf_of_mem_superNames (hinterfaces : s.ImplementsInterfaces)
    (h : superName ∈ (ofSchema s settings).superNames name) :
    (ofSchema s settings).categoryOf superName = .object := by
  by_contra hcategory
  obtain ⟨d, hobject⟩ := exists_object_of_categoryOf hcategory
  rcases mem_superNames_cases rfl h with hlisted | ⟨u, hunion, _⟩
  · have hinterface := hinterfaces.of_mem_ownInterfaces hlisted
    have hget : s.get? superName = some (.object d) := hobject
    rw [hget] at hinterface
    cases hinterface
  · have hget : s.get? superName = some (.union u) := hunion
    rw [hobject] at hget
    cases hget

/-- Above the model of an object type are the models of all types that the lineage can cast it to. -/
theorem exists_superType_iff (hinterfaces : s.ImplementsInterfaces)
    (ht : (ofSchema s settings).Modelled t) (hcategory : t.category = .object) :
    (∃ u ∈ t.superTypes.flatMap SelectableType.family, u.name = a) ↔
      (Lineage.ofSchema s).upcasts.Path t.name a := by
  induction t using SelectableType.induction_superTypes with
  | step t ih =>
    have hname : (ofSchema s settings).categoryOf t.name = .object := ht.category ▸ hcategory
    -- A super type and what is above it, by its name.
    have habove (v : SelectableType) (hv : v ∈ t.superTypes) :
        (∃ u ∈ v.family, u.name = a) ↔
          v.name = a ∨ (Lineage.ofSchema s).upcasts.Path v.name a := by
      have hmodelled := ht.modelled_of_mem_superTypes hv
      have hsuper : v.name ∈ (ofSchema s settings).superNames t.name :=
        ht.names_superTypes ▸ List.mem_map_of_mem hv
      have hobject := categoryOf_of_mem_superNames hinterfaces hsuper
      rw [← ih v hv hmodelled (hmodelled.category.trans hobject), SelectableType.family_eq]
      simp only [List.mem_cons, exists_eq_or_imp]
    constructor
    · rintro ⟨u, hu, hua⟩
      obtain ⟨v, hv, hu⟩ := List.mem_flatMap.1 hu
      have hsuper : v.name ∈ (ofSchema s settings).superNames t.name :=
        ht.names_superTypes ▸ List.mem_map_of_mem hv
      have hedge := (mem_superNames_iff hname).1 hsuper
      rcases (habove v hv).1 ⟨u, hu, hua⟩ with rfl | hpath
      · exact .single hedge
      · exact .cons hedge hpath
    · intro hpath
      -- The other way round the path is taken apart from below, as the family is.
      have hfirst : ∃ b, (Lineage.ofSchema s).upcasts.Edge t.name b ∧
          (b = a ∨ (Lineage.ofSchema s).upcasts.Path b a) := by
        rcases NameGraph.Path.head hpath with hedge | ⟨b, hedge, hrest⟩
        · exact ⟨a, hedge, Or.inl rfl⟩
        · exact ⟨b, hedge, Or.inr hrest⟩
      obtain ⟨b, hedge, hrest⟩ := hfirst
      have hsuper := (mem_superNames_iff hname).2 hedge
      rw [← ht.names_superTypes] at hsuper
      obtain ⟨v, hv, rfl⟩ := List.mem_map.1 hsuper
      obtain ⟨u, hu, hua⟩ := (habove v hv).2 hrest
      exact ⟨u, List.mem_flatMap.2 ⟨v, hv, hu⟩, hua⟩

end Outline

end TypedQuery
