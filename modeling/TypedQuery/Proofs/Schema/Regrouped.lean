-- SUMMARY: Schemas that differ in the order of union members only.
import TypedQuery.Proofs.Names.Extensional
import TypedQuery.Proofs.Schema.Regular

/-!
# Members in another order

Two schemas are regrouped if they differ only in the order in which unions list their members. The order is
of no account for casts, connections and super types, nor for the models of fields; what a union lists comes
in another order, if at all: `Schema.Regrouped.listedFields_perm`.
-/
namespace TypedQuery

/-- The same type, or the same union with its members in another order. -/
inductive TypeDef.Regrouped : TypeDef → TypeDef → Prop
  | same (d : TypeDef) : Regrouped d d
  | union {name : String} {members others : List String} :
    members.Perm others → Regrouped (.union ⟨name, members⟩) (.union ⟨name, others⟩)

namespace TypeDef.Regrouped

variable {d e : TypeDef}

theorem name_eq (h : d.Regrouped e) : d.name = e.name := by
  cases h <;> rfl

theorem kind_eq (h : d.Regrouped e) : d.kind = e.kind := by
  cases h <;> rfl

theorem isComposite_eq (h : d.Regrouped e) : d.isComposite = e.isComposite := by
  cases h <;> rfl

theorem fields_eq (h : d.Regrouped e) : d.fields = e.fields := by
  cases h <;> rfl

theorem interfaces_eq (h : d.Regrouped e) : d.interfaces = e.interfaces := by
  cases h <;> rfl

theorem edgesOf_perm (h : d.Regrouped e) : (Lineage.edgesOf d).Perm (Lineage.edgesOf e) := by
  cases h with
  | same => exact .refl _
  | union hperm => exact hperm.map _

end TypeDef.Regrouped

/-- The same types in the same order, with the same roots, but that unions may list their members in
another order. -/
structure Schema.Regrouped (s s' : Schema) : Prop where
  types : List.Forall₂ TypeDef.Regrouped s.types s'.types
  roots : s.roots = s'.roots

namespace Schema.Regrouped

variable {s s' : Schema} {settings : Settings} {name : String}

/-! ## Looking up types -/

/-- A name has no type in either schema, or regrouped types in both. -/
theorem get?_cases (h : s.Regrouped s') (name : String) :
    (s.get? name = none ∧ s'.get? name = none) ∨
      ∃ d e, s.get? name = some d ∧ s'.get? name = some e ∧ d.Regrouped e := by
  apply find?_cases_of_forall₂ h.types
  intro d e hd
  rw [hd.name_eq]

/-- What is the same of regrouped types is the same of the types of a name. -/
theorem map_get?_eq {α : Type} {f : TypeDef → α} (h : s.Regrouped s')
    (hf : ∀ d e, d.Regrouped e → f d = f e) : (s.get? name).map f = (s'.get? name).map f := by
  rcases h.get?_cases name with ⟨hd, he⟩ | ⟨d, e, hd, he, hregrouped⟩
  · rw [hd, he]
  · rw [hd, he, Option.map_some, Option.map_some, hf d e hregrouped]

theorem isSome_get?_eq (h : s.Regrouped s') : (s.get? name).isSome = (s'.get? name).isSome := by
  have hunit : (s.get? name).map (fun _ => ()) = (s'.get? name).map fun _ => () :=
    h.map_get?_eq fun _ _ _ => rfl
  rw [← Option.isSome_map, hunit, Option.isSome_map]

theorem isNone_get?_eq (h : s.Regrouped s') : (s.get? name).isNone = (s'.get? name).isNone := by
  rw [← Option.not_isSome, ← Option.not_isSome, h.isSome_get?_eq]

theorem any_get?_eq {p : TypeDef → Bool} (h : s.Regrouped s')
    (hp : ∀ d e, d.Regrouped e → p d = p e) : (s.get? name).any p = (s'.get? name).any p := by
  rcases h.get?_cases name with ⟨hd, he⟩ | ⟨d, e, hd, he, hregrouped⟩
  · rw [hd, he]
  · rw [hd, he, Option.any_some, Option.any_some, hp d e hregrouped]

theorem ownFields_eq (h : s.Regrouped s') : s.ownFields = s'.ownFields := by
  funext name
  rw [ownFields, ownFields, h.map_get?_eq fun _ _ => TypeDef.Regrouped.fields_eq]

theorem ownInterfaces_eq (h : s.Regrouped s') : s.ownInterfaces = s'.ownInterfaces := by
  funext name
  rw [ownInterfaces, ownInterfaces, h.map_get?_eq fun _ _ => TypeDef.Regrouped.interfaces_eq]

theorem isUnion_eq (h : s.Regrouped s') : s.isUnion = s'.isUnion := by
  funext name
  exact h.any_get?_eq fun d e hd => by rw [hd.kind_eq]

theorem isComposite_eq (h : s.Regrouped s') : s.isComposite = s'.isComposite := by
  funext name
  exact h.any_get?_eq fun d e hd => hd.isComposite_eq

theorem compositeNames_eq (h : s.Regrouped s') : s.compositeNames = s'.compositeNames := by
  have hcomposites : List.Forall₂ TypeDef.Regrouped (s.types.filter TypeDef.isComposite)
      (s'.types.filter TypeDef.isComposite) :=
    List.rel_filter (fun _ _ hd => Bool.eq_iff_iff.1 hd.isComposite_eq) h.types
  exact map_eq_map_of_forall₂ hcomposites fun _ _ _ hd => hd.name_eq

theorem checkRoots_eq (h : s.Regrouped s') : s.checkRoots = s'.checkRoots := by
  rw [checkRoots, checkRoots, h.roots]
  refine congrArg s'.roots.names.forM (funext fun root => ?_)
  rcases h.get?_cases root with ⟨hd, he⟩ | ⟨d, e, hd, he, hregrouped⟩
  · rw [hd, he]
  · rw [hd, he]
    cases hregrouped <;> rfl

/-! ## Casts and connections -/

theorem lineage_eq (h : s.Regrouped s') : Lineage.ofSchema s = .ofSchema s' := by
  have hperm (types others : List TypeDef) (htypes : List.Forall₂ TypeDef.Regrouped types others) :
      (types.flatMap Lineage.edgesOf).Perm (others.flatMap Lineage.edgesOf) := by
    induction htypes with
    | nil => exact .refl _
    | cons hd _ ih =>
      rw [List.flatMap_cons, List.flatMap_cons]
      exact hd.edgesOf_perm.append ih
  -- A graph does not know in which order its edges were added.
  rw [Lineage.ofSchema, Lineage.ofSchema, Lineage.rawEdges, Lineage.rawEdges,
    NameGraph.foldl_addEdge_eq_of_perm (hperm _ _ h.types)]

/-- Connections and their edges are objects, so that no union takes part in them. -/
theorem connectionOf?_eq (h : s.Regrouped s') {d e : TypeDef} (hd : d.Regrouped e) :
    s.connectionOf? d = s'.connectionOf? e := by
  have hscalar (name : String) :
      (s.get? name).any (·.kind = .scalar) = (s'.get? name).any (·.kind = .scalar) :=
    h.any_get?_eq fun d e hd => by rw [hd.kind_eq]
  cases hd with
  | union => rfl
  | same d =>
    cases d with
    | object d =>
      simp only [connectionOf?, h.isComposite_eq, hscalar]
      cases d.field? "edges" with
      | none => rfl
      | some edges =>
        dsimp only
        -- The edges are looked up by their name. If they are an object, they are the same object
        -- in both schemas.
        rcases h.get?_cases edges.type.base with ⟨hd, he⟩ | ⟨d, e, hd, he, hregrouped⟩
        · rw [hd, he]
        · rw [hd, he]
          cases hregrouped <;> rfl
    | _ => rfl

theorem connections_eq (h : s.Regrouped s') : s.connections = s'.connections := by
  have hconnections (types others : List TypeDef)
      (htypes : List.Forall₂ TypeDef.Regrouped types others) :
      types.filterMap s.connectionOf? = others.filterMap s'.connectionOf? := by
    induction htypes with
    | nil => rfl
    | cons hd _ ih => rw [List.filterMap_cons, List.filterMap_cons, h.connectionOf?_eq hd, ih]
  exact hconnections _ _ h.types

/-! ## Listed fields -/

theorem exists_union (h : s.Regrouped s') {d : UnionDef} (hd : s.get? name = some (.union d)) :
    ∃ e, s'.get? name = some (.union e) ∧ d.members.Perm e.members := by
  rcases h.get?_cases name with ⟨hnone, _⟩ | ⟨d, e, hsome, he, hregrouped⟩
  · rw [hnone] at hd
    cases hd
  · rw [hsome] at hd
    cases hd
    cases hregrouped with
    | same => exact ⟨_, he, .refl _⟩
    | union hperm => exact ⟨_, he, hperm⟩

theorem sharedFields_eq (h : s.Regrouped s') : s.sharedFields = s'.sharedFields := by
  funext members
  cases members with
  | nil => rfl
  | cons first others => rw [sharedFields, sharedFields, h.ownFields_eq]

/-- The fields that a type lists are the same, but for the order in which a union lists them. -/
theorem listedFields_perm (h : s.Regrouped s') (hs : s.Regular) :
    (s.listedFields name).Perm (s'.listedFields name) := by
  cases hunion : s.isUnion name with
  | false =>
    rw [listedFields_of_not_isUnion hunion, listedFields_of_not_isUnion (h.isUnion_eq ▸ hunion),
      h.ownFields_eq]
  | true =>
    obtain ⟨d, hd⟩ := isUnion_iff.1 hunion
    obtain ⟨e, he, hmembers⟩ := h.exists_union hd
    rw [listedFields_of_union hd, listedFields_of_union he, ← h.sharedFields_eq]
    exact hs.sharedFields_perm hmembers

end Schema.Regrouped

end TypedQuery
