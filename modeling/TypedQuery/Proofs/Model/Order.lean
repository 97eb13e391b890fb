-- SUMMARY: The order of the types of a schema is of no account for their models.
import TypedQuery.Proofs.Model.Inheritance
import TypedQuery.Proofs.Names.Extensional
import TypedQuery.Proofs.Schema.Connections

/-!
# The order of a schema

Modelling walks over the types of a schema in their order, but what it makes of a type it looks up by
name. The one thing that the order decides about is the order of the unions above a type. So two
schemas with the same types and the same order of unions have the same models: `typeOf_eq_typeOf`.
-/
namespace TypedQuery

/-! ## Reordered schemas -/

/-- The same types in another order, but for the unions, and the same roots. -/
structure Schema.Reordered (s s' : Schema) : Prop where
  types : s.types.Perm s'.types
  unions : s.types.filter (·.kind = .union) = s'.types.filter (·.kind = .union)
  roots : s.roots = s'.roots

namespace Schema.Reordered

variable {s s' : Schema} {settings : Settings} {name : String}

theorem symm (h : s.Reordered s') : s'.Reordered s :=
  ⟨h.types.symm, h.unions.symm, h.roots.symm⟩

theorem get?_eq (h : s.Reordered s') : s.get? = s'.get? := by
  funext name
  apply Option.ext
  intro d
  rw [get?_eq_some_iff, get?_eq_some_iff, h.types.mem_iff]

theorem rawEdges_eq (h : s.Reordered s') : Lineage.rawEdges s = Lineage.rawEdges s' :=
  NameGraph.foldl_addEdge_eq_of_perm (h.types.flatMap_right _)

theorem lineage_eq (h : s.Reordered s') : Lineage.ofSchema s = .ofSchema s' := by
  rw [Lineage.ofSchema, Lineage.ofSchema, h.rawEdges_eq]

theorem checkRoots_eq (h : s.Reordered s') : s.checkRoots = s'.checkRoots := by
  rw [checkRoots, checkRoots, h.roots, h.get?_eq]

theorem connectionOf?_eq (h : s.Reordered s') : s.connectionOf? = s'.connectionOf? := by
  funext d
  simp only [connectionOf?, isComposite, h.get?_eq]
  rfl

theorem connections_perm (h : s.Reordered s') : s.connections.Perm s'.connections := by
  rw [connections, connections, h.connectionOf?_eq]
  exact h.types.filterMap _

theorem listedFields_eq (h : s.Reordered s') : s.listedFields = s'.listedFields := by
  funext name
  simp only [listedFields, h.get?_eq]

theorem mem_compositeNames (h : s.Reordered s') :
    name ∈ s.compositeNames ↔ name ∈ s'.compositeNames :=
  ((h.types.filter _).map _).mem_iff

end Schema.Reordered

namespace Schema

/-- The names of the unions, in order. -/
def unionNames (s : Schema) : List String :=
  (s.types.filter (·.kind = .union)).map TypeDef.name

end Schema

namespace Outline

variable {s s' : Schema} {settings : Settings} {name : String}

theorem schema_ofSchema : (ofSchema s settings).schema = s := rfl

theorem connection?_eq_of_reordered (h : s.Reordered s') :
    (ofSchema s settings).connection? = (ofSchema s' settings).connection? := by
  funext name
  apply Option.ext
  intro k
  -- The tables are searched from the front, but no two connections have one name: what is found
  -- does not depend on the order.
  have hfirst : (ofSchema s settings).connection? name = some k ↔ _ :=
    find?_eq_some_iff_of_nodup s.nodup_connections
  have hsecond : (ofSchema s' settings).connection? name = some k ↔ _ :=
    find?_eq_some_iff_of_nodup s'.nodup_connections
  rw [hfirst, hsecond]
  exact and_congr_left fun _ => h.connections_perm.mem_iff

theorem categoryOf_eq_of_reordered (h : s.Reordered s') :
    (ofSchema s settings).categoryOf = (ofSchema s' settings).categoryOf := by
  funext name
  have hedge : (ofSchema s settings).isEdge name = (ofSchema s' settings).isEdge name :=
    h.connections_perm.any_eq
  simp only [categoryOf, connection?_eq_of_reordered h, hedge]

/-! ## Super types -/

/-- What is above a type and not listed by it is a union. -/
theorem isUnion_of_mem_upcasts {upcasts : NameSet} {d : TypeDef}
    (hupcasts : (Lineage.ofSchema s).upcasts.get? name = some upcasts) (hd : d ∈ s.types)
    (hmem : d.name ∈ upcasts) (hnew : d.name ∉ s.ownInterfaces name) : d.kind = .union := by
  have hedge : (Lineage.ofSchema s).upcasts.Edge name d.name :=
    NameGraph.edge_iff.2 ⟨upcasts, hupcasts, hmem⟩
  have hraw := (NameGraph.edge_reduce.1 (NameGraph.edge_inverse.1 hedge)).1
  rcases Schema.edge_rawEdges_cases hraw with hlisted | ⟨u, hget, _⟩
  · exact absurd hlisted hnew
  · rw [Schema.get?_eq_some_iff.2 ⟨hd, rfl⟩] at hget
    cases hget
    rfl

/-- The super types of an object type: the interfaces it lists, and then the unions. -/
theorem superNames_ofSchema : (ofSchema s settings).superNames name =
    if (ofSchema s settings).categoryOf name ≠ .object then []
    else
      match (Lineage.ofSchema s).upcasts.get? name with
      | none => []
      | some upcasts =>
        ((s.ownInterfaces name).filter (· ∈ upcasts)).eraseDups ++
          (s.unionNames.filter fun u => u ∈ upcasts ∧ u ∉ s.ownInterfaces name).eraseDups := by
  unfold superNames
  split
  · rfl
  · change (match (Lineage.ofSchema s).upcasts.get? name with
      | none => []
      | some upcasts =>
        ((s.ownInterfaces name ++ s.compositeNames).filter (· ∈ upcasts)).eraseDups) = _
    cases hupcasts : (Lineage.ofSchema s).upcasts.get? name with
    | none => rfl
    | some upcasts =>
      dsimp only
      -- Up to here the order of the definitions counts for all composite types. What follows the
      -- interfaces has to be a union, so that it counts for the unions only.
      rw [List.filter_append, List.eraseDups_append]
      congr 2
      rw [List.removeAll, Schema.compositeNames, Schema.unionNames, List.filter_map, List.filter_map,
        List.filter_map, List.filter_filter, List.filter_filter, List.filter_filter]
      apply congrArg
      apply List.filter_congr
      intro d hd
      have hunion := isUnion_of_mem_upcasts hupcasts hd
      have hcomposite : d.kind = .union → d.isComposite = true := by
        cases d <;> simp [TypeDef.kind, TypeDef.isComposite]
      by_cases hmem : d.name ∈ upcasts <;> by_cases hnew : d.name ∈ s.ownInterfaces name <;>
        simp_all

theorem superNames_eq_of_reordered (h : s.Reordered s') :
    (ofSchema s settings).superNames = (ofSchema s' settings).superNames := by
  funext name
  have hlisted : s.ownInterfaces = s'.ownInterfaces := by
    unfold Schema.ownInterfaces
    rw [h.get?_eq]
  rw [superNames_ofSchema, superNames_ofSchema, categoryOf_eq_of_reordered h, h.lineage_eq, hlisted,
    Schema.unionNames, Schema.unionNames, h.unions]

/-! ## Models -/

theorem inheritedFrom?_eq_of_reordered (h : s.Reordered s') {field : String} (t : SelectableType) :
    inheritedFrom? s field t = inheritedFrom? s' field t := by
  induction t using SelectableType.induction_superTypes with
  | step t ih =>
    have hsupers : t.superTypes.findSome? (inheritedFrom? s field) =
        t.superTypes.findSome? (inheritedFrom? s' field) :=
      findSome?_congr ih
    cases t
    rw [inheritedFrom?, inheritedFrom?, inheritedFromAny?_eq, inheritedFromAny?_eq, h.get?_eq,
      hsupers]

theorem isInherited_eq_of_reordered (h : s.Reordered s') : isInherited s = isInherited s' := by
  funext superTypes f
  have hfrom : inheritedFrom? s f.name = inheritedFrom? s' f.name :=
    funext (inheritedFrom?_eq_of_reordered h)
  rw [isInherited, isInherited, inheritedFromAny?_eq, inheritedFromAny?_eq, hfrom]

/-- Of a schema, the model of a field takes which names are defined, and which of them are composite. -/
theorem fieldModel_congr {o o' : Outline} (hconnections : o.connection? = o'.connection?)
    (hsettings : o.settings = o'.settings)
    (htypes : ∀ name, (o.schema.get? name).map TypeDef.isComposite =
      (o'.schema.get? name).map TypeDef.isComposite) : o.fieldModel = o'.fieldModel := by
  funext owner f
  have hdefined (name : String) : (o.schema.get? name).isSome = (o'.schema.get? name).isSome := by
    rw [← Option.isSome_map, htypes, Option.isSome_map]
  have harguments : checkArguments o.schema owner f = checkArguments o'.schema owner f := by
    simp only [checkArguments, hdefined]
  have hfield (d e : TypeDef) (hde : d.isComposite = e.isComposite) :
      o.fieldOfType f d = o'.fieldOfType f e := by
    unfold fieldOfType
    rw [hconnections, hsettings, hde]
  have htarget := htypes f.type.base
  unfold fieldModel
  rw [harguments]
  cases hd : o.schema.get? f.type.base with
  | none =>
    rw [hd] at htarget
    rw [Option.map_eq_none_iff.1 htarget.symm]
  | some d =>
    rw [hd] at htarget
    obtain ⟨e, he, hde⟩ := Option.map_eq_some_iff.1 htarget.symm
    rw [he]
    dsimp only
    rw [hfield d e hde.symm]

theorem fieldModel_eq_of_reordered (h : s.Reordered s') :
    (ofSchema s settings).fieldModel = (ofSchema s' settings).fieldModel :=
  fieldModel_congr (connection?_eq_of_reordered h) rfl fun name => by
    rw [schema_ofSchema, schema_ofSchema, h.get?_eq]

theorem modelOver_eq_of_reordered (h : s.Reordered s') :
    (ofSchema s settings).modelOver = (ofSchema s' settings).modelOver := by
  funext name superTypes
  unfold modelOver
  rw [fieldModel_eq_of_reordered h, categoryOf_eq_of_reordered h]
  rw [schema_ofSchema, schema_ofSchema, h.listedFields_eq, isInherited_eq_of_reordered h]

/-- Every name has the same model. -/
theorem typeOf_eq_of_reordered (h : s.Reordered s') (name : String) :
    (ofSchema s settings).typeOf name = (ofSchema s' settings).typeOf name := by
  -- The recursion is the one of `typeOf`: it goes up the lineage and ends because there are fewer
  -- names above a super type.
  have hsupers : ((ofSchema s settings).superNames name).mapM (ofSchema s settings).typeOf =
      ((ofSchema s settings).superNames name).mapM (ofSchema s' settings).typeOf :=
    mapM_congr fun superName _ => typeOf_eq_of_reordered h superName
  rw [typeOf_eq, typeOf_eq, modelOver_eq_of_reordered h, hsupers, superNames_eq_of_reordered h,
    schema_ofSchema, schema_ofSchema, h.get?_eq]
termination_by ((ofSchema s settings).lineage.ancestors name).size
decreasing_by exact size_ancestors_lt (by assumption)

end Outline

/-! ## Catalogs -/

namespace Catalog

variable {c c' : Catalog} {s s' : Schema} {settings : Settings} {name : String} {t : SelectableType}

/-- A schema can be modelled if each of its composite types has a model. -/
theorem exists_ofSchema_iff : (∃ c, ofSchema s settings = .ok c) ↔
    settings.validate = .ok () ∧ s.checkRoots = .ok () ∧
      ∀ name ∈ s.compositeNames, ∃ t, (Outline.ofSchema s settings).typeOf name = .ok t := by
  constructor
  · rintro ⟨c, hc⟩
    obtain ⟨houtline, htypes⟩ := ofSchema_eq_ok hc
    obtain ⟨_, hvalid, hrest⟩ := bind_eq_ok_iff.1 hc
    obtain ⟨_, hroots, _⟩ := bind_eq_ok_iff.1 hrest
    refine ⟨hvalid, hroots, fun name hname => ?_⟩
    obtain ⟨t, _, hmodel⟩ := exists_of_mem_left htypes hname
    exact ⟨t, houtline ▸ hmodel⟩
  · rintro ⟨hvalid, hroots, htypes⟩
    obtain ⟨types, htypes⟩ := exists_mapM_eq_ok_iff.2 htypes
    -- The types are built one after the other with what is built already at hand. That is of no
    -- account here: building fails only where some name has no model.
    have hagrees := (Outline.ofSchema s settings).mapM_build_agrees s.compositeNames [] nofun
    cases hbuild : (s.compositeNames.mapM (Outline.ofSchema s settings).build) [] with
    | error failure =>
      rw [hbuild, htypes] at hagrees
      cases hagrees
    | ok built =>
      exact ⟨_, bind_eq_ok_iff.2 ⟨(), hvalid, bind_eq_ok_iff.2 ⟨(), hroots,
        bind_eq_ok_iff.2 ⟨built, hbuild, rfl⟩⟩⟩⟩

theorem exists_ofSchema_of_reordered (h : s.Reordered s') (hc : ofSchema s settings = .ok c) :
    ∃ c', ofSchema s' settings = .ok c' := by
  obtain ⟨hvalid, hroots, htypes⟩ := exists_ofSchema_iff.1 ⟨c, hc⟩
  refine exists_ofSchema_iff.2 ⟨hvalid, h.checkRoots_eq ▸ hroots, ?_⟩
  intro name hname
  rw [← Outline.typeOf_eq_of_reordered h]
  exact htypes name (h.mem_compositeNames.2 hname)

theorem mem_known_iff (hc : ofSchema s settings = .ok c) : t ∈ c.known ↔
    ∃ u, u.name ∈ s.compositeNames ∧ (Outline.ofSchema s settings).typeOf u.name = .ok u ∧
      t ∈ u.family := by
  rw [known, SelectableType.familyOfAll_eq, List.mem_flatMap]
  refine exists_congr fun u => ?_
  rw [← and_assoc]
  refine and_congr_left fun _ => ?_
  rw [← (ofSchema_eq_ok hc).1]
  constructor
  · intro hu
    exact ⟨schema_eq hc ▸ name_mem_of_mem_types hc hu, typeOf_of_mem_types hc hu⟩
  · rintro ⟨hname, hmodel⟩
    exact mem_types_of_typeOf hc hmodel (schema_eq hc ▸ hname)

theorem type?_eq_ok_iff (hc : ofSchema s settings = .ok c) :
    c.type? name = .ok t ↔ t ∈ c.known ∧ t.name = name := by
  constructor
  · intro ht
    have hname := (typeOf_of_type? hc ht).1
    refine ⟨?_, hname⟩
    unfold type? at ht
    split at ht
    · next hfind =>
      cases ht
      exact List.mem_of_find?_eq_some hfind
    · cases ht
  · rintro ⟨hknown, rfl⟩
    exact type?_of_mem_known hc hknown

theorem error_of_type? {failure : Error} (h : c.type? name = .error failure) :
    failure = .unknownType name .lookup := by
  unfold type? at h
  split at h <;> cases h
  rfl

/-- Every name has the same type in the catalogs of reordered schemas, or none in both. -/
theorem type?_eq_of_reordered (h : s.Reordered s') (hc : ofSchema s settings = .ok c)
    (hc' : ofSchema s' settings = .ok c') : c.type? name = c'.type? name := by
  have hsame (t : SelectableType) : c.type? name = .ok t ↔ c'.type? name = .ok t := by
    rw [type?_eq_ok_iff hc, type?_eq_ok_iff hc', mem_known_iff hc, mem_known_iff hc']
    simp only [h.mem_compositeNames, Outline.typeOf_eq_of_reordered h]
  cases hfirst : c.type? name with
  | ok t => exact ((hsame t).1 hfirst).symm
  | error failure =>
    cases hsecond : c'.type? name with
    | ok t =>
      rw [(hsame t).2 hsecond] at hfirst
      cases hfirst
    | error other => rw [error_of_type? hfirst, error_of_type? hsecond]

end Catalog

end TypedQuery
