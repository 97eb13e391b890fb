-- SUMMARY: The order in which unions list their members is of no account but for the order of fields.
import Mathlib.Data.List.Perm.Basic
import TypedQuery.Proofs.Model.Lawful
import TypedQuery.Proofs.Model.Order
import TypedQuery.Proofs.Schema.Regrouped

/-!
# Models of regrouped schemas

Regrouped schemas have the same casts, connections and super types. The models of a name are therefore put
together alike, and differ in the order in which unions declare what their members share. No search for an
inherited definition sees that order, for such a search passes over unions: `Counterpart`.
-/
namespace TypedQuery

/-! ## Lawful types in another order -/

theorem SelectableType.Lawful.of_perm {category : TypeCategory} {superTypes others : List SelectableType}
    {declared reordered : List SelectableField} (h : Lawful category superTypes declared)
    (hperm : declared.Perm reordered) (hsupers : superTypes = [] → others = []) :
    Lawful category others reordered := by
  have hdistinct : (reordered.map (·.name)).Nodup := (hperm.map _).nodup_iff.1 h.distinct
  have hfind : (fun n => declared.find? (·.name = n)) = fun n => reordered.find? (·.name = n) := by
    funext n
    apply Option.ext
    intro f
    rw [find?_eq_some_iff_of_nodup h.distinct, find?_eq_some_iff_of_nodup hdistinct, hperm.mem_iff]
  exact {
    complete f hf := h.complete f (hperm.mem_iff.2 hf)
    distinct := hdistinct
    meets := hfind ▸ h.meets
    superTypes hcategory := hsupers (h.superTypes hcategory) }

namespace Outline

variable {s s' : Schema} {settings : Settings} {name : String} {t t' : SelectableType}

/-! ## What unions take no part in -/

theorem connection?_eq_of_regrouped (h : s.Regrouped s') :
    (ofSchema s settings).connection? = (ofSchema s' settings).connection? := by
  funext name
  exact congrArg (List.find? _) h.connections_eq

theorem categoryOf_eq_of_regrouped (h : s.Regrouped s') :
    (ofSchema s settings).categoryOf = (ofSchema s' settings).categoryOf := by
  funext name
  have hedge : (ofSchema s settings).isEdge name = (ofSchema s' settings).isEdge name :=
    congrArg (List.any · _) h.connections_eq
  rw [categoryOf, categoryOf, connection?_eq_of_regrouped h, hedge]

theorem superNames_eq_of_regrouped (h : s.Regrouped s') :
    (ofSchema s settings).superNames = (ofSchema s' settings).superNames := by
  funext name
  have hlisted : ((s.get? name).map TypeDef.interfaces).getD [] =
      ((s'.get? name).map TypeDef.interfaces).getD [] := congrFun h.ownInterfaces_eq name
  have hlineage : (ofSchema s settings).lineage = (ofSchema s' settings).lineage := h.lineage_eq
  rw [superNames, superNames, categoryOf_eq_of_regrouped h, hlineage, schema_ofSchema,
    schema_ofSchema, hlisted, h.compositeNames_eq]

theorem fieldModel_eq_of_regrouped (h : s.Regrouped s') :
    (ofSchema s settings).fieldModel = (ofSchema s' settings).fieldModel :=
  fieldModel_congr (connection?_eq_of_regrouped h) rfl fun _ =>
    h.map_get?_eq fun _ _ hregrouped => hregrouped.isComposite_eq

/-! ## Counterparts -/

/-- Models of one name in regrouped schemas: what can be inherited from them is the same, and so is what
they declare, whatever its order. -/
structure Counterpart (s s' : Schema) (t t' : SelectableType) : Prop where
  inherited : ∀ n, inheritedFrom? s n t = inheritedFrom? s' n t'
  declared : t.declared.Perm t'.declared

theorem findSome?_eq_of_counterparts {superTypes others : List SelectableType}
    (h : List.Forall₂ (Counterpart s s') superTypes others) (n : String) :
    superTypes.findSome? (inheritedFrom? s n) = others.findSome? (inheritedFrom? s' n) :=
  findSome?_eq_of_forall₂ h fun _ _ hcounterpart => hcounterpart.inherited n

theorem isInherited_eq_of_counterparts {superTypes others : List SelectableType}
    (h : List.Forall₂ (Counterpart s s') superTypes others) :
    isInherited s superTypes = isInherited s' others := by
  funext f
  rw [isInherited, isInherited, inheritedFromAny?_eq, inheritedFromAny?_eq,
    findSome?_eq_of_counterparts h]

/-- A model is the counterpart of another if their super types are counterparts. -/
theorem Modelled.counterpart (ht : (ofSchema s settings).Modelled t)
    (ht' : (ofSchema s' settings).Modelled t') (h : s.Regrouped s') (hname : t.name = t'.name)
    (hsupers : List.Forall₂ (Counterpart s s') t.superTypes t'.superTypes)
    (hdeclared : t.declared.Perm t'.declared) : Counterpart s s' t t' := by
  refine ⟨fun n => ?_, hdeclared⟩
  have hsame : s'.isUnion t'.name = s.isUnion t.name := by rw [h.isUnion_eq, hname]
  cases hunion : s.isUnion t.name with
  -- The order differs only in unions, and nothing is inherited from those.
  | true => rw [inheritedFrom?_of_isUnion hunion, inheritedFrom?_of_isUnion (hsame.trans hunion)]
  | false =>
    have hknown : (s.get? t.name).isSome := ht.known
    have hknown' : (s'.get? t'.name).isSome := ht'.known
    have hdeclares : t.declares n = t'.declares n := hdeclared.any_eq
    rw [inheritedFrom?_of_isSome hknown hunion,
      inheritedFrom?_of_isSome hknown' (hsame.trans hunion), hdeclares, hname, h.ownFields_eq,
      findSome?_eq_of_counterparts hsupers]

/-- Over counterparts of its super types a type declares the same fields in some order. -/
theorem exists_modelOver (h : s.Regrouped s') (hs : s.Regular) {superTypes others : List SelectableType}
    (hover : (ofSchema s settings).modelOver name superTypes = .ok t)
    (hsupers : List.Forall₂ (Counterpart s s') superTypes others) :
    ∃ t', (ofSchema s' settings).modelOver name others = .ok t' ∧
      List.Forall₂ (Counterpart s s') t.superTypes t'.superTypes ∧ t.declared.Perm t'.declared := by
  obtain ⟨declared, hdeclared, hmake⟩ := modelOver_eq_ok_iff.1 hover
  have hlisted : ((s'.listedFields name).filter (!isInherited s' others ·)).Perm
      ((s.listedFields name).filter (!isInherited s superTypes ·)) := by
    rw [isInherited_eq_of_counterparts hsupers]
    exact (h.listedFields_perm hs).symm.filter _
  -- The field models come in the order of the listings, so a permutation of the listings is one of
  -- the models.
  obtain ⟨reordered, hreordered, hperm⟩ := List.perm_comp_forall₂ hlisted hdeclared
  have hlawful : SelectableType.Lawful ((ofSchema s' settings).categoryOf name) others reordered := by
    rw [← categoryOf_eq_of_regrouped h]
    refine (SelectableType.exists_make?_iff.1 ⟨t, hmake⟩).of_perm hperm.symm ?_
    rintro rfl
    exact List.forall₂_nil_left_iff.1 hsupers
  obtain ⟨t', hmake'⟩ : ∃ t', SelectableType.make? name ((ofSchema s' settings).categoryOf name) others
      reordered = .ok t' := SelectableType.exists_make?_iff.2 hlawful
  refine ⟨t', modelOver_eq_ok_iff.2 ⟨reordered, ?_, hmake'⟩, ?_⟩
  · rw [← fieldModel_eq_of_regrouped h]
    exact hreordered
  · obtain ⟨_, _, _, rfl⟩ := SelectableType.make?_eq_ok_iff.1 hmake
    obtain ⟨_, _, _, rfl⟩ := SelectableType.make?_eq_ok_iff.1 hmake'
    exact ⟨hsupers, hperm.symm⟩

/-- Every model has a counterpart. -/
theorem exists_counterpart (h : s.Regrouped s') (hs : s.Regular) (name : String) (t : SelectableType)
    (ht : (ofSchema s settings).typeOf name = .ok t) :
    ∃ t', (ofSchema s' settings).typeOf name = .ok t' ∧ Counterpart s s' t t' := by
  obtain ⟨hname, hmodelled⟩ := typeOf_eq_ok ht
  rw [typeOf_eq] at ht
  split at ht
  · cases ht
  · next hknown =>
    obtain ⟨superTypes, hsupers, hover⟩ := bind_eq_ok_iff.1 ht
    -- The recursion goes up the lineage: every super type has a counterpart already.
    have hcounterparts : ∀ superName ∈ (ofSchema s settings).superNames name, ∀ u,
        (ofSchema s settings).typeOf superName = .ok u →
        ∃ u', (ofSchema s' settings).typeOf superName = .ok u' ∧ Counterpart s s' u u' :=
      fun superName hsuper u hu => exists_counterpart h hs superName u hu
    obtain ⟨others, hothers⟩ : ∃ others, ((ofSchema s settings).superNames name).mapM
        (ofSchema s' settings).typeOf = .ok others := by
      apply exists_mapM_eq_ok_iff.2
      intro superName hsuper
      obtain ⟨u, _, hu⟩ := exists_of_mem_left (mapM_eq_ok_iff.1 hsupers) hsuper
      obtain ⟨u', hu', _⟩ := hcounterparts superName hsuper u hu
      exact ⟨u', hu'⟩
    have hpairs : List.Forall₂ (Counterpart s s') superTypes others := by
      apply forall₂_of_forall₂ (mapM_eq_ok_iff.1 hsupers) (mapM_eq_ok_iff.1 hothers)
      intro superName hsuper u v hu hv
      obtain ⟨u', hu', hcounterpart⟩ := hcounterparts superName hsuper u hu
      rw [hv] at hu'
      cases hu'
      exact hcounterpart
    obtain ⟨t', hover', habove, hdeclared⟩ := exists_modelOver h hs hover hpairs
    have ht' : (ofSchema s' settings).typeOf name = .ok t' := by
      rw [schema_ofSchema, h.isNone_get?_eq] at hknown
      rw [typeOf_eq, schema_ofSchema, if_neg hknown, ← superNames_eq_of_regrouped h]
      exact bind_eq_ok_iff.2 ⟨others, hothers, hover'⟩
    obtain ⟨hname', hmodelled'⟩ := typeOf_eq_ok ht'
    exact ⟨t', ht', hmodelled.counterpart hmodelled' h (hname.trans hname'.symm) habove hdeclared⟩
termination_by ((ofSchema s settings).lineage.ancestors name).size
decreasing_by exact size_ancestors_lt (by assumption)

end Outline

/-- If a schema can be modelled, so can a regrouped one. -/
theorem Catalog.exists_ofSchema_of_regrouped {c : Catalog} {s s' : Schema} {settings : Settings}
    (h : s.Regrouped s') (hs : s.Regular) (hc : ofSchema s settings = .ok c) :
    ∃ c', ofSchema s' settings = .ok c' := by
  obtain ⟨hvalid, hroots, htypes⟩ := exists_ofSchema_iff.1 ⟨c, hc⟩
  refine exists_ofSchema_iff.2 ⟨hvalid, h.checkRoots_eq ▸ hroots, fun name hname => ?_⟩
  obtain ⟨t, ht⟩ := htypes name (h.compositeNames_eq ▸ hname)
  obtain ⟨t', ht', _⟩ := Outline.exists_counterpart h hs name t ht
  exact ⟨t', ht'⟩

end TypedQuery
