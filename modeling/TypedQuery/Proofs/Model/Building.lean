-- SUMMARY: Building types one after the other gives each its model, whatever has been built before.
import TypedQuery.Model.Catalog
import TypedQuery.Proofs.Model.Family
import TypedQuery.Proofs.Model.Rules

/-!
# Building

`Outline.typeOf` is the model of a type by itself. Building looks up what has been built;
`build_agrees` says that it gives the same, and `Modelled` says what such a model consists of.
-/
namespace TypedQuery

namespace Outline

variable {o : Outline} {α β : Type} {name : String}

/-- The model of a type, from the models of its super types. -/
def typeOf (o : Outline) (name : String) : Except Error SelectableType :=
  if (o.schema.get? name).isNone then .error (.unknownType name .construction)
  else do
    let superTypes ← (o.superNames name).attach.mapM fun ⟨superName, _⟩ => typeOf o superName
    o.modelOver name superTypes
termination_by (o.lineage.ancestors name).size
decreasing_by exact size_ancestors_lt (by assumption)

theorem typeOf_eq : o.typeOf name =
    if (o.schema.get? name).isNone then .error (.unknownType name .construction)
    else (o.superNames name).mapM o.typeOf >>= o.modelOver name := by
  rw [typeOf, List.mapM_subtype (g := o.typeOf) fun _ _ => rfl, List.unattach_attach]

theorem finish_run {superTypes built : List SelectableType} :
    o.finish name superTypes built =
      match o.modelOver name superTypes with
      | .error failure => .error failure
      | .ok t => .ok (t, built ++ [t]) := by
  change (o.modelOver name superTypes >>= fun t => .ok (t, built)) >>= _ = _
  cases o.modelOver name superTypes <;> rfl

theorem build_run {built : List SelectableType} :
    o.build name built =
      match built.find? (fun t : SelectableType => t.name = name) with
      | some t => .ok (t, built)
      | none =>
        if (o.schema.get? name).isNone then .error (.unknownType name .construction)
        else ((o.superNames name).mapM o.build >>= o.finish name) built := by
  rw [build, List.mapM_subtype (g := o.build) fun _ _ => rfl, List.unattach_attach]
  change (match built.find? (fun t : SelectableType => t.name = name) with
    | some t => (Pure.pure t : Building SelectableType)
    | none => _) built = _
  cases built.find? (fun t : SelectableType => t.name = name) with
  | some t => rfl
  | none => cases (o.schema.get? name).isNone <;> rfl

/-! ## Agreement -/

/-- Every type in the list is its own model. -/
def Sound (o : Outline) (built : List SelectableType) : Prop :=
  ∀ t ∈ built, o.typeOf t.name = .ok t

/-- A computation that looks at what has been built gives what another one gives that does not. -/
def Agrees (o : Outline) (x : Building α) (y : Except Error α) : Prop :=
  ∀ built, o.Sound built →
    match x built with
    | .ok (a, after) => y = .ok a ∧ o.Sound after
    | .error failure => y = .error failure

theorem Agrees.pure (a : α) : o.Agrees (Pure.pure a) (.ok a) :=
  fun _ hsound => ⟨rfl, hsound⟩

theorem Agrees.bind {x : Building α} {y : Except Error α} {f : α → Building β}
    {g : α → Except Error β} (hx : o.Agrees x y) (hf : ∀ a, y = .ok a → o.Agrees (f a) (g a)) :
    o.Agrees (x >>= f) (y >>= g) := by
  intro built hsound
  have h := hx built hsound
  change match (x built >>= fun r => f r.1 r.2) with
    | .ok (b, after) => (y >>= g) = .ok b ∧ o.Sound after
    | .error failure => (y >>= g) = .error failure
  cases hrun : x built with
  | error failure =>
    rw [hrun] at h
    rw [show y = .error failure from h]
    rfl
  | ok r =>
    rw [hrun] at h
    obtain ⟨hy, hafter⟩ : y = .ok r.1 ∧ o.Sound r.2 := h
    rw [hy]
    exact hf r.1 hy r.2 hafter

theorem Agrees.mapM {f : β → Building α} {g : β → Except Error α} {bs : List β}
    (h : ∀ b ∈ bs, o.Agrees (f b) (g b)) : o.Agrees (bs.mapM f) (bs.mapM g) := by
  induction bs with
  | nil => exact .pure []
  | cons b rest ih =>
    rw [List.mapM_cons, List.mapM_cons]
    apply (h b List.mem_cons_self).bind
    intro a _
    apply (ih fun c hc => h c (List.mem_cons_of_mem _ hc)).bind
    intro others _
    exact .pure _

theorem modelOver_eq_ok_iff {superTypes : List SelectableType} {t : SelectableType} :
    o.modelOver name superTypes = .ok t ↔
      ∃ declared,
        List.Forall₂ (fun d f => o.fieldModel name d = .ok f)
          ((o.schema.listedFields name).filter (!isInherited o.schema superTypes ·)) declared ∧
        SelectableType.make? name (o.categoryOf name) superTypes declared = .ok t := by
  unfold modelOver
  simp only [bind_eq_ok_iff, mapM_eq_ok_iff]

theorem name_of_modelOver {superTypes : List SelectableType} {t : SelectableType}
    (h : o.modelOver name superTypes = .ok t) : t.name = name := by
  obtain ⟨declared, _, hmake⟩ := modelOver_eq_ok_iff.1 h
  rw [(SelectableType.make?_eq_ok_iff.1 hmake).2.2.2]

/-- What is kept of a finished type is its model. -/
theorem agrees_finish {superTypes : List SelectableType}
    (hmodel : o.typeOf name = o.modelOver name superTypes) :
    o.Agrees (o.finish name superTypes) (o.modelOver name superTypes) := by
  intro built hsound
  rw [finish_run]
  cases hover : o.modelOver name superTypes with
  | error failure => rfl
  | ok t =>
    refine ⟨rfl, ?_⟩
    intro u hu
    rcases List.mem_append.1 hu with hu | hu
    · exact hsound u hu
    · rw [List.mem_singleton.1 hu, name_of_modelOver hover, hmodel, hover]

/-- Building a type gives its model, whatever has been built before. -/
theorem build_agrees (o : Outline) (name : String) : o.Agrees (o.build name) (o.typeOf name) := by
  intro built hsound
  rw [build_run]
  -- Met again, a type is what was kept of it, its model; met for the first time, its super types
  -- come before it.
  cases hfind : built.find? (fun t : SelectableType => t.name = name) with
  | some t =>
    have hname : t.name = name := by simpa using List.find?_some hfind
    exact ⟨hname ▸ hsound t (List.mem_of_find?_eq_some hfind), hsound⟩
  | none =>
    by_cases hknown : (o.schema.get? name).isNone
    · rw [if_pos hknown, typeOf_eq, if_pos hknown]
    · have hmodel : o.typeOf name = (o.superNames name).mapM o.typeOf >>= o.modelOver name := by
        rw [typeOf_eq, if_neg hknown]
      rw [if_neg hknown, hmodel]
      refine Agrees.bind (.mapM fun superName hsuper => build_agrees o superName) ?_ built hsound
      intro superTypes hsupers
      exact agrees_finish (by rw [hmodel, hsupers]; rfl)
termination_by (o.lineage.ancestors name).size
decreasing_by exact size_ancestors_lt hsuper

theorem mapM_build_agrees (o : Outline) (names : List String) :
    o.Agrees (names.mapM o.build) (names.mapM o.typeOf) :=
  .mapM fun name _ => o.build_agrees name

/-! ## Models -/

/-- What the model of a type consists of. -/
structure Modelled (o : Outline) (t : SelectableType) : Prop where
  known : (o.schema.get? t.name).isSome
  category : t.category = o.categoryOf t.name
  superTypes : List.Forall₂ (fun superName u => o.typeOf superName = .ok u)
    (o.superNames t.name) t.superTypes
  declared : List.Forall₂ (fun d f => o.fieldModel t.name d = .ok f)
    ((o.schema.listedFields t.name).filter (!isInherited o.schema t.superTypes ·)) t.declared
  distinct : (t.declared.map (·.name)).Nodup

theorem typeOf_eq_ok {t : SelectableType} (h : o.typeOf name = .ok t) :
    t.name = name ∧ o.Modelled t := by
  rw [typeOf_eq] at h
  split at h
  · cases h
  · next hknown =>
    obtain ⟨superTypes, hsupers, hover⟩ := bind_eq_ok_iff.1 h
    obtain ⟨declared, hdeclared, hmake⟩ := modelOver_eq_ok_iff.1 hover
    obtain ⟨hfields, _, _, rfl⟩ := SelectableType.make?_eq_ok_iff.1 hmake
    refine ⟨rfl, ?_, rfl, mapM_eq_ok_iff.1 hsupers, hdeclared, ?_⟩
    · exact Option.isSome_iff_ne_none.2 (by simpa using hknown)
    · exact (SelectableType.distinct_of_checkFields hfields).1

/-- The members of the family of a model are models. -/
theorem typeOf_of_mem_family {t u : SelectableType} (h : o.typeOf t.name = .ok t)
    (hu : u ∈ t.family) : o.typeOf u.name = .ok u := by
  induction t using SelectableType.induction_superTypes with
  | step t ih =>
    rw [SelectableType.family_eq] at hu
    rcases List.mem_cons.1 hu with rfl | hu
    · exact h
    · obtain ⟨v, hv, hu⟩ := List.mem_flatMap.1 hu
      obtain ⟨superName, _, hmodel⟩ := exists_of_mem_right (typeOf_eq_ok h).2.superTypes hv
      exact ih v hv ((typeOf_eq_ok hmodel).1 ▸ hmodel) hu

end Outline

namespace Catalog

variable {c : Catalog} {s : Schema} {settings : Settings} {name : String} {t : SelectableType}

/-- A catalog holds the model of every composite type of its schema, in order. -/
theorem ofSchema_eq_ok (h : ofSchema s settings = .ok c) :
    c.toOutline = Outline.ofSchema s settings ∧
    List.Forall₂ (fun name t => c.typeOf name = .ok t) s.compositeNames c.types := by
  obtain ⟨_, _, h⟩ := bind_eq_ok_iff.1 h
  obtain ⟨_, _, h⟩ := bind_eq_ok_iff.1 h
  obtain ⟨⟨types, after⟩, hbuild, h⟩ := bind_eq_ok_iff.1 h
  cases h
  refine ⟨rfl, mapM_eq_ok_iff.1 ?_⟩
  have hagrees := (Outline.ofSchema s settings).mapM_build_agrees s.compositeNames [] nofun
  rw [show (s.compositeNames.mapM (Outline.ofSchema s settings).build) [] = .ok (types, after)
    from hbuild] at hagrees
  exact hagrees.1

/-- If there is no catalog, the settings are not valid, a root is not an object, or a composite type has
no model. -/
theorem of_ofSchema_eq_error {failure : Error} (h : ofSchema s settings = .error failure) :
    settings.validate = .error failure ∨ s.checkRoots = .error failure ∨
      ∃ name ∈ s.compositeNames, (Outline.ofSchema s settings).typeOf name = .error failure := by
  rcases bind_eq_error_iff.1 h with hvalid | ⟨_, _, h⟩
  · exact .inl hvalid
  rcases bind_eq_error_iff.1 h with hroots | ⟨_, _, h⟩
  · exact .inr (.inl hroots)
  rcases bind_eq_error_iff.1 h with hbuild | ⟨_, _, h⟩
  · have hagrees := (Outline.ofSchema s settings).mapM_build_agrees s.compositeNames [] nofun
    rw [show (s.compositeNames.mapM (Outline.ofSchema s settings).build) [] = .error failure
      from hbuild] at hagrees
    exact .inr (.inr (exists_of_mapM_eq_error hagrees))
  · cases h

theorem schema_eq (h : ofSchema s settings = .ok c) : c.schema = s :=
  congrArg Outline.schema (ofSchema_eq_ok h).1

theorem settings_eq (h : ofSchema s settings = .ok c) : c.settings = settings :=
  congrArg Outline.settings (ofSchema_eq_ok h).1

theorem lineage_eq (h : ofSchema s settings = .ok c) : c.lineage = .ofSchema c.schema := by
  rw [(ofSchema_eq_ok h).1]
  rfl

theorem typeOf_of_mem_types (h : ofSchema s settings = .ok c) (ht : t ∈ c.types) :
    c.typeOf t.name = .ok t := by
  obtain ⟨name, _, hmodel⟩ := exists_of_mem_right (ofSchema_eq_ok h).2 ht
  exact (Outline.typeOf_eq_ok hmodel).1 ▸ hmodel

/-- Every type that a catalog knows, super types included, is the model of its name. -/
theorem typeOf_of_mem_known (h : ofSchema s settings = .ok c) (ht : t ∈ c.known) :
    c.typeOf t.name = .ok t := by
  rw [known, SelectableType.familyOfAll_eq] at ht
  obtain ⟨u, hu, ht⟩ := List.mem_flatMap.1 ht
  exact Outline.typeOf_of_mem_family (typeOf_of_mem_types h hu) ht

theorem name_mem_of_mem_types (h : ofSchema s settings = .ok c) (ht : t ∈ c.types) :
    t.name ∈ c.schema.compositeNames := by
  obtain ⟨name, hname, hmodel⟩ := exists_of_mem_right (ofSchema_eq_ok h).2 ht
  rw [(Outline.typeOf_eq_ok hmodel).1, schema_eq h]
  exact hname

theorem mem_types_of_typeOf (h : ofSchema s settings = .ok c) (ht : c.typeOf t.name = .ok t)
    (hname : t.name ∈ c.schema.compositeNames) : t ∈ c.types := by
  rw [schema_eq h] at hname
  obtain ⟨u, hu, hmodel⟩ := exists_of_mem_left (ofSchema_eq_ok h).2 hname
  rw [ht] at hmodel
  cases hmodel
  exact hu

theorem typeOf_of_type? (h : ofSchema s settings = .ok c) (ht : c.type? name = .ok t) :
    t.name = name ∧ c.typeOf name = .ok t := by
  unfold type? at ht
  split at ht
  · next u hfind =>
    cases ht
    have hname : t.name = name := by simpa using List.find?_some hfind
    exact ⟨hname, hname ▸ typeOf_of_mem_known h (List.mem_of_find?_eq_some hfind)⟩
  · cases ht

/-- A name has a type in a catalog if its model is there. -/
theorem type?_of_mem_known (h : ofSchema s settings = .ok c) (ht : t ∈ c.known) :
    c.type? t.name = .ok t := by
  have hsome : (c.known.find? (fun u : SelectableType => u.name = t.name)).isSome :=
    List.find?_isSome.2 ⟨t, ht, by simp⟩
  obtain ⟨u, hu⟩ := Option.isSome_iff_exists.1 hsome
  have hfound : c.type? t.name = .ok u := by
    unfold type?
    rw [hu]
  have hmodel := (typeOf_of_type? h hfound).2
  rw [typeOf_of_mem_known h ht] at hmodel
  cases hmodel
  exact hfound

/-- What is looked up by the name of a composite type is its model. -/
theorem type?_of_typeOf (h : ofSchema s settings = .ok c) (hname : name ∈ s.compositeNames)
    (hmodel : c.typeOf name = .ok t) : c.type? name = .ok t := by
  obtain ⟨u, hu, hsame⟩ := exists_of_mem_left (ofSchema_eq_ok h).2 hname
  rw [hmodel] at hsame
  cases hsame
  have hknown : t ∈ c.known := by
    rw [known, SelectableType.familyOfAll_eq]
    exact List.mem_flatMap.2 ⟨t, hu, SelectableType.mem_family_self⟩
  exact (Outline.typeOf_eq_ok hmodel).1 ▸ type?_of_mem_known h hknown

/-- Every composite type of the schema can be looked up. -/
theorem exists_type? (h : ofSchema s settings = .ok c) (hname : name ∈ s.compositeNames) :
    ∃ t, c.type? name = .ok t := by
  obtain ⟨t, _, hmodel⟩ := exists_of_mem_left (ofSchema_eq_ok h).2 hname
  exact ⟨t, type?_of_typeOf h hname hmodel⟩

end Catalog

end TypedQuery
