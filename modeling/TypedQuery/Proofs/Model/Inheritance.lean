-- SUMMARY: The inherited fields that modelling leaves out are the ones that walking a type finds.
import TypedQuery.Proofs.Model.Building
import TypedQuery.Proofs.Schema.Regular

/-!
# Inheritance

Two searches go up from a type. Modelling looks for the definition of an inherited field in order to
leave it out, and passes over unions; walking a type looks for the model of a field, in unions too.
In a regular schema they agree: `fieldModel_of_inheritedFrom` says that the walk finds the model of
the definition that modelling found, and `exists_field_of_listed` that it finds a model of every
field that a type lists.
-/
namespace TypedQuery

namespace Outline

variable {o : Outline} {t u : SelectableType} {name n : String} {d : FieldDef}
  {f : SelectableField}

/-- The outline of a regular schema. -/
structure Regular (o : Outline) : Prop where
  schema : o.schema.Regular
  lineage : o.lineage = .ofSchema o.schema

/-! ## Models of fields -/

theorem checkArguments_eq_ok_iff {s : Schema} : checkArguments s name d = .ok () ↔
    ∀ a ∈ d.arguments, (s.get? a.type.base).isSome := by
  rw [checkArguments, forM_eq_ok_iff]
  apply forall₂_congr
  intro a _
  split
  · next hsome => simp [hsome]
  · next hnone => simp [hnone]

theorem fieldModel_eq_ok_iff : o.fieldModel name d = .ok f ↔
    ∃ target, o.schema.get? d.type.base = some target ∧
      (∀ a ∈ d.arguments, (o.schema.get? a.type.base).isSome) ∧ f = o.fieldOfType d target := by
  unfold fieldModel
  cases o.schema.get? d.type.base with
  | none => simp
  | some target =>
    simp only [← @checkArguments_eq_ok_iff name d]
    cases hcheck : checkArguments o.schema name d with
    | error failure => simp
    | ok _ =>
      constructor
      · intro h
        cases h
        exact ⟨target, rfl, rfl, rfl⟩
      · rintro ⟨_, htarget, _, rfl⟩
        cases htarget
        rfl

/-- The type that lists a field is of no account for its model. -/
theorem fieldModel_of_fieldModel {other : String} (h : o.fieldModel name d = .ok f) :
    o.fieldModel other d = .ok f :=
  fieldModel_eq_ok_iff.2 (fieldModel_eq_ok_iff.1 h)

/-- Adding arguments changes nothing but the arguments. -/
theorem withArguments_eq {arguments : List InputValue} :
    arguments.foldl (fun m a => m.withArgument a.name a.type.spelling) f = { f with
      arguments := (arguments.foldl (fun m a => m.withArgument a.name a.type.spelling) f).arguments } := by
  induction arguments generalizing f with
  | nil => rfl
  | cons a rest ih => exact ih

theorem name_withArguments {arguments : List InputValue} :
    (arguments.foldl (fun m a => m.withArgument a.name a.type.spelling) f).name = f.name := by
  rw [withArguments_eq]

theorem name_of_fieldModel (h : o.fieldModel name d = .ok f) : f.name = d.name := by
  obtain ⟨target, _, _, rfl⟩ := fieldModel_eq_ok_iff.1 h
  unfold fieldOfType
  simp only [name_withArguments]
  split
  · rfl
  · split
    · rfl
    · split <;> rfl

/-! ## Super types -/

/-- A super type is an interface that the type lists or a union that lists the type. -/
theorem mem_superNames_cases (hlineage : o.lineage = .ofSchema o.schema) {superName : String}
    (h : superName ∈ o.superNames name) :
    superName ∈ o.schema.ownInterfaces name ∨
      ∃ d, o.schema.get? superName = some (.union d) ∧ name ∈ d.members := by
  have hedge := edge_of_mem_superNames h
  rw [hlineage] at hedge
  exact Schema.edge_rawEdges_cases (NameGraph.edge_reduce.1 (NameGraph.edge_inverse.1 hedge)).1

theorem nodup_superNames : (o.superNames name).Nodup := by
  unfold superNames
  split
  · exact List.nodup_nil
  · split
    · exact List.nodup_nil
    · exact nodup_eraseDups _

/-- The super types that the type lists come before the others. -/
theorem superNames_eq_append (o : Outline) (name : String) :
    ∃ first others, o.superNames name = first ++ others ∧
      (∀ i ∈ first, i ∈ o.schema.ownInterfaces name) ∧
      ∀ u ∈ others, ¬ u ∈ o.schema.ownInterfaces name := by
  unfold superNames
  split
  · exact ⟨[], [], rfl, by simp, by simp⟩
  · split
    · exact ⟨[], [], rfl, by simp, by simp⟩
    · next upcasts _ =>
      -- `eraseDups` of the two halves keeps the first as it is and drops from the second what was
      -- met in the first: what is left of the second is listed by nobody.
      have hsplit : ((o.schema.ownInterfaces name).filter (· ∈ upcasts) ++
          o.schema.compositeNames.filter (· ∈ upcasts)).eraseDups = _ := List.eraseDups_append
      rw [← List.filter_append] at hsplit
      refine ⟨_, _, hsplit, ?_, ?_⟩
      · intro i hi
        exact (List.mem_filter.1 (List.mem_eraseDups.1 hi)).1
      · intro u hu hlisted
        obtain ⟨hmem, hnew⟩ := List.mem_filter.1 (List.mem_eraseDups.1 hu)
        have hkept : u ∈ (o.schema.ownInterfaces name).filter (· ∈ upcasts) :=
          List.mem_filter.2 ⟨hlisted, (List.mem_filter.1 hmem).2⟩
        rw [List.elem_eq_true_of_mem hkept] at hnew
        cases hnew

/-- Interfaces come before unions. -/
theorem pairwise_superNames (ho : o.Regular) (name : String) :
    (o.superNames name).Pairwise fun a b => o.schema.isUnion a → o.schema.isUnion b := by
  obtain ⟨first, others, heq, hfirst, hothers⟩ := o.superNames_eq_append name
  have hinterface : ∀ i ∈ first, o.schema.isUnion i = false := by
    intro i hi
    exact ho.schema.not_isUnion_of_mem_ownInterfaces (hfirst i hi)
  have hunion : ∀ u ∈ others, o.schema.isUnion u := by
    intro u hu
    have hsuper : u ∈ o.superNames name := heq ▸ List.mem_append_right _ hu
    rcases mem_superNames_cases ho.lineage hsuper with hlisted | ⟨d, hget, _⟩
    · exact absurd hlisted (hothers u hu)
    · exact Schema.isUnion_iff.2 ⟨d, hget⟩
  rw [heq]
  refine List.pairwise_append.2 ⟨?_, ?_, ?_⟩
  · apply List.pairwise_of_forall_mem_list
    intro i hi j _ h
    rw [hinterface i hi] at h
    cases h
  · apply List.pairwise_of_forall_mem_list
    intro _ _ u hu _
    exact hunion u hu
  · intro _ _ u hu _
    exact hunion u hu

namespace Modelled

theorem names_superTypes (h : o.Modelled t) :
    t.superTypes.map (·.name) = o.superNames t.name :=
  map_eq_of_forall₂ h.superTypes fun _ _ hmodel => (typeOf_eq_ok hmodel).1

theorem modelled_of_mem_superTypes (h : o.Modelled t) (hu : u ∈ t.superTypes) : o.Modelled u := by
  obtain ⟨superName, _, hmodel⟩ := exists_of_mem_right h.superTypes hu
  exact (typeOf_eq_ok hmodel).2

/-- A declared field is the model of a field that the type lists and does not inherit. -/
theorem exists_listed (h : o.Modelled t) (hf : f ∈ t.declared) :
    ∃ d ∈ o.schema.listedFields t.name,
      isInherited o.schema t.superTypes d = false ∧ o.fieldModel t.name d = .ok f := by
  obtain ⟨d, hd, hmodel⟩ := exists_of_mem_right h.declared hf
  obtain ⟨hlisted, hown⟩ := List.mem_filter.1 hd
  exact ⟨d, hlisted, by simpa using hown, hmodel⟩

theorem exists_listed_of_declares (h : o.Modelled t) (hn : t.declares n) :
    ∃ d ∈ o.schema.listedFields t.name, d.name = n ∧
      ∃ f, t.field? n = some f ∧ o.fieldModel t.name d = .ok f := by
  rw [SelectableType.field?_of_declares hn]
  obtain ⟨f, hfind⟩ := SelectableType.find?_of_declares hn
  obtain ⟨d, hd, _, hmodel⟩ := h.exists_listed (List.mem_of_find?_eq_some hfind)
  refine ⟨d, hd, ?_, f, hfind, hmodel⟩
  rw [← name_of_fieldModel hmodel]
  simpa using List.find?_some hfind

/-- A listed field that is not inherited is declared. -/
theorem exists_declared (h : o.Modelled t) (hd : d ∈ o.schema.listedFields t.name)
    (hown : isInherited o.schema t.superTypes d = false) :
    ∃ f ∈ t.declared, o.fieldModel t.name d = .ok f :=
  exists_of_mem_left h.declared (List.mem_filter.2 ⟨hd, by simpa using hown⟩)

end Modelled

/-! ## Searching for definitions -/

variable {s : Schema}

theorem inheritedFromAny?_eq {ts : List SelectableType} :
    inheritedFromAny? s n ts = ts.findSome? (inheritedFrom? s n) := by
  induction ts with
  | nil => rfl
  | cons t rest ih =>
    rw [inheritedFromAny?, ih, List.findSome?_cons]
    cases inheritedFrom? s n t <;> rfl

theorem inheritedFrom?_of_isUnion (h : s.isUnion t.name = true) : inheritedFrom? s n t = none := by
  obtain ⟨d, hget⟩ := Schema.isUnion_iff.1 h
  cases t
  rw [inheritedFrom?, show s.get? _ = _ from hget]

theorem not_isUnion_of_inheritedFrom? (h : inheritedFrom? s n t = some d) :
    s.isUnion t.name = false := by
  rw [Bool.eq_false_iff]
  intro hunion
  rw [inheritedFrom?_of_isUnion hunion] at h
  cases h

theorem inheritedFrom?_of_isSome (hknown : (s.get? t.name).isSome)
    (hunion : s.isUnion t.name = false) : inheritedFrom? s n t =
      if t.declares n then (s.ownFields t.name).find? (·.name = n)
      else t.superTypes.findSome? (inheritedFrom? s n) := by
  obtain ⟨d, hget⟩ := Option.isSome_iff_exists.1 hknown
  cases t with
  | mk type category superTypes declared =>
    rw [inheritedFrom?, inheritedFromAny?_eq, Schema.ownFields, show s.get? type = _ from hget]
    cases d with
    | union d =>
      rw [Schema.isUnion_iff.2 ⟨d, hget⟩] at hunion
      cases hunion
    | _ => rfl

theorem name_of_inheritedFrom? (h : inheritedFrom? s n t = some d) : d.name = n := by
  induction t using SelectableType.induction_superTypes with
  | step t ih =>
    have hunion := not_isUnion_of_inheritedFrom? h
    by_cases hknown : (s.get? t.name).isSome
    · rw [inheritedFrom?_of_isSome hknown hunion] at h
      split at h
      · simpa using List.find?_some h
      · obtain ⟨u, hu, hfound⟩ := List.exists_of_findSome?_eq_some h
        exact ih u hu hfound
    · cases t
      rw [inheritedFrom?, show s.get? _ = none from by simpa using hknown] at h
      cases h

/-- An inherited field is found by search, and just as the type lists it. -/
theorem isInherited_iff {ts : List SelectableType} :
    isInherited s ts d = true ↔ ts.findSome? (inheritedFrom? s d.name) = some d := by
  rw [isInherited, inheritedFromAny?_eq]
  constructor
  · intro h
    obtain ⟨e, hfound, hsame⟩ := (Option.any_eq_true _ _).1 h
    obtain ⟨u, _, hu⟩ := List.exists_of_findSome?_eq_some hfound
    have hname := name_of_inheritedFrom? hu
    obtain ⟨htype, harguments⟩ := FieldDef.sameShape_iff.1 hsame
    rw [hfound]
    cases d
    cases e
    simp_all
  · intro h
    rw [h]
    simp [FieldDef.sameShape]

/-- A search that starts at a type finds every field that the type lists, as the type lists it. -/
theorem Modelled.inheritedFrom?_eq_some (h : o.Modelled t) (ho : o.Regular)
    (hunion : o.schema.isUnion t.name = false) (hd : d ∈ o.schema.listedFields t.name) :
    inheritedFrom? o.schema d.name t = some d := by
  rw [inheritedFrom?_of_isSome h.known hunion]
  split
  · rw [← Schema.listedFields_of_not_isUnion hunion]
    exact (find?_eq_some_iff_of_nodup ho.schema.nodup_listedFields).2 ⟨hd, rfl⟩
  · next hnot =>
    -- Either a super type led to the definition already, or the type would declare the field
    -- itself.
    cases hown : isInherited o.schema t.superTypes d with
    | true => exact isInherited_iff.1 hown
    | false =>
      obtain ⟨f, hf, hmodel⟩ := h.exists_declared hd hown
      refine absurd (List.any_eq_true.2 ⟨f, hf, ?_⟩) hnot
      simpa using name_of_fieldModel hmodel

/-! ## Unions above a type -/

theorem Modelled.superType_cases (h : o.Modelled t) (hlineage : o.lineage = .ofSchema o.schema)
    (hu : u ∈ t.superTypes) : u.name ∈ o.schema.ownInterfaces t.name ∨
      ∃ d, o.schema.get? u.name = some (.union d) ∧ t.name ∈ d.members := by
  apply mem_superNames_cases hlineage
  rw [← h.names_superTypes]
  exact List.mem_map_of_mem hu

/-- A union above a type lists the type. -/
theorem Modelled.exists_member (h : o.Modelled t) (ho : o.Regular) (hu : u ∈ t.superTypes)
    (hunion : o.schema.isUnion u.name = true) :
    ∃ d, o.schema.get? u.name = some (.union d) ∧ t.name ∈ d.members := by
  rcases h.superType_cases ho.lineage hu with hlisted | hmember
  · rw [ho.schema.not_isUnion_of_mem_ownInterfaces hlisted] at hunion
    cases hunion
  · exact hmember

/-- Above a type that implements nothing there are only unions. -/
theorem Modelled.exists_union (h : o.Modelled t) (hlineage : o.lineage = .ofSchema o.schema)
    (hinterfaces : o.schema.ownInterfaces t.name = []) (hu : u ∈ t.superTypes) :
    ∃ d, o.schema.get? u.name = some (.union d) ∧ t.name ∈ d.members := by
  rcases h.superType_cases hlineage hu with hlisted | hmember
  · rw [hinterfaces] at hlisted
    cases hlisted
  · exact hmember

/-- A union inherits nothing. -/
theorem Modelled.not_isInherited_of_isUnion (h : o.Modelled t) (hlineage : o.lineage = .ofSchema o.schema)
    (hunion : o.schema.isUnion t.name = true) : isInherited o.schema t.superTypes d = false := by
  rw [Bool.eq_false_iff, Ne, isInherited_iff]
  intro hfound
  obtain ⟨u, hu, hfound⟩ := List.exists_of_findSome?_eq_some hfound
  obtain ⟨e, hget, _⟩ := h.exists_union hlineage (Schema.ownInterfaces_of_isUnion hunion) hu
  have hinterface := not_isUnion_of_inheritedFrom? hfound
  rw [Schema.isUnion_iff.2 ⟨e, hget⟩] at hinterface
  cases hinterface

/-- Nothing is declared above a type that implements nothing and has no fields itself, such as a
union: there are only unions above it, the nearest list what the type has, and no union has fields
itself. -/
theorem Modelled.declared_above (h : o.Modelled t) (hlineage : o.lineage = .ofSchema o.schema)
    (hinterfaces : o.schema.ownInterfaces t.name = []) (hfields : o.schema.ownFields t.name = [])
    (hu : u ∈ t.superTypes.flatMap SelectableType.family) : u.declared = [] := by
  induction t using SelectableType.induction_superTypes with
  | step t ih =>
    obtain ⟨v, hv, hu⟩ := List.mem_flatMap.1 hu
    obtain ⟨d, hget, hmember⟩ := h.exists_union hlineage hinterfaces hv
    have hmodel := h.modelled_of_mem_superTypes hv
    have hunion : o.schema.isUnion v.name = true := Schema.isUnion_iff.2 ⟨d, hget⟩
    rw [SelectableType.family_eq] at hu
    rcases List.mem_cons.1 hu with rfl | hu
    · -- The nearest union is a model of a type without fields that the listed type shares with it.
      have hdeclared := hmodel.declared
      rw [Schema.listedFields_of_member hget hmember hfields, List.filter_nil] at hdeclared
      exact List.forall₂_nil_left_iff.1 hdeclared
    · exact ih v hv hmodel (Schema.ownInterfaces_of_isUnion hunion)
        (Schema.ownFields_of_isUnion hunion) hu

/-- Neither an enum, an input object or a scalar nor anything above it declares a field. -/
theorem Modelled.declared_of_not_composite (h : o.Modelled t)
    (hlineage : o.lineage = .ofSchema o.schema) (hname : ¬ t.name ∈ o.schema.compositeNames)
    (hu : u ∈ t.family) : u.declared = [] := by
  have hfields := Schema.ownFields_of_not_composite hname
  rw [SelectableType.family_eq] at hu
  rcases List.mem_cons.1 hu with rfl | hu
  · have hdeclared := h.declared
    rw [Schema.listedFields_of_not_composite hname, List.filter_nil] at hdeclared
    exact List.forall₂_nil_left_iff.1 hdeclared
  · exact h.declared_above hlineage (Schema.ownInterfaces_of_not_composite hname) hfields hu

/-- A field that is declared by a union above a type, the type lists as well. -/
theorem Modelled.exists_listed_of_union (h : o.Modelled t) (ho : o.Regular) (hu : u ∈ t.superTypes)
    (hunion : o.schema.isUnion u.name = true) (ht : o.schema.isUnion t.name = false)
    (hn : u.declares n = true) : ∃ d ∈ o.schema.listedFields t.name, d.name = n := by
  obtain ⟨e, hget, hmember⟩ := h.exists_member ho hu hunion
  obtain ⟨f, hf, hname⟩ := List.any_eq_true.1 hn
  obtain ⟨d, hd, _, hmodel⟩ := (h.modelled_of_mem_superTypes hu).exists_listed hf
  refine ⟨d, ?_, ?_⟩
  · rw [Schema.listedFields_of_not_isUnion ht]
    exact Schema.mem_ownFields_of_union hget hd hmember
  · rw [← name_of_fieldModel hmodel]
    simpa using hname

/-! ## Agreement of the two searches -/

/-- Where the search for a definition finds nothing, walking finds nothing either. -/
theorem Modelled.field?_eq_none (h : o.Modelled t) (ho : o.Regular)
    (hunion : o.schema.isUnion t.name = false) (hnone : inheritedFrom? o.schema n t = none) :
    t.field? n = none := by
  induction t using SelectableType.induction_superTypes with
  | step t ih =>
    have hlisted : ∀ d ∈ o.schema.listedFields t.name, d.name ≠ n := by
      rintro d hd rfl
      rw [h.inheritedFrom?_eq_some ho hunion hd] at hnone
      cases hnone
    have hown : ¬ t.declares n := by
      intro hdeclares
      obtain ⟨d, hd, hname, _⟩ := h.exists_listed_of_declares hdeclares
      exact hlisted d hd hname
    rw [inheritedFrom?_of_isSome h.known hunion, if_neg hown] at hnone
    rw [SelectableType.field?_of_not_declares hown, List.findSome?_eq_none_iff]
    intro u hu
    -- A union above the type is no place to search, so that the induction hypothesis does not
    -- apply to it.
    have hmodel := h.modelled_of_mem_superTypes hu
    cases habove : o.schema.isUnion u.name with
    | false => exact ih u hu hmodel habove (List.findSome?_eq_none_iff.1 hnone u hu)
    | true =>
      -- The search passes over this super type; but what a union declares the type would list itself.
      rw [SelectableType.field?_eq_none_iff]
      intro v hv hdeclares
      rw [SelectableType.family_eq] at hv
      rcases List.mem_cons.1 hv with rfl | hv
      · obtain ⟨d, hd, hname⟩ := h.exists_listed_of_union ho hu habove hunion hdeclares
        exact hlisted d hd hname
      · have hdeclared := hmodel.declared_above ho.lineage
          (Schema.ownInterfaces_of_isUnion habove) (Schema.ownFields_of_isUnion habove) hv
        rw [SelectableType.declares, hdeclared] at hdeclares
        cases hdeclares

theorem Modelled.not_isUnion_of_before (h : o.Modelled t) (ho : o.Regular)
    {before after : List SelectableType} (hsplit : t.superTypes = before ++ u :: after)
    (hu : o.schema.isUnion u.name = false) {v : SelectableType} (hv : v ∈ before) :
    o.schema.isUnion v.name = false := by
  have horder := pairwise_superNames ho t.name
  rw [← h.names_superTypes, hsplit, List.map_append, List.map_cons] at horder
  have habove := (List.pairwise_append.1 horder).2.2 v.name (List.mem_map_of_mem hv) u.name
    List.mem_cons_self
  rw [Bool.eq_false_iff]
  intro hunion
  rw [habove hunion] at hu
  cases hu

/-- Where the search for a definition finds one, walking finds the model of it. -/
theorem Modelled.fieldModel_of_inheritedFrom (h : o.Modelled t) (ho : o.Regular)
    (hfound : inheritedFrom? o.schema n t = some d) :
    ∃ f, t.field? n = some f ∧ o.fieldModel name d = .ok f := by
  induction t using SelectableType.induction_superTypes with
  | step t ih =>
    have hunion := not_isUnion_of_inheritedFrom? hfound
    rw [inheritedFrom?_of_isSome h.known hunion] at hfound
    split at hfound
    · next hdeclares =>
      obtain ⟨e, he, hname, f, hfield, hmodel⟩ := h.exists_listed_of_declares hdeclares
      rw [← Schema.listedFields_of_not_isUnion hunion,
        (find?_eq_some_iff_of_nodup ho.schema.nodup_listedFields).2 ⟨he, hname⟩] at hfound
      cases hfound
      exact ⟨f, hfield, fieldModel_of_fieldModel hmodel⟩
    · next hown =>
      obtain ⟨before, u, after, hsplit, hu, hbefore⟩ := List.findSome?_eq_some_iff.1 hfound
      have hmem : u ∈ t.superTypes := by simp [hsplit]
      obtain ⟨f, hfield, hmodel⟩ := ih u hmem (h.modelled_of_mem_superTypes hmem) hu
      -- Both searches take the first super type that has the field; for the walk it is the same
      -- one, as the interfaces before it have none.
      refine ⟨f, ?_, hmodel⟩
      rw [SelectableType.field?_of_not_declares hown, hsplit]
      refine List.findSome?_eq_some_iff.2 ⟨before, u, after, rfl, hfield, ?_⟩
      intro v hv
      have hearlier : v ∈ t.superTypes := by simp [hsplit, hv]
      have hinterface := h.not_isUnion_of_before ho hsplit (not_isUnion_of_inheritedFrom? hu) hv
      exact (h.modelled_of_mem_superTypes hearlier).field?_eq_none ho hinterface (hbefore v hv)

/-- Walking a type finds the model of every field that the type lists. -/
theorem Modelled.exists_field_of_listed (h : o.Modelled t) (ho : o.Regular)
    (hd : d ∈ o.schema.listedFields t.name) :
    ∃ f, t.field? d.name = some f ∧ o.fieldModel t.name d = .ok f := by
  cases hunion : o.schema.isUnion t.name with
  | false => exact h.fieldModel_of_inheritedFrom ho (h.inheritedFrom?_eq_some ho hunion hd)
  | true =>
    obtain ⟨f, hf, hmodel⟩ := h.exists_declared hd (h.not_isInherited_of_isUnion ho.lineage hunion)
    refine ⟨f, ?_, hmodel⟩
    have hname := name_of_fieldModel hmodel
    rw [SelectableType.field?_of_declares (List.any_eq_true.2 ⟨f, hf, by simpa using hname⟩)]
    exact (find?_eq_some_iff_of_nodup h.distinct).2 ⟨hf, hname⟩

end Outline

/-- The catalog of a regular schema has a regular outline. -/
theorem Catalog.regular_of_ofSchema {c : Catalog} {s : Schema} {settings : Settings}
    (hc : ofSchema s settings = .ok c) (hs : s.Regular) : c.toOutline.Regular where
  schema := by rw [schema_eq hc]; exact hs
  lineage := lineage_eq hc

end TypedQuery
