-- SUMMARY: Which repetitions of a field in a type are refused.
import Mathlib
import TypedQuery.Proofs.Model.Failures
import TypedQuery.Proofs.Model.Inheritance

/-!
# Repeated fields

A type may list a name more than once. The listings that are just what the type inherits are left out before
the rest is checked, so a repetition is only met with among the others, `Outline.newListings`. Two of these
are always refused, and nothing else is refused as a repetition: `Catalog.refused_iff_repeated`. A type that
repeats what it inherits keeps one listing or none: `Catalog.keeps_second_name`.
-/
namespace TypedQuery

/-! ## Refusals of types -/

namespace SelectableType

variable {name type n : String} {category : TypeCategory} {superTypes : List SelectableType}
  {declared : List SelectableField} {failure : Error}

/-- Of complete fields, only a name that is there twice is refused. -/
theorem of_checkFields_eq_error {earlier : List String} (hcomplete : ∀ f ∈ declared, f.Complete)
    (h : checkFields name earlier declared = .error failure) :
    ∃ n, failure = .invalidType name (.declaredTwice n) ∧
      2 ≤ (earlier ++ declared.map (·.name)).count n := by
  induction declared generalizing earlier with
  | nil => cases h
  | cons f rest ih =>
    obtain ⟨hfirst, hrest⟩ := List.forall_mem_cons.1 hcomplete
    obtain ⟨htarget, hconnection⟩ := SelectableField.complete_iff.1 hfirst
    rw [checkFields, if_neg htarget, if_neg hconnection] at h
    split at h
    · next hold =>
      cases h
      refine ⟨f.name, rfl, ?_⟩
      -- The name counts once among the earlier ones and once as the name of this field.
      have hearlier : 0 < earlier.count f.name := List.count_pos_iff.2 hold
      rw [List.count_append, List.map_cons, List.count_cons_self]
      omega
    · obtain ⟨n, rfl, htwice⟩ := ih hrest h
      refine ⟨n, rfl, ?_⟩
      rwa [List.map_cons, List.perm_middle.count_eq]

/-- A type is refused for a repetition only if it declares the name twice. -/
theorem of_make?_eq_declaredTwice (hcomplete : ∀ f ∈ declared, f.Complete)
    (h : make? name category superTypes declared = .error (.invalidType type (.declaredTwice n))) :
    type = name ∧ 2 ≤ (declared.map (·.name)).count n := by
  rcases bind_eq_error_iff.1 h with hcheck | ⟨_, _, h⟩
  · obtain ⟨_, heq, htwice⟩ := of_checkFields_eq_error hcomplete hcheck
    cases heq
    exact ⟨rfl, htwice⟩
  rcases bind_eq_error_iff.1 h with hrequired | ⟨_, _, h⟩
  · obtain ⟨r, _, hfails⟩ := exists_of_forM_eq_error hrequired
    dsimp only at hfails
    unfold requireField at hfails
    repeat' split at hfails
    all_goals cases hfails
  · split at h <;> cases h

theorem exists_declaredTwice_iff (hcomplete : ∀ f ∈ declared, f.Complete) :
    (∃ n, make? name category superTypes declared = .error (.invalidType name (.declaredTwice n))) ↔
      ∃ n, 2 ≤ (declared.map (·.name)).count n := by
  constructor
  · rintro ⟨n, h⟩
    exact ⟨n, (of_make?_eq_declaredTwice hcomplete h).2⟩
  · rintro ⟨n, htwice⟩
    cases hcheck : checkFields name [] declared with
    | ok _ =>
      have honce := List.nodup_iff_count_le_one.1 (distinct_of_checkFields hcheck).1 n
      omega
    | error failure =>
      obtain ⟨m, rfl, _⟩ := of_checkFields_eq_error hcomplete hcheck
      exact ⟨m, bind_eq_error_iff.2 (.inl hcheck)⟩

end SelectableType

namespace Outline

variable {o : Outline} {s : Schema} {settings : Settings} {t : SelectableType} {type n : String}
  {d : FieldDef} {f : SelectableField} {superTypes : List SelectableType}
  {declared : List SelectableField}

/-! ## Listings that are not inherited -/

/-- The listings of a name in a type that are not what the type inherits. -/
def newListings (s : Schema) (superTypes : List SelectableType) (type n : String) : List FieldDef :=
  (s.listedFields type).filter fun d => d.name = n && !isInherited s superTypes d

theorem newListings_eq : newListings s superTypes type n =
    (s.listedFields type).filter fun d =>
      d.name = n ∧ superTypes.findSome? (inheritedFrom? s n) ≠ some d := by
  apply List.filter_congr
  intro d _
  rw [Bool.eq_iff_iff, Bool.and_eq_true, decide_eq_true_eq, decide_eq_true_eq]
  refine and_congr_right ?_
  rintro rfl
  rw [Bool.not_eq_true', Bool.eq_false_iff, Ne, isInherited_iff]

theorem complete_withArguments {arguments : List InputValue} :
    (arguments.foldl (fun m a => m.withArgument a.name a.type.spelling) f).Complete ↔ f.Complete := by
  rw [withArguments_eq]
  exact ⟨fun h => ⟨h.target, h.connection⟩, fun h => ⟨h.target, h.connection⟩⟩

/-- The model of a field is complete. -/
theorem complete_of_fieldModel (h : o.fieldModel type d = .ok f) : f.Complete := by
  have hundefinable {g : SelectableField} {b : Bool} (hg : g.Complete) :
      ({ g with undefinable := b } : SelectableField).Complete := ⟨hg.target, hg.connection⟩
  obtain ⟨target, _, _, rfl⟩ := fieldModel_eq_ok_iff.1 h
  refine hundefinable (complete_withArguments.2 ?_)
  -- The field leads to a connection, to another composite type, or nowhere.
  split
  · exact ⟨fun _ => rfl, fun _ => ⟨rfl, rfl⟩⟩
  · split
    · refine ⟨fun _ => rfl, fun hconnection => ?_⟩
      split at hconnection <;> cases hconnection
    · split <;> exact ⟨nofun, nofun⟩

theorem complete_of_fieldModels {listed : List FieldDef}
    (h : List.Forall₂ (fun d f => o.fieldModel type d = .ok f) listed declared) (hf : f ∈ declared) :
    f.Complete := by
  obtain ⟨d, _, hmodel⟩ := exists_of_mem_right h hf
  exact complete_of_fieldModel hmodel

/-- A name is declared once for each of its listings that are not inherited. -/
theorem count_declared (hdeclared : List.Forall₂ (fun d f => o.fieldModel type d = .ok f)
      ((o.schema.listedFields type).filter (!isInherited o.schema superTypes ·)) declared) :
    (declared.map (·.name)).count n = (newListings o.schema superTypes type n).length := by
  rw [← map_eq_map_of_forall₂ hdeclared fun d _ f hmodel => (name_of_fieldModel hmodel).symm,
    List.count_eq_countP, List.countP_map, List.countP_eq_length_filter, List.filter_filter, newListings]
  rfl

/-- If the fields that a type does not inherit have models, it is refused for a repetition if and only if
two of them have one name. -/
theorem modelOver_refused_iff {models : List SelectableField}
    (hmodels : List.Forall₂ (fun d f => o.fieldModel type d = .ok f)
      ((o.schema.listedFields type).filter (!isInherited o.schema superTypes ·)) models) :
    (∃ n, o.modelOver type superTypes = .error (.invalidType type (.declaredTwice n))) ↔
      ∃ n, 2 ≤ (newListings o.schema superTypes type n).length := by
  have hover : o.modelOver type superTypes =
      SelectableType.make? type (o.categoryOf type) superTypes models := by
    unfold modelOver
    dsimp only
    rw [mapM_eq_ok_iff.2 hmodels]
    rfl
  rw [hover, SelectableType.exists_declaredTwice_iff fun f => complete_of_fieldModels hmodels]
  simp only [count_declared hmodels]

/-! ## What is inherited -/

/-- A search up from a type finds listings of what the type implements, or of what that implements, and so
on. -/
theorem Modelled.exists_implemented (h : o.Modelled t) (hlineage : o.lineage = .ofSchema o.schema)
    (hfound : t.superTypes.findSome? (inheritedFrom? o.schema n) = some d) :
    ∃ i, Relation.TransGen (fun a b => b ∈ o.schema.ownInterfaces a) t.name i ∧
      d ∈ o.schema.ownFields i := by
  induction t using SelectableType.induction_superTypes with
  | step t ih =>
    obtain ⟨u, hu, hfound⟩ := List.exists_of_findSome?_eq_some hfound
    have hmodelled := h.modelled_of_mem_superTypes hu
    have hunion := not_isUnion_of_inheritedFrom? hfound
    -- What is found is not found in a union, so that the first step up leads to an interface.
    have hstep : u.name ∈ o.schema.ownInterfaces t.name := by
      rcases h.superType_cases hlineage hu with hlisted | ⟨e, hget, _⟩
      · exact hlisted
      · rw [Schema.isUnion_iff.2 ⟨e, hget⟩] at hunion
        cases hunion
    rw [inheritedFrom?_of_isSome hmodelled.known hunion] at hfound
    split at hfound
    · exact ⟨u.name, .single hstep, List.mem_of_find?_eq_some hfound⟩
    · obtain ⟨i, hway, hmem⟩ := ih u hu hmodelled hfound
      exact ⟨i, .head hstep hway, hmem⟩

/-- Of several listings of a name in a type that could be modelled, all but at most one are what the type
inherits. -/
theorem Modelled.exists_repeated (h : o.Modelled t)
    (htwice : 2 ≤ ((o.schema.ownFields t.name).filter (·.name = n)).length) :
    ∃ d, t.superTypes.findSome? (inheritedFrom? o.schema n) = some d ∧
      ((o.schema.ownFields t.name).filter fun e => e.name = n ∧ e ≠ d).length ≤ 1 := by
  have hunion : o.schema.isUnion t.name = false := by
    rw [Bool.eq_false_iff]
    intro hunion
    rw [Schema.ownFields_of_isUnion hunion] at htwice
    cases htwice
  have honce : (newListings o.schema t.superTypes t.name n).length ≤ 1 := by
    rw [← count_declared h.declared]
    exact List.nodup_iff_count_le_one.1 h.distinct n
  rw [newListings_eq, Schema.listedFields_of_not_isUnion hunion] at honce
  cases hfound : t.superTypes.findSome? (inheritedFrom? o.schema n) with
  | none =>
    simp only [hfound, ne_eq, reduceCtorEq, not_false_eq_true, and_true] at honce
    omega
  | some d =>
    refine ⟨d, rfl, ?_⟩
    simpa only [hfound, ne_eq, Option.some.injEq, eq_comm (a := d)] using honce

/-! ## Refused schemas -/

/-- If the failure is a repetition, then the type lists the name at least twice otherwise than its super
types hand it down. -/
def BlamesRepetition (o : Outline) (failure : Error) : Prop :=
  ∀ type n, failure = .invalidType type (.declaredTwice n) → ∃ superTypes,
    List.Forall₂ (fun superName u => o.typeOf superName = .ok u) (o.superNames type) superTypes ∧
      2 ≤ (newListings o.schema superTypes type n).length

theorem blamesRepetition_typeOf (o : Outline) (name : String) :
    OnlyFails o.BlamesRepetition (o.typeOf name) := by
  apply onlyFails_typeOf
  · rintro _ _ _ _ ⟨⟩
  · rintro type superTypes declared hsupers hdeclared failure hmake other n rfl
    obtain ⟨rfl, htwice⟩ :=
      SelectableType.of_make?_eq_declaredTwice (fun f => complete_of_fieldModels hdeclared) hmake
    exact ⟨superTypes, hsupers, count_declared hdeclared ▸ htwice⟩

end Outline

namespace Catalog

variable {c : Catalog} {s : Schema} {settings : Settings}

theorem blamesRepetition_ofSchema :
    OnlyFails (Outline.ofSchema s settings).BlamesRepetition (ofSchema s settings) := by
  refine onlyFails_ofSchema (Settings.onlyFails_validate ?_) (onlyFails_checkRoots ?_ ?_)
    (Outline.blamesRepetition_typeOf _)
  · rintro _ _ _ ⟨⟩
  · rintro _ _ _ _ ⟨⟩
  · rintro _ _ _ _ ⟨⟩

/-- In a schema that can be modelled, of several listings of a name in a type all but at most one are what
the type inherits, and that is listed by a type that it implements. -/
theorem exists_repeated (hc : ofSchema s settings = .ok c) {type n : String}
    (htwice : 2 ≤ ((s.ownFields type).filter (·.name = n)).length) :
    ∃ t d, c.type? type = .ok t ∧ t.superTypes.findSome? (Outline.inheritedFrom? s n) = some d ∧
      (∃ i, Relation.TransGen (fun a b => b ∈ s.ownInterfaces a) type i ∧ d ∈ s.ownFields i) ∧
      ((s.ownFields type).filter fun e => e.name = n ∧ e ≠ d).length ≤ 1 := by
  have hname : type ∈ s.compositeNames := by
    by_contra hnot
    rw [Schema.ownFields_of_not_composite hnot] at htwice
    cases htwice
  obtain ⟨t, ht⟩ := exists_type? hc hname
  obtain ⟨rfl, hmodel⟩ := typeOf_of_type? hc ht
  have hmodelled := (Outline.typeOf_eq_ok hmodel).2
  rw [← schema_eq hc] at htwice ⊢
  obtain ⟨d, hfound, honce⟩ := hmodelled.exists_repeated htwice
  exact ⟨t, d, ht, hfound, hmodelled.exists_implemented (lineage_eq hc) hfound, honce⟩

/-- If its fields have models, a type is refused for a repetition if and only if it lists some name twice
otherwise than it inherits it. So a schema is refused for a repetition in a type only if the type has two
such listings. If a schema can be modelled in spite of a repetition, then all but at most one of the
listings are what the type inherits, and what a type lists that it implements. -/
theorem refused_iff_repeated (s : Schema) (settings : Settings) :
    (∀ type superTypes,
      (∀ d ∈ s.listedFields type, ∃ f, (Outline.ofSchema s settings).fieldModel type d = .ok f) →
      ((∃ n, (Outline.ofSchema s settings).modelOver type superTypes =
          .error (.invalidType type (.declaredTwice n))) ↔
        ∃ n, 2 ≤ (Outline.newListings s superTypes type n).length)) ∧
    (∀ type n, ofSchema s settings = .error (.invalidType type (.declaredTwice n)) → ∃ superTypes,
      List.Forall₂ (fun superName u => (Outline.ofSchema s settings).typeOf superName = .ok u)
        ((Outline.ofSchema s settings).superNames type) superTypes ∧
      2 ≤ (Outline.newListings s superTypes type n).length) ∧
    ∀ c, ofSchema s settings = .ok c → ∀ type n,
      2 ≤ ((s.ownFields type).filter (·.name = n)).length →
      ∃ t d, c.type? type = .ok t ∧ t.superTypes.findSome? (Outline.inheritedFrom? s n) = some d ∧
        (∃ i, Relation.TransGen (fun a b => b ∈ s.ownInterfaces a) type i ∧ d ∈ s.ownFields i) ∧
        ((s.ownFields type).filter fun e => e.name = n ∧ e ≠ d).length ≤ 1 := by
  refine ⟨fun type superTypes hmodels => ?_, fun type n hfailure => ?_, fun c hc type n htwice => ?_⟩
  · obtain ⟨models, hmodels⟩ : ∃ models, ((s.listedFields type).filter
        (!Outline.isInherited s superTypes ·)).mapM ((Outline.ofSchema s settings).fieldModel type) =
          .ok models :=
      exists_mapM_eq_ok_iff.2 fun d hd => hmodels d (List.mem_filter.1 hd).1
    exact Outline.modelOver_refused_iff (mapM_eq_ok_iff.1 hmodels)
  · exact blamesRepetition_ofSchema _ hfailure type n rfl
  · exact exists_repeated hc htwice

/-- A person has a name that is a text, and then one that has a text. -/
def persons (interfaces : List String) : Schema where
  types := [
    .interface ⟨"Named", [], [⟨"name", .named "String", []⟩]⟩,
    .object ⟨"Name", [], [⟨"text", .named "String", []⟩]⟩,
    .object ⟨"Person", interfaces, [⟨"name", .named "String", []⟩, ⟨"name", .named "Name", []⟩]⟩,
    .scalar "String"]
  roots := .unset
  distinct := by simp [TypeDef.name]

theorem refused_iff_repeated_persons :
    (∃ n, (Outline.ofSchema (persons []) {}).modelOver "Person" [] =
      .error (.invalidType "Person" (.declaredTwice n))) ∧
    (ofSchema (persons []) {} = .error (.invalidType "Person" (.declaredTwice "name")) ∧
      ∃ superTypes, 2 ≤ (Outline.newListings (persons []) superTypes "Person" "name").length) ∧
    ∃ c t d, ofSchema (persons ["Named"]) {} = .ok c ∧ c.type? "Person" = .ok t ∧
      t.superTypes.findSome? (Outline.inheritedFrom? (persons ["Named"]) "name") = some d := by
  have hmodels : ∀ d ∈ (persons []).listedFields "Person",
      ∃ f, (Outline.ofSchema (persons []) {}).fieldModel "Person" d = .ok f :=
    exists_mapM_eq_ok_iff.1 (exists_of_isOk (by cbv))
  have hrefused : ofSchema (persons []) {} = .error (.invalidType "Person" (.declaredTwice "name")) := by
    cbv
  obtain ⟨superTypes, _, htwice⟩ := (refused_iff_repeated (persons []) {}).2.1 _ _ hrefused
  obtain ⟨c, hc⟩ : ∃ c, ofSchema (persons ["Named"]) {} = .ok c := exists_of_isOk (by cbv)
  obtain ⟨t, d, ht, hfound, _⟩ :=
    (refused_iff_repeated (persons ["Named"]) {}).2.2 c hc "Person" "name" (by decide)
  exact ⟨((refused_iff_repeated (persons []) {}).1 "Person" [] hmodels).2 ⟨"name", by decide⟩,
    ⟨hrefused, superTypes, htwice⟩, c, t, d, hc, ht, hfound⟩

/-- The first name of a person is what a person inherits, so the second one is kept. -/
theorem keeps_second_name :
    ((persons ["Named"]).ownFields "Person").map (·.name) = ["name", "name"] ∧
    (ofSchema (persons ["Named"]) {} >>= (·.type? "Person")).map
        (·.declared.map fun f => (f.name, f.target)) = .ok [("name", some "Name")] := by
  refine ⟨by decide, ?_⟩
  cbv

end Catalog

end TypedQuery
