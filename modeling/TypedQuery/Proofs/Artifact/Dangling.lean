-- SUMMARY: Which names have to be defined for the files of a schema to be generated.
import TypedQuery.Proofs.Artifact.Failures
import TypedQuery.Proofs.Model.Failures
import TypedQuery.Proofs.Model.References
import TypedQuery.Proofs.Model.Subtypes

/-!
# Dangling references

The names that a schema refers to are looked up at different times. The types of fields and arguments are
looked up while the types are modelled, and so are the interfaces that the lineage keeps as super types;
the types of fields of input objects are looked up when the input objects are rendered. If everything
succeeds, all of these are defined, and if one of them is not, something fails
(`Catalog.resolves_or_fails`). Nothing else is looked up: neither the members of unions, nor interfaces
that are not super types of a model, and of what kind an interface or a member is, is not asked at all
(`Catalog.generates_menagerie`).
-/
namespace TypedQuery

/-! ## Failures that the schema is to blame for -/

/-- Only the schema is to blame for a failure of the computation. -/
abbrev BlamesSchema {α : Type} (x : Except Error α) : Prop := OnlyFails (·.isAuthoring = true) x

namespace Outline

theorem blamesSchema_typeOf (o : Outline) (name : String) : BlamesSchema (o.typeOf name) :=
  onlyFails_typeOf (fun _ _ => rfl)
    (fun _ _ _ _ _ => SelectableType.onlyFails_make? fun _ _ => rfl) name

end Outline

namespace Catalog

variable {c : Catalog} {s : Schema} {settings : Settings} {artifacts : List Artifact} {a : Artifact}
  {name : String}

/-- If the settings are valid, only the schema is to blame if it cannot be modelled. -/
theorem blamesSchema_ofSchema (hvalid : settings.validate = .ok ()) :
    BlamesSchema (ofSchema s settings) := by
  refine onlyFails_ofSchema ?_ (onlyFails_checkRoots (fun _ _ => rfl) fun _ _ => rfl)
    (Outline.blamesSchema_typeOf _)
  rw [hvalid]
  exact OnlyFails.ok

theorem blamesSchema_builder : BlamesSchema (c.builder name) := by
  have htype : BlamesSchema (c.type? name) := by
    unfold type?
    split
    · exact OnlyFails.ok
    · exact OnlyFails.error rfl
  unfold builder
  split
  · next failure hfailure => exact OnlyFails.error (htype failure hfailure)
  · refine OnlyFails.map (.mapM fun f _ => ?_)
    unfold listedField
    split
    · exact OnlyFails.ok
    · exact OnlyFails.error rfl

theorem blamesSchema_artifacts : BlamesSchema c.artifacts :=
  OnlyFails.map (.mapM fun _ _ => blamesSchema_builder)

end Catalog

/-! ## Names that are looked up -/

/-- A connection, or the type of the edges of one. -/
def Schema.IsPaginated (s : Schema) (name : String) : Prop :=
  ∃ k ∈ s.connections, k.type = name ∨ k.edge = name

instance {s : Schema} {name : String} : Decidable (s.IsPaginated name) :=
  inferInstanceAs (Decidable (∃ k ∈ s.connections, k.type = name ∨ k.edge = name))

/-- All names that are looked up are defined. An interface is looked up if the lineage keeps it as a super
type, and the type that implements it has super types in its model. -/
structure Schema.Resolves (s : Schema) : Prop where
  fields : ∀ d ∈ s.types, ∀ f ∈ d.fields, s.Knows f
  inputs : ∀ d, .input d ∈ s.types → ∀ f ∈ d.fields, (s.get? f.type.base).isSome
  interfaces : ∀ d ∈ s.types, ∀ i ∈ d.interfaces, ¬ s.IsPaginated d.name →
    (Lineage.ofSchema s).upcasts.Edge d.name i → (s.get? i).isSome

theorem Outline.categoryOf_of_not_isPaginated {s : Schema} {settings : Settings} {name : String}
    (h : ¬ s.IsPaginated name) : (ofSchema s settings).categoryOf name = .object := by
  have hconnection : (ofSchema s settings).connection? name = none := by
    refine List.find?_eq_none.2 fun k hk hname => h ⟨k, hk, .inl ?_⟩
    simpa using hname
  have hedge : (ofSchema s settings).isEdge name = false := by
    refine List.any_eq_false.2 fun k hk hname => h ⟨k, hk, .inr ?_⟩
    simpa using hname
  simp [categoryOf, hconnection, hedge]

namespace Catalog

variable {c : Catalog} {s : Schema} {settings : Settings} {artifacts : List Artifact} {a : Artifact}
  {failure : Error}

theorem exists_modelled (hc : ofSchema s settings = .ok c) {d : TypeDef} (hd : d ∈ s.types)
    (hcomposite : d.isComposite = true) :
    ∃ t, t.name = d.name ∧ (Outline.ofSchema s settings).Modelled t := by
  have hname : d.name ∈ s.compositeNames :=
    List.mem_map_of_mem (List.mem_filter.2 ⟨hd, hcomposite⟩)
  obtain ⟨t, _, hmodel⟩ := exists_of_mem_left (ofSchema_eq_ok hc).2 hname
  rw [(ofSchema_eq_ok hc).1] at hmodel
  exact ⟨t, Outline.typeOf_eq_ok hmodel⟩

/-- The fields and arguments of a schema that could be modelled refer to types that it defines. -/
theorem knows_of_ofSchema (hc : ofSchema s settings = .ok c) {d : TypeDef} (hd : d ∈ s.types)
    {f : FieldDef} (hf : f ∈ d.fields) : s.Knows f := by
  have hcomposite : d.isComposite = true := by
    cases d <;> first | rfl | cases hf
  obtain ⟨t, hname, hmodelled⟩ := exists_modelled hc hd hcomposite
  have hget : s.get? t.name = some d := Schema.get?_eq_some_iff.2 ⟨hd, hname.symm⟩
  have hunion : s.isUnion t.name = false := by
    rw [Schema.isUnion, hget]
    cases d <;> first | rfl | cases hf
  have hlisted : f ∈ s.listedFields t.name := by
    rw [Schema.listedFields_of_not_isUnion hunion, Schema.ownFields, hget]
    exact hf
  exact hmodelled.knows_of_listed hlisted

/-- An interface that the lineage keeps as a super type is modelled, and so it is defined. -/
theorem isSome_of_edge (hc : ofSchema s settings = .ok c) {d : TypeDef} (hd : d ∈ s.types) {i : String}
    (hi : i ∈ d.interfaces) (hplain : ¬ s.IsPaginated d.name)
    (hedge : (Lineage.ofSchema s).upcasts.Edge d.name i) : (s.get? i).isSome := by
  have hcomposite : d.isComposite = true := by
    cases d <;> first | rfl | cases hi
  obtain ⟨t, hname, hmodelled⟩ := exists_modelled hc hd hcomposite
  have hsuper : i ∈ (Outline.ofSchema s settings).superNames t.name := by
    rw [hname]
    exact (Outline.mem_superNames_iff (Outline.categoryOf_of_not_isPaginated hplain)).2 hedge
  obtain ⟨u, _, hmodel⟩ := exists_of_mem_left hmodelled.superTypes hsuper
  obtain ⟨rfl, hu⟩ := Outline.typeOf_eq_ok hmodel
  exact hu.known

/-- A file cannot be rendered that refers to a name without definition. -/
theorem check_of_unknown {location : Location} {name : String} (h : s.get? name = none) :
    Sheet.check ⟨s, settings, location⟩ name = .error (.unknownType name (.file location.path)) := by
  simp only [Sheet.check, h]

/-- An input object that can be rendered refers to types that the schema defines. -/
theorem isSome_of_render (hc : ofSchema s settings = .ok c) {d : InputDef} {text : String}
    (hrender : c.render (.input d) = .ok text) {f : InputValue} (hf : f ∈ d.fields) :
    (s.get? f.type.base).isSome := by
  rw [render, schema_eq hc, settings_eq hc] at hrender
  have hcheck := Artifact.check_of_render hrender (List.mem_map_of_mem hf)
  rw [Option.isSome_iff_ne_none]
  intro hnone
  rw [check_of_unknown hnone] at hcheck
  cases hcheck

/-! ## Runs -/

/-- A step of the generation fails. -/
inductive FailsWith (s : Schema) (settings : Settings) (failure : Error) : Prop where
  | modelling (h : ofSchema s settings = .error failure)
  | listing {c : Catalog} (hc : ofSchema s settings = .ok c) (h : c.artifacts = .error failure)
  | rendering {c : Catalog} {artifacts : List Artifact} {a : Artifact}
    (hc : ofSchema s settings = .ok c) (hartifacts : c.artifacts = .ok artifacts)
    (ha : a ∈ artifacts) (h : c.render a = .error failure)

theorem succeeds_or_fails : Succeeds s settings ∨ ∃ failure, FailsWith s settings failure := by
  cases hc : ofSchema s settings with
  | error failure => exact .inr ⟨failure, .modelling hc⟩
  | ok c =>
    cases hartifacts : c.artifacts with
    | error failure => exact .inr ⟨failure, .listing hc hartifacts⟩
    | ok artifacts =>
      by_cases hrender : ∀ a ∈ artifacts, ∃ text, c.render a = .ok text
      · exact .inl ⟨c, artifacts, hc, hartifacts, hrender⟩
      · simp only [not_forall, not_exists] at hrender
        obtain ⟨a, ha, hnone⟩ := hrender
        cases h : c.render a with
        | ok text => exact absurd h (hnone text)
        | error failure => exact .inr ⟨failure, .rendering hc hartifacts ha h⟩

theorem Succeeds.resolves (h : Succeeds s settings) : s.Resolves := by
  obtain ⟨c, artifacts, hc, hartifacts, hrender⟩ := h
  refine ⟨fun d hd f hf => knows_of_ofSchema hc hd hf, fun d hd f hf => ?_,
    fun d hd i hi hplain hedge => isSome_of_edge hc hd hi hplain hedge⟩
  have hmem : .input d ∈ artifacts :=
    (input_mem_iff hc hartifacts).2 (Schema.get?_eq_some_iff.2 ⟨hd, rfl⟩)
  obtain ⟨text, htext⟩ := hrender _ hmem
  exact isSome_of_render hc htext hf

/-- What fails is the fault of the schema, unless a scalar has no type in generated code or the settings
are refused. -/
theorem FailsWith.isAuthoring_or (h : FailsWith s settings failure) : failure.isAuthoring = true ∨
    (∃ type, s.Unmapped settings type ∧ failure = .unknownScalar type.base) ∨
    settings.validate = .error failure := by
  cases h with
  | modelling h =>
    cases hvalid : settings.validate with
    | ok _ => exact .inl (blamesSchema_ofSchema hvalid failure h)
    | error refusal =>
      unfold ofSchema at h
      rw [hvalid] at h
      cases h
      exact .inr (.inr rfl)
  | listing hc h => exact .inl (blamesSchema_artifacts failure h)
  | rendering hc hartifacts ha h =>
    rw [render, schema_eq hc, settings_eq hc] at h
    obtain ⟨type, _, hcheck⟩ := Artifact.exists_check_of_render h
    cases hget : s.get? type.base with
    | none =>
      left
      rw [check_of_unknown hget] at hcheck
      cases hcheck
      rfl
    | some d =>
      right
      have hknown : (s.get? type.base).isSome := by
        rw [hget]
        rfl
      obtain ⟨hfailure, hunmapped⟩ := (Sheet.check_eq_error_iff hknown).1 hcheck
      exact .inl ⟨type, hunmapped, hfailure⟩

/-- If the files of a schema can all be generated, the names that are looked up are defined. If one of
these is not, something fails; and whatever fails is the fault of the schema, unless a scalar has no type in
generated code or the settings are refused. -/
theorem resolves_or_fails (s : Schema) (settings : Settings) :
    (Succeeds s settings → s.Resolves) ∧
    (¬ s.Resolves → ∃ failure, FailsWith s settings failure) ∧
    ∀ failure, FailsWith s settings failure → failure.isAuthoring = true ∨
      (∃ type, s.Unmapped settings type ∧ failure = .unknownScalar type.base) ∨
      settings.validate = .error failure := by
  refine ⟨Succeeds.resolves, fun hnot => ?_, fun failure h => h.isAuthoring_or⟩
  exact succeeds_or_fails.resolve_left fun h => hnot h.resolves

/-- A schema with names that nothing looks up: members of a union that are not there or are interfaces, an
object that is implemented, an interface of a connection, and one of two types that implement each
other. -/
def menagerie : Schema where
  types := [
    .interface ⟨"Node", [], [⟨"id", .nonNull (.named "ID"), []⟩]⟩,
    .union ⟨"Pet", ["Cat", "Ghost", "Node"]⟩,
    .object ⟨"Dog", [], [⟨"name", .named "String", []⟩]⟩,
    .object ⟨"Cat", ["Dog"], [⟨"name", .named "String", []⟩]⟩,
    .object ⟨"CatConnection", ["Phantom"], [⟨"edges", .list (.named "CatEdge"), []⟩]⟩,
    .object ⟨"CatEdge", [], [⟨"node", .named "Cat", []⟩, ⟨"cursor", .named "String", []⟩]⟩,
    .interface ⟨"Head", ["Tail", "Hydra"], [⟨"id", .nonNull (.named "ID"), []⟩]⟩,
    .interface ⟨"Tail", ["Head", "Hydra"], [⟨"id", .nonNull (.named "ID"), []⟩]⟩,
    .scalar "ID", .scalar "String"]
  roots := .unset
  distinct := by decide

theorem succeeds_menagerie : Succeeds menagerie {} := by
  apply succeeds_of_checks
  cbv

/-- An input object that refers to a scalar without a type in generated code, and then to a type that is
not there. -/
def crate : InputDef := ⟨"Crate", [⟨"weight", .named "Mass"⟩, ⟨"lid", .named "Lid"⟩]⟩

def cargo : Schema where
  types := [.input crate, .scalar "Mass"]
  roots := .unset
  distinct := by decide

theorem not_resolves_cargo : ¬ cargo.Resolves := by
  intro h
  have hlid := h.inputs crate (by decide) ⟨"lid", .named "Lid"⟩ (by decide)
  revert hlid
  decide

theorem failure_of_cargo {failure : Error} (h : FailsWith cargo {} failure) :
    failure = .unknownScalar "Mass" := by
  obtain ⟨c, all, hc, hartifacts⟩ := exists_artifacts cargo {} (by cbv)
  cases h with
  | modelling h =>
    rw [hc] at h
    cases h
  | listing hc' h =>
    cases hc.symm.trans hc'
    rw [hartifacts] at h
    cases h
  | @rendering c' _ a hc' hartifacts' ha h =>
    by_cases hplain : a.isPlain = true
    · obtain ⟨text, htext⟩ := exists_render_of_isPlain (c := c') hplain
      rw [htext] at h
      cases h
    · cases a with
      | builder b =>
        obtain ⟨_, hcomposite, _⟩ := typeName_mem_of_mem_artifacts hc' hartifacts' ha
        cases hcomposite
      | input d =>
        obtain ⟨hd, _⟩ := Schema.get?_eq_some_iff.1 ((input_mem_iff hc' hartifacts').1 ha)
        obtain rfl : d = crate := by simpa [cargo] using hd
        have hcrate : ((Artifact.input crate).page cargo {}).1 = .error (.unknownScalar "Mass") := by
          rw [Artifact.result_page]
          cbv
        rw [render, schema_eq hc', settings_eq hc', Artifact.render_eq_error_iff, hcrate] at h
        exact (Except.error.inj h).symm
      | commonTypes _ | enum _ | index _ => exact absurd rfl hplain

/-- The files of `menagerie` are all generated, and for those of `cargo` the schema is not blamed. -/
theorem generates_menagerie :
    (Succeeds menagerie {} ∧
      (∃ u, .union u ∈ menagerie.types ∧ (∃ m ∈ u.members, menagerie.get? m = none) ∧
        ∃ m ∈ u.members, (menagerie.get? m).any (·.kind = .interface)) ∧
      (∃ d ∈ menagerie.types, menagerie.IsPaginated d.name ∧
        ∃ i ∈ d.interfaces, menagerie.get? i = none) ∧
      (∃ d ∈ menagerie.types, ¬ menagerie.IsPaginated d.name ∧
        ∃ i ∈ d.interfaces, menagerie.get? i = none) ∧
      ∃ d ∈ menagerie.types, ∃ i ∈ d.interfaces, (menagerie.get? i).any (·.kind = .object)) ∧
    ¬ cargo.Resolves ∧ ∀ failure, FailsWith cargo {} failure → failure.isAuthoring = false := by
  refine ⟨⟨succeeds_menagerie, ⟨⟨"Pet", ["Cat", "Ghost", "Node"]⟩, ?_⟩, ?_⟩, not_resolves_cargo, ?_⟩
  · decide
  · decide
  · rintro failure h
    rw [failure_of_cargo h]
    rfl

theorem resolves_or_fails_of_menagerie : menagerie.Resolves ∧
    ∃ failure, FailsWith cargo {} failure ∧ (failure.isAuthoring = true ∨
      ∃ type, cargo.Unmapped {} type ∧ failure = .unknownScalar type.base) := by
  have hvalid : ({} : Settings).validate = .ok () := by cbv
  obtain ⟨hresolves, _⟩ := resolves_or_fails menagerie {}
  obtain ⟨_, hfails, hblames⟩ := resolves_or_fails cargo {}
  obtain ⟨failure, h⟩ := hfails not_resolves_cargo
  refine ⟨hresolves succeeds_menagerie, failure, h, ?_⟩
  rcases hblames failure h with hauthoring | hunmapped | hrefused
  · exact .inl hauthoring
  · exact .inr hunmapped
  · rw [hvalid] at hrefused
    cases hrefused

end Catalog

end TypedQuery
