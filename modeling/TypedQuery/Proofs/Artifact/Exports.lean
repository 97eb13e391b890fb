-- SUMMARY: When the names are distinct that builders declare, import and export.
import TypedQuery.Proofs.Artifact.Closed
import TypedQuery.Proofs.Artifact.Names

/-!
# Exported names

From the name of a type up to four names are derived: of its builder, of the interface of its
arguments, of its empty and of its default builder. No name of a type has a `$`, so that most of
them cannot meet. What is left is that the first letters of two types differ in case only, and what
the suffix of the builders can come to: `Args`, or something that ends in `$`
(`DerivedNames.nodup_names_iff`). Whether the builders of a schema have distinct names, and those in
the file of a builder are distinct, comes down to that (`Catalog.exports_nodup_iff`).
-/
namespace TypedQuery

/-! ## Derived names -/

/-- The types that names are derived from. -/
structure DerivedNames where
  suffix : String
  builders : List String
  arguments : List String
  empties : List String
  defaults : List String

namespace DerivedNames

/-- The names of builders and of arguments, and those of empty and of default builders. -/
def names (d : DerivedNames) : List String :=
  (d.builders.map (· ++ d.suffix) ++ d.arguments.map (· ++ "Args")) ++
    (d.empties.map (lowerFirst · ++ "$") ++ d.defaults.map (lowerFirst · ++ "$$"))

/-- The types are distinct and have names; those with arguments have a builder, and those with a
default builder have an empty one. -/
structure Legal (d : DerivedNames) : Prop where
  isName : ∀ n, n ∈ d.builders ∨ n ∈ d.empties → Sdl.IsName n
  builders : d.builders.Nodup
  arguments : d.arguments.Sublist d.builders
  empties : d.empties.Nodup
  defaults : d.defaults.Sublist d.empties

/-- The types differ in more than the case of their first letter, and no builder is called as
arguments or as another builder that is a constant. -/
structure Apart (d : DerivedNames) : Prop where
  case : ∀ n ∈ d.empties, ∀ n' ∈ d.empties, lowerFirst n = lowerFirst n' → n = n'
  arguments : ∀ n ∈ d.builders, ∀ n' ∈ d.arguments, n ++ d.suffix ≠ n' ++ "Args"
  empties : ∀ n ∈ d.builders, ∀ n' ∈ d.empties, n ++ d.suffix ≠ lowerFirst n' ++ "$"
  defaults : ∀ n ∈ d.builders, ∀ n' ∈ d.defaults, n ++ d.suffix ≠ lowerFirst n' ++ "$$"

variable {d : DerivedNames} {n n' : String}

theorem not_mem_dollar (h : Sdl.IsName n) : '$' ∉ n.toList :=
  fun hmem => absurd (h.2 '$' hmem) (by decide)

/-- A name with an ending that has no `$` is none with an ending that has one. -/
theorem append_ne_append {ending other : String} (h : Sdl.IsName n) (hending : '$' ∉ ending.toList)
    (hother : '$' ∈ other.toList) : n ++ ending ≠ n' ++ other := by
  intro heq
  have hmem : '$' ∈ (n ++ ending).toList := by
    rw [heq, String.toList_append]
    exact List.mem_append_right _ hother
  rw [String.toList_append] at hmem
  exact (List.mem_append.1 hmem).elim (not_mem_dollar h) hending

theorem empty_ne_default (h : Sdl.IsName n) : n ++ "$" ≠ n' ++ "$$" := by
  have hdollars : "$$" = "$" ++ "$" := rfl
  rw [hdollars, ← String.append_assoc, Ne, String.append_left_inj]
  rintro rfl
  exact not_mem_dollar h (by simp)

/-- The derived names are distinct if and only if the types are apart. -/
theorem nodup_names_iff (h : d.Legal) : d.names.Nodup ↔ d.Apart := by
  have hcancel (ending : String) : Function.Injective (· ++ ending) :=
    fun _ _ => (String.append_left_inj ending).1
  have hname {n : String} (hn : n ∈ d.arguments) : Sdl.IsName n :=
    h.isName n (.inl (h.arguments.mem hn))
  have hlower {n : String} (hn : n ∈ d.empties) : Sdl.IsName (lowerFirst n) :=
    (h.isName n (.inr hn)).lowerFirst
  have hbuilders : (d.builders.map (· ++ d.suffix)).Nodup := h.builders.map (hcancel _)
  have harguments : (d.arguments.map (· ++ "Args")).Nodup :=
    (h.builders.sublist h.arguments).map (hcancel _)
  have hlisted (ending : String) {names : List String} (hsub : names.Sublist d.empties)
      (hcase : ∀ n ∈ d.empties, ∀ n' ∈ d.empties, lowerFirst n = lowerFirst n' → n = n') :
      (names.map (lowerFirst · ++ ending)).Nodup :=
    (h.empties.sublist hsub).map_on fun n hn n' hn' heq =>
      hcase n (hsub.mem hn) n' (hsub.mem hn') (hcancel _ heq)
  -- Names with and without a dollar cannot meet, nor those with one and with two; the other pairs
  -- are what it takes to be apart.
  simp only [names, List.nodup_append, List.forall_mem_append, List.forall_mem_map]
  constructor
  · rintro ⟨⟨_, _, hargument⟩, ⟨hempties, _, _⟩, hvalues, _⟩
    refine ⟨fun n hn n' hn' heq => ?_, hargument, fun n hn n' hn' => ?_, fun n hn n' hn' => ?_⟩
    · exact List.inj_on_of_nodup_map hempties hn hn' (by rw [heq])
    · exact (hvalues n hn).1 n' hn'
    · exact (hvalues n hn).2 n' hn'
  · rintro ⟨hcase, hargument, hempty, hdefault⟩
    refine ⟨⟨hbuilders, harguments, hargument⟩, ⟨hlisted _ (List.Sublist.refl _) hcase,
      hlisted _ h.defaults hcase, fun n hn n' _ => empty_ne_default (hlower hn)⟩, ?_, ?_⟩
    · exact fun n hn => ⟨hempty n hn, hdefault n hn⟩
    · exact fun n hn => ⟨fun n' _ => append_ne_append (hname hn) (by decide) (by decide),
        fun n' _ => append_ne_append (hname hn) (by decide) (by decide)⟩

end DerivedNames

/-! ## Builders -/

namespace Builder

variable {b : Builder}

/-- The constants that the file of a builder takes from those of the super types. -/
def importedConstants (b : Builder) : List String :=
  b.type.superTypes.map fun t => b.catalog.instanceName t.name

/-- What the names are derived from that the file of a builder declares or takes from super types.
-/
def derivedNames (b : Builder) : DerivedNames where
  suffix := b.catalog.settings.fetcherSuffix
  builders := [b.typeName]
  arguments := if b.fieldsWithArguments.isEmpty then [] else [b.typeName]
  empties := b.typeName :: b.type.superTypes.map (·.name)
  defaults := if b.defaultFields.isEmpty then [] else [b.typeName]

theorem declarations_perm (h : b.derivedNames.Legal) :
    (b.declarations.map (·.name) ++ b.importedConstants).Perm b.derivedNames.names := by
  have hinstance {n : String} (hn : n ∈ b.derivedNames.empties) :
      b.catalog.instanceName n = lowerFirst n ++ "$" :=
    Catalog.instanceName_eq (h.isName n (.inr hn))
  have hown : b.instanceName = lowerFirst b.typeName ++ "$" := hinstance List.mem_cons_self
  have hsupers : b.importedConstants =
      (b.type.superTypes.map (·.name)).map (lowerFirst · ++ "$") := by
    rw [importedConstants, List.map_map]
    exact List.map_congr_left fun t ht =>
      hinstance (List.mem_cons_of_mem _ (List.mem_map_of_mem ht))
  have hdollars : lowerFirst b.typeName ++ "$" ++ "$" = lowerFirst b.typeName ++ "$$" := by
    rw [String.append_assoc]
    rfl
  have hdeclared : b.declarations.map (·.name) = b.name :: b.instanceName ::
      (b.derivedNames.defaults.map (lowerFirst · ++ "$$") ++
        b.derivedNames.arguments.map (· ++ "Args")) := by
    rw [declarations, derivedNames, hown, hdollars]
    cases b.defaultFields.isEmpty <;> cases b.fieldsWithArguments.isEmpty <;> rfl
  have hderived : b.derivedNames.names =
      b.name :: (b.derivedNames.arguments.map (· ++ "Args") ++ b.instanceName ::
        (b.importedConstants ++ b.derivedNames.defaults.map (lowerFirst · ++ "$$"))) := by
    rw [hown, hsupers]
    rfl
  rw [hdeclared, hderived, List.cons_append, List.cons_append]
  refine .cons _ (.trans (.cons _ ?_) List.perm_middle.symm)
  rw [List.append_assoc, ← List.append_assoc (b.derivedNames.arguments.map _)]
  exact List.perm_append_comm

end Builder

namespace Artifact

/-- The builder whose file it is. -/
def builder? : Artifact → Option Builder
  | builder b => some b
  | commonTypes _ | enum _ | input _ | index _ => none

end Artifact

namespace Catalog

variable {c : Catalog} {s : Schema} {settings : Settings} {artifacts : List Artifact}
  {builders : List Builder} {b : Builder} {name : String}

/-- What the names are derived from that the index of some builders exports. -/
def derivedNames (c : Catalog) (builders : List Builder) : DerivedNames where
  suffix := c.settings.fetcherSuffix
  builders := builders.map (·.typeName)
  arguments := (builders.filter (!·.fieldsWithArguments.isEmpty)).map (·.typeName)
  empties := builders.map (·.typeName)
  defaults := (builders.filter (!·.defaultFields.isEmpty)).map (·.typeName)

theorem filterMap_builder? : (c.artifactsOf builders).filterMap Artifact.builder? = builders := by
  have hbuilders : (builders.map Artifact.builder).filterMap Artifact.builder? = builders := by
    rw [List.filterMap_map]
    exact List.filterMap_some
  unfold artifactsOf
  cases c.schema.enums <;> cases c.schema.inputs <;>
    simp only [List.filterMap_append, hbuilders] <;>
    simp [List.filterMap_cons, Artifact.builder?, Function.comp_def]

/-- The types are among those of the schema, and no type is a super type of its own. -/
theorem legal_of_builds (hnames : ∀ d ∈ s.types, Sdl.IsName d.name)
    (hc : ofSchema s settings = .ok c) (hb : c.Builds name b) : b.derivedNames.Legal := by
  obtain rfl := hb.catalog
  obtain ⟨rfl, hmodel⟩ := typeOf_of_type? hc hb.type
  have hmodelled := (Outline.typeOf_eq_ok hmodel).2
  have hname {t : SelectableType} (ht : b.catalog.Modelled t) : Sdl.IsName t.name := by
    obtain ⟨d, hget⟩ := Option.isSome_iff_exists.1 ht.known
    rw [schema_eq hc] at hget
    obtain ⟨hd, hsame⟩ := Schema.get?_eq_some_iff.1 hget
    exact hsame ▸ hnames d hd
  have hsupers : b.type.superTypes.map (·.name) = b.catalog.superNames b.type.name :=
    map_eq_of_forall₂ hmodelled.superTypes fun _ _ hsuper => (Outline.typeOf_eq_ok hsuper).1
  -- Fewer types are above a super type than above the type.
  have hself : b.type.name ∉ b.catalog.superNames b.type.name := fun hself =>
    lt_irrefl _ (Outline.size_ancestors_lt hself)
  have hsub (p : Bool) (rest : List String) :
      (if p then [] else [b.typeName]).Sublist (b.typeName :: rest) := by
    cases p
    · exact List.Sublist.cons_cons _ (List.nil_sublist _)
    · exact List.nil_sublist _
  constructor
  case isName =>
    rintro n (hn | hn)
    · exact List.mem_singleton.1 hn ▸ hname hmodelled
    · rcases List.mem_cons.1 hn with rfl | hn
      · exact hname hmodelled
      · obtain ⟨t, ht, rfl⟩ := List.mem_map.1 hn
        exact hname (hmodelled.modelled_of_mem_superTypes ht)
  case builders => exact List.nodup_singleton _
  case arguments => exact hsub _ []
  case empties =>
    change (b.type.name :: b.type.superTypes.map (·.name)).Nodup
    rw [hsupers, List.nodup_cons]
    exact ⟨hself, Outline.nodup_superNames⟩
  case defaults => exact hsub _ _

/-- There is one builder for each composite type. -/
theorem legal_of_builders (hnames : ∀ d ∈ s.types, Sdl.IsName d.name)
    (hc : ofSchema s settings = .ok c) (hbuilders : c.builders = .ok builders) :
    (c.derivedNames builders).Legal := by
  have htypes := typeNames_of_builders hc hbuilders
  have hnodup : (builders.map (·.typeName)).Nodup := htypes ▸ Schema.nodup_compositeNames
  have hname : ∀ n ∈ builders.map (·.typeName), Sdl.IsName n := by
    rw [htypes]
    intro n hn
    obtain ⟨d, hget, _⟩ := Schema.mem_compositeNames_iff.1 hn
    obtain ⟨hd, rfl⟩ := Schema.get?_eq_some_iff.1 hget
    exact hnames d hd
  exact ⟨fun n hn => hn.elim (hname n) (hname n), hnodup, List.filter_sublist.map _, hnodup,
    List.filter_sublist.map _⟩

/-- The names that the index of the builders exports. -/
theorem exports_perm (hnames : ∀ d ∈ s.types, Sdl.IsName d.name)
    (hc : ofSchema s settings = .ok c) (hbuilders : c.builders = .ok builders) :
    ((Artifact.index ⟨.fetchers, builders.map c.builderExports⟩).exports.map (·.name)).Perm
      (c.derivedNames builders).names := by
  have hlegal := legal_of_builders hnames hc hbuilders
  have hexports : (Artifact.index ⟨.fetchers, builders.map c.builderExports⟩).exports.map (·.name) =
      builders.flatMap fun b => b.exportedTypes ++ b.exportedValues := by
    have hlisted (b : Builder) : (c.builderExports b).exports.map (·.name) =
        b.exportedTypes ++ b.exportedValues := by
      simp [ModuleExports.exports, builderExports, Function.comp_def]
    have hlinks : (Artifact.index ⟨.fetchers, builders.map c.builderExports⟩).exports =
        builders.flatMap fun b => (c.builderExports b).exports := by
      simp only [← ModuleExports.flatMap_links, ← List.flatMap_assoc, ← List.flatMap_map]
      rfl
    rw [hlinks, List.map_flatMap]
    simp only [hlisted]
  have hname {b : Builder} (hb : b ∈ builders) : b.name = b.typeName ++ c.settings.fetcherSuffix ∧
      b.instanceName = lowerFirst b.typeName ++ "$" := by
    obtain ⟨t, _, hbuilder⟩ := exists_of_mem_right (mapM_eq_ok_iff.1 hbuilders) hb
    obtain rfl := (builds_of_builder hbuilder).catalog
    exact ⟨rfl, instanceName_eq (hlegal.isName _ (.inl (List.mem_map_of_mem hb)))⟩
  have hdollars (n : String) : n ++ "$" ++ "$" = n ++ "$$" := by
    rw [String.append_assoc]
    rfl
  rw [hexports]
  -- Builder by builder, types and values alternate; sorted by kind they are the derived names.
  refine (List.flatMap_append_perm _ _ _).symm.trans (.append ?_ ?_)
  · refine flatMap_pair_perm.trans (.of_eq ?_)
    simp only [derivedNames, List.map_map]
    refine congrArg (· ++ _) (List.map_congr_left fun b hb => ?_)
    exact (hname hb).1
  · refine flatMap_pair_perm.trans (.of_eq ?_)
    simp only [derivedNames, List.map_map]
    refine congrArg₂ (· ++ ·) (List.map_congr_left fun b hb => (hname hb).2)
      (List.map_congr_left fun b hb => ?_)
    rw [(hname (List.mem_filter.1 hb).1).2, hdollars]
    rfl

/-- The names that the index of the builders exports are distinct if and only if the types of the
builders are apart, and the names that the file of a builder declares or takes from super types if
and only if its type and the super types are. -/
theorem exports_nodup_iff (hnames : ∀ d ∈ s.types, Sdl.IsName d.name)
    (hc : ofSchema s settings = .ok c) (hartifacts : c.artifacts = .ok artifacts) :
    (∀ i, .index i ∈ artifacts → i.folder = .fetchers →
      (((Artifact.index i).exports.map (·.name)).Nodup ↔
        (c.derivedNames (artifacts.filterMap Artifact.builder?)).Apart)) ∧
    ∀ b, .builder b ∈ artifacts →
      ((b.declarations.map (·.name) ++ b.importedConstants).Nodup ↔ b.derivedNames.Apart) := by
  constructor
  · intro i hi hfolder
    obtain ⟨builders, hbuilders, rfl⟩ := map_eq_ok_iff.1 hartifacts
    obtain rfl : i = ⟨.fetchers, builders.map c.builderExports⟩ := by
      rcases index_mem_artifactsOf_iff.1 hi with rfl | ⟨_, rfl⟩ | ⟨_, rfl⟩ | rfl
      · rfl
      all_goals cases hfolder
    rw [filterMap_builder?, (exports_perm hnames hc hbuilders).nodup_iff]
    exact DerivedNames.nodup_names_iff (legal_of_builders hnames hc hbuilders)
  · intro b hb
    obtain ⟨_, _, hbuilder⟩ := typeName_mem_of_mem_artifacts hc hartifacts hb
    have hlegal := legal_of_builds hnames hc (builds_of_builder hbuilder)
    rw [(Builder.declarations_perm hlegal).nodup_iff]
    exact DerivedNames.nodup_names_iff hlegal

/-- Whether a file is the one of a builder, and the names that are to be distinct in it. -/
def boundNames : Artifact → Bool × List String
  | .builder b => (true, b.declarations.map (·.name) ++ b.importedConstants)
  | .index i =>
    (false, if i.folder = .fetchers then (Artifact.index i).exports.map (·.name) else [])
  | .commonTypes _ | .enum _ | .input _ => (false, [])

/-- A schema with a super type and with arguments. -/
def zooText : String := "interface Animal \x7b name: String \x7d " ++
  "type Dog implements Animal \x7b name: String bark(times: Int): String \x7d"

theorem exports_nodup_iff_zoo : ∃ s c artifacts, Schema.parse zooText = .ok s ∧
    (∀ d ∈ s.types, Sdl.IsName d.name) ∧ ofSchema s {} = .ok c ∧ c.artifacts = .ok artifacts ∧
    (c.derivedNames (artifacts.filterMap Artifact.builder?)).Apart ∧
    ∀ b, .builder b ∈ artifacts → b.derivedNames.Apart := by
  obtain ⟨s, c, artifacts, hs, hc, hartifacts, hlisting⟩ :=
    exists_artifacts_of_map zooText {} (fun _ => boundNames)
      [(false, []), (true, ["AnimalFetcher", "animal$", "animal$$"]),
        (true, ["DogFetcher", "dog$", "dog$$", "DogArgs", "animal$"]),
        (false, ["AnimalFetcher", "animal$", "animal$$", "DogFetcher", "DogArgs", "dog$", "dog$$"]),
        (false, [])] (by cbv)
  have hnodup {a : Artifact} (ha : a ∈ artifacts) : (boundNames a).2.Nodup := by
    have hall : ∀ entry ∈ artifacts.map boundNames, entry.2.Nodup := by
      rw [hlisting]
      decide
    exact hall _ (List.mem_map_of_mem ha)
  have hnames := Schema.isName_of_parse hs
  obtain ⟨hindexes, hbuilders⟩ := exports_nodup_iff hnames hc hartifacts
  refine ⟨s, c, artifacts, hs, hnames, hc, hartifacts, ?_, fun b hb => (hbuilders b hb).1 (hnodup hb)⟩
  obtain ⟨builders, _, hfiles⟩ := map_eq_ok_iff.1 hartifacts
  have hindex : .index ⟨.fetchers, builders.map c.builderExports⟩ ∈ artifacts :=
    hfiles ▸ index_mem_artifactsOf_iff.2 (.inl rfl)
  exact (hindexes _ hindex rfl).1 (hnodup hindex)

/-- A schema with two types whose first letters differ in case. -/
def clashText : String :=
  "interface foo \x7b a: Int \x7d type Foo implements foo \x7b a: Int \x7d"

/-- The index exports the constants of both types by the same names, and the file of the one
declares the constant that it takes from the other. -/
theorem not_nodup_exports_foo : ∃ s c artifacts, Schema.parse clashText = .ok s ∧
    ofSchema s {} = .ok c ∧ c.artifacts = .ok artifacts ∧
    (∃ i, .index i ∈ artifacts ∧ i.folder = .fetchers ∧
      ¬ ((Artifact.index i).exports.map (·.name)).Nodup) ∧
    ∃ b, .builder b ∈ artifacts ∧
      ¬ (b.declarations.map (·.name) ++ b.importedConstants).Nodup := by
  obtain ⟨s, c, artifacts, hs, hc, hartifacts, hlisting⟩ :=
    exists_artifacts_of_map clashText {} (fun _ => boundNames)
      [(false, []), (true, ["fooFetcher", "foo$", "foo$$"]),
        (true, ["FooFetcher", "foo$", "foo$$", "foo$"]),
        (false, ["fooFetcher", "foo$", "foo$$", "FooFetcher", "foo$", "foo$$"]),
        (false, [])] (by cbv)
  have hmem {entry : Bool × List String} (h : entry ∈ artifacts.map boundNames) :
      ∃ a ∈ artifacts, boundNames a = entry :=
    List.mem_map.1 h
  rw [hlisting] at hmem
  refine ⟨s, c, artifacts, hs, hc, hartifacts, ?_, ?_⟩
  · obtain ⟨a, ha, hbound⟩ : ∃ a ∈ artifacts, boundNames a =
        (false, ["fooFetcher", "foo$", "foo$$", "FooFetcher", "foo$", "foo$$"]) := hmem (by decide)
    cases a with
    | index i =>
      have hnames := (Prod.mk.inj hbound).2
      split at hnames
      · next hfolder => exact ⟨i, ha, hfolder, hnames ▸ by decide⟩
      · cases hnames
    | _ => cases hbound
  · obtain ⟨a, ha, hbound⟩ : ∃ a ∈ artifacts, boundNames a =
        (true, ["FooFetcher", "foo$", "foo$$", "foo$"]) := hmem (by decide)
    cases a with
    | builder b => exact ⟨b, ha, (Prod.mk.inj hbound).2 ▸ by decide⟩
    | _ => cases hbound

end Catalog

end TypedQuery
