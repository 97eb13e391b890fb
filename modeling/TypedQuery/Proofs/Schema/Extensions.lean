-- SUMMARY: What the definitions and extensions of a document make of a type.
import Mathlib.Data.List.Induction
import Mathlib.Data.List.Nodup
import TypedQuery.Proofs.Fallible
import TypedQuery.Proofs.Lists
import TypedQuery.Schema.Basic

/-!
# Definitions and extensions

A list of types is known by its names and by what it has under each of them. Defining, providing scalars
and extending each have one equation for the names and one for the type under a name, so that a whole
document has them too: `names_definedTypes` and `find?_definedTypes` for its definitions,
`find?_extendAll` for its extensions. Extensions fail at the first one that does not go with the type of
its name (`extendAll_eq_error_iff`), and extending changes the kind of no type, so that does not depend on
the extensions before it. `Schema.ofDocument_extended` puts this together, for the definitions as they
stand in a document.
-/
namespace TypedQuery

namespace TypeDef

variable {d e : TypeDef} {types extended : List TypeDef} {n : String}

/-! ## Extended definitions -/

/-- The types that a union consists of. -/
def members : TypeDef → List String
  | union d => d.members
  | _ => []

/-- The values of an enum. -/
def values : TypeDef → List String
  | enum d => d.values
  | _ => []

/-- The fields of an input object. -/
def inputs : TypeDef → List InputValue
  | input d => d.fields
  | _ => []

/-- A definition with the content of extensions behind its own. -/
def extendedBy (d : TypeDef) (extensions : List TypeDef) : TypeDef :=
  match d with
  | object d => object ⟨d.name, d.interfaces ++ extensions.flatMap TypeDef.interfaces,
      d.fields ++ extensions.flatMap TypeDef.fields⟩
  | interface d => interface ⟨d.name, d.interfaces ++ extensions.flatMap TypeDef.interfaces,
      d.fields ++ extensions.flatMap TypeDef.fields⟩
  | union d => union ⟨d.name, d.members ++ extensions.flatMap TypeDef.members⟩
  | enum d => enum ⟨d.name, d.values ++ extensions.flatMap TypeDef.values⟩
  | input d => input ⟨d.name, d.fields ++ extensions.flatMap TypeDef.inputs⟩
  | scalar name => scalar name

@[simp] theorem name_extendedBy {extensions : List TypeDef} :
    (d.extendedBy extensions).name = d.name := by
  cases d <;> rfl

@[simp] theorem kind_extendedBy {extensions : List TypeDef} :
    (d.extendedBy extensions).kind = d.kind := by
  cases d <;> rfl

@[simp] theorem extendedBy_nil : d.extendedBy [] = d := by
  cases d <;> simp [extendedBy]

theorem extendedBy_extendedBy {first second : List TypeDef} :
    (d.extendedBy first).extendedBy second = d.extendedBy (first ++ second) := by
  cases d <;> simp [extendedBy]

theorem merge?_eq : d.merge? e = if d.kind = e.kind then some (d.extendedBy [e]) else none := by
  cases d <;> cases e <;>
    simp [merge?, kind, extendedBy, interfaces, fields, members, values, inputs]

/-! ## Lists of types -/

/-- A list of types is what it has under its names. -/
theorem map_some_eq (hnodup : (types.map name).Nodup) :
    types.map some = (types.map name).map fun n => types.find? (·.name = n) := by
  rw [List.map_map]
  refine List.map_congr_left fun d hd => ?_
  exact ((find?_eq_some_iff_of_nodup hnodup).2 ⟨hd, rfl⟩).symm

/-- Lists of types with the same names are equal if they have the same under every name. -/
theorem eq_of_find?_eq (hnames : types.map name = extended.map name)
    (hnodup : (types.map name).Nodup)
    (hfind : ∀ n, types.find? (·.name = n) = extended.find? (·.name = n)) : types = extended := by
  have hsame : types.map some = extended.map some := by
    rw [map_some_eq hnodup, map_some_eq (hnames ▸ hnodup), hnames]
    simp only [hfind]
  exact List.map_injective_iff.2 (fun _ _ => Option.some.inj) hsame

theorem find?_eq_none_iff : types.find? (·.name = n) = none ↔ n ∉ types.map name := by
  simp only [List.find?_eq_none, decide_eq_true_eq, List.mem_map, not_exists, not_and]

/-! ## Definitions -/

theorem find?_define : (define types d).find? (·.name = n) =
    if d.name = n then some d else types.find? (·.name = n) := by
  induction types with
  | nil => by_cases h : d.name = n <;> simp [define, h]
  | cons first rest ih =>
    unfold define
    by_cases hsame : first.name = d.name
    · by_cases hn : d.name = n <;> simp [hsame, hn]
    · rw [if_neg hsame]
      by_cases hfirst : first.name = n
      · have hn : ¬ d.name = n := fun hn => hsame (hfirst.trans hn.symm)
        simp [hfirst, hn]
      · simp [hfirst, ih]

/-- Of several definitions of a name, the last one counts. -/
theorem find?_foldl_define {ds : List TypeDef} :
    (ds.foldl define types).find? (·.name = n) =
      (ds.reverse.find? (·.name = n)).or (types.find? (·.name = n)) := by
  induction ds generalizing types with
  | nil => rfl
  | cons d rest ih =>
    rw [List.foldl_cons, ih, find?_define, List.reverse_cons, List.find?_append, Option.or_assoc]
    by_cases hn : d.name = n <;> simp [hn]

/-- Every name has the place of its first definition. -/
theorem names_foldl_define {ds : List TypeDef} :
    (ds.foldl define []).map name = (ds.map name).eraseDups := by
  -- From the last definition on, as a later one moves none of the names before it.
  induction ds using List.reverseRecOn with
  | nil => rfl
  | append_singleton ds d ih =>
    rw [List.foldl_append, List.foldl_cons, List.foldl_nil, names_define, ih, List.map_append,
      List.map_singleton, List.eraseDups_append]
    by_cases hd : d.name ∈ ds.map name
    · rw [if_pos (List.mem_eraseDups.2 hd), List.removeAll,
        List.filter_cons_of_neg (by simpa using hd)]
      simp
    · rw [if_neg (fun hmem => hd (List.mem_eraseDups.1 hmem)), List.removeAll,
        List.filter_cons_of_pos (by simpa using hd)]
      simp [List.eraseDups_cons]

theorem find?_provideScalar {scalar : String} : (provideScalar types scalar).find? (·.name = n) =
    (types.find? (·.name = n)).or (if scalar = n then some (.scalar scalar) else none) := by
  unfold provideScalar
  split
  · next hmem =>
    by_cases hn : scalar = n
    · subst hn
      cases hfind : types.find? (·.name = scalar) with
      | none => exact absurd hmem (find?_eq_none_iff.1 hfind)
      | some d => rfl
    · simp [hn]
  · rw [List.find?_append]
    by_cases hn : scalar = n <;> simp [hn, name]

theorem find?_foldl_provideScalar {scalars : List String} :
    (scalars.foldl provideScalar types).find? (·.name = n) =
      (types.find? (·.name = n)).or (if n ∈ scalars then some (.scalar n) else none) := by
  induction scalars generalizing types with
  | nil => simp
  | cons scalar rest ih =>
    rw [List.foldl_cons, ih, find?_provideScalar, Option.or_assoc]
    by_cases hn : scalar = n
    · simp [hn]
    · simp [hn, eq_comm (a := n)]

theorem names_foldl_provideScalar {scalars : List String} (h : scalars.Nodup) :
    (scalars.foldl provideScalar types).map name =
      types.map name ++ scalars.filter (· ∉ types.map name) := by
  induction scalars generalizing types with
  | nil => simp
  | cons scalar rest ih =>
    obtain ⟨hnew, hrest⟩ := List.nodup_cons.1 h
    rw [List.foldl_cons, ih hrest, provideScalar]
    split
    · next hmem => rw [List.filter_cons_of_neg (by simpa using hmem)]
    · next hmem =>
      have hnames : (types ++ [TypeDef.scalar scalar]).map name = types.map name ++ [scalar] := by
        simp [name]
      rw [hnames, List.filter_cons_of_pos (by simpa using hmem), List.append_assoc,
        List.singleton_append]
      congr 2
      -- That this scalar is provided makes no other one superfluous.
      refine List.filter_congr fun other hother => ?_
      have hne : other ≠ scalar := fun heq => hnew (heq ▸ hother)
      simp [hne]

/-! ## Extensions -/

/-- What is wrong with an extension of one of the types. -/
def faultIn (types : List TypeDef) (e : TypeDef) : Option Error :=
  match types.find? (·.name = e.name) with
  | none => some (.unknownType e.name .extension)
  | some d => if d.kind = e.kind then none else some (.invalidExtension e.name d.kind)

theorem extend_eq_error_iff {failure : Error} :
    extend types e = .error failure ↔ faultIn types e = some failure := by
  induction types with
  | nil => simp [extend, faultIn]
  | cons first rest ih =>
    unfold extend
    by_cases hsame : first.name = e.name
    · rw [if_pos hsame, faultIn, List.find?_cons_of_pos (by simpa using hsame), merge?_eq]
      by_cases hkind : first.kind = e.kind <;> simp [hkind]
    · have hfault : faultIn (first :: rest) e = faultIn rest e := by
        rw [faultIn, List.find?_cons_of_neg (by simpa using hsame), faultIn]
      rw [if_neg hsame, hfault, ← ih]
      cases extend rest e <;> simp [Except.map]

theorem find?_of_extend (h : extend types e = .ok extended) : extended.find? (·.name = n) =
    (types.find? (·.name = n)).map fun d => if e.name = n then d.extendedBy [e] else d := by
  induction types generalizing extended with
  | nil => cases h
  | cons first rest ih =>
    unfold extend at h
    by_cases hsame : first.name = e.name
    · rw [if_pos hsame, merge?_eq] at h
      by_cases hkind : first.kind = e.kind
      · rw [if_pos hkind] at h
        cases h
        by_cases hn : first.name = n
        · simp [hn, ← hsame]
        · simp [hn, ← hsame]
      · rw [if_neg hkind] at h
        cases h
    · rw [if_neg hsame] at h
      obtain ⟨others, hothers, rfl⟩ := map_eq_ok_iff.1 h
      by_cases hn : first.name = n
      · have hne : ¬ e.name = n := fun heq => hsame (hn.trans heq.symm)
        simp [hn, hne]
      · simp [hn, ih hothers]

/-- An extension leaves the kinds of the types as they are, and with them what is wrong with others. -/
theorem faultIn_of_extend {other : TypeDef} (h : extend types e = .ok extended) :
    faultIn extended other = faultIn types other := by
  unfold faultIn
  rw [find?_of_extend h]
  cases types.find? (·.name = other.name) with
  | none => rfl
  | some d => by_cases hname : e.name = other.name <;> simp [hname]

/-- Extensions fail at the first one that is wrong. -/
theorem extendAll_eq_error_iff {extensions : List TypeDef} {failure : Error} :
    extendAll types extensions = .error failure ↔
      extensions.findSome? (faultIn types) = some failure := by
  induction extensions generalizing types with
  | nil => simp [extendAll]
  | cons e rest ih =>
    rw [extendAll, List.findSome?_cons]
    cases hextend : extend types e with
    | error other => simp [extend_eq_error_iff.1 hextend]
    | ok extended =>
      have hnone : faultIn types e = none := by
        cases hfault : faultIn types e with
        | none => rfl
        | some failure =>
          rw [extend_eq_error_iff.2 hfault] at hextend
          cases hextend
      have hsame : faultIn extended = faultIn types := funext fun _ => faultIn_of_extend hextend
      -- The rest is checked against the extended types, which is as good as against the types.
      simp only [hnone, ih, hsame]

/-- Extensions append what they add to the types of their names, in order. -/
theorem find?_extendAll {extensions : List TypeDef} (h : extendAll types extensions = .ok extended) :
    extended.find? (·.name = n) =
      (types.find? (·.name = n)).map (·.extendedBy (extensions.filter (·.name = n))) := by
  induction extensions generalizing types with
  | nil =>
    cases h
    simp
  | cons e rest ih =>
    rw [extendAll] at h
    split at h
    · cases h
    · next first hfirst =>
      rw [ih h, find?_of_extend hfirst, Option.map_map]
      congr 1
      funext d
      by_cases hn : e.name = n <;> simp [hn, extendedBy_extendedBy]

end TypeDef

/-! ## Documents -/

namespace Sdl

namespace Definition

/-- The definition extends a type. -/
def isExtension : Definition → Bool
  | extension _ => true
  | _ => false

/-- The type that is defined. -/
def declared? : Definition → Option TypeDef
  | type d => some d
  | _ => none

/-- What is added to a type. -/
def extension? : Definition → Option TypeDef
  | extension e => some e
  | _ => none

/-- The roots that are listed. -/
def roots? : Definition → Option RootTypes
  | schema roots => some roots
  | _ => none

end Definition

namespace Document

variable {doc other : Document} {definitions : List Definition} {d e : TypeDef} {n : String}

/-- The types that definitions define, in order. -/
def declaredIn (definitions : List Definition) : List TypeDef :=
  definitions.filterMap Definition.declared?

@[simp] theorem declaredIn_type {rest : List Definition} :
    declaredIn (.type d :: rest) = d :: declaredIn rest := rfl

@[simp] theorem declaredIn_extension {rest : List Definition} :
    declaredIn (.extension e :: rest) = declaredIn rest := rfl

@[simp] theorem declaredIn_schema {roots : RootTypes} {rest : List Definition} :
    declaredIn (.schema roots :: rest) = declaredIn rest := rfl

@[simp] theorem declaredIn_directive {rest : List Definition} :
    declaredIn (.directive n :: rest) = declaredIn rest := rfl

/-- The extensions among definitions, in order. -/
def extensionsIn (definitions : List Definition) : List TypeDef :=
  definitions.filterMap Definition.extension?

theorem mem_extensionsIn : e ∈ extensionsIn definitions ↔ .extension e ∈ definitions := by
  rw [extensionsIn, List.mem_filterMap]
  constructor
  · rintro ⟨_ | _ | _ | _, hmem, ⟨⟩⟩
    exact hmem
  · exact fun hmem => ⟨_, hmem, rfl⟩

/-- The first extension for which there is something is one behind others for which there is nothing. -/
theorem findSome?_extensionsIn {α : Type} {f : TypeDef → Option α} {a : α} :
    (extensionsIn definitions).findSome? f = some a ↔ ∃ before e after,
      definitions = before ++ .extension e :: after ∧ f e = some a ∧
        ∀ earlier, .extension earlier ∈ before → f earlier = none := by
  rw [extensionsIn, ← List.head?_filterMap, List.filterMap_filterMap, List.head?_filterMap,
    List.findSome?_eq_some_iff]
  constructor
  · rintro ⟨before, _ | e | _ | _, after, hsplit, hfound, hbefore⟩
    case extension => exact ⟨before, e, after, hsplit, hfound, fun _ hmem => hbefore _ hmem⟩
    all_goals cases hfound
  · rintro ⟨before, e, after, hsplit, hfound, hbefore⟩
    refine ⟨before, .extension e, after, hsplit, hfound, fun d hd => ?_⟩
    cases d with
    | extension earlier => exact hbefore earlier hd
    | type _ | schema _ | directive _ => rfl

theorem declarations_eq : doc.declarations = declaredIn doc.definitions :=
  List.filterMap_congr fun d _ => by cases d <;> rfl

theorem extensions_eq : doc.extensions = extensionsIn doc.definitions :=
  List.filterMap_congr fun d _ => by cases d <;> rfl

theorem roots_eq :
    doc.roots = (doc.definitions.filterMap Definition.roots?).getLast?.getD .unset := by
  rw [roots]
  congr 2

/-- The scalars that no document has to define. -/
def givenScalars : List String := ["String", "Int", "Float", "Boolean", "ID"]

theorem builtinScalars_eq : builtinScalars = givenScalars := rfl

/-- The last definition of a name; a given scalar need not be defined. -/
def definition? (doc : Document) (name : String) : Option TypeDef :=
  ((declaredIn doc.definitions).reverse.find? (·.name = name)).or
    (if name ∈ givenScalars then some (.scalar name) else none)

/-- The names that are defined, each at the place of its first definition, and then the given scalars
that are not. -/
def typeNames (doc : Document) : List String :=
  ((declaredIn doc.definitions).map TypeDef.name).eraseDups ++
    givenScalars.filter (· ∉ (declaredIn doc.definitions).map TypeDef.name)

/-- The extensions of a name, in order. -/
def extensionsOf (doc : Document) (name : String) : List TypeDef :=
  (extensionsIn doc.definitions).filter (·.name = name)

/-- What is wrong with an extension: the name is not defined, or as something of another kind. -/
def fault? (doc : Document) (e : TypeDef) : Option Error :=
  match doc.definition? e.name with
  | none => some (.unknownType e.name .extension)
  | some d => if d.kind = e.kind then none else some (.invalidExtension e.name d.kind)

theorem fault?_eq_none_iff : doc.fault? e = none ↔
    ∃ d, doc.definition? e.name = some d ∧ d.kind = e.kind := by
  unfold fault?
  cases doc.definition? e.name with
  | none => simp
  | some d => by_cases h : d.kind = e.kind <;> simp [h]

/-- Definitions without the extensions; the last definition of every name has the extensions in it. -/
def inlineInto (extensions : List TypeDef) : List Definition → List Definition
  | [] => []
  | .extension _ :: rest => inlineInto extensions rest
  | .type d :: rest =>
    .type (if d.name ∈ (declaredIn rest).map TypeDef.name then d
      else d.extendedBy (extensions.filter (·.name = d.name))) :: inlineInto extensions rest
  | .schema roots :: rest => .schema roots :: inlineInto extensions rest
  | .directive name :: rest => .directive name :: inlineInto extensions rest

/-- The document with every extension in the last definition of the type it extends. -/
def inlined (doc : Document) : Document :=
  ⟨inlineInto (extensionsIn doc.definitions) doc.definitions⟩

/-! ### Inlined extensions -/

section

variable {extensions : List TypeDef}

theorem names_inlineInto : (declaredIn (inlineInto extensions definitions)).map TypeDef.name =
    (declaredIn definitions).map TypeDef.name := by
  induction definitions with
  | nil => rfl
  | cons first rest ih =>
    cases first with
    | type d =>
      simp only [inlineInto, declaredIn_type, List.map_cons, ih]
      congr 1
      split <;> simp
    | extension _ | schema _ | directive _ => simpa [inlineInto] using ih

/-- The last definition of a name has the extensions of that name in it. -/
theorem find?_inlineInto :
    (declaredIn (inlineInto extensions definitions)).reverse.find? (·.name = n) =
      ((declaredIn definitions).reverse.find? (·.name = n)).map
        (·.extendedBy (extensions.filter (·.name = n))) := by
  induction definitions with
  | nil => rfl
  | cons first rest ih =>
    cases first with
    | type d =>
      simp only [inlineInto, declaredIn_type, List.reverse_cons, List.find?_append, ih]
      -- The search is from behind: a later definition of the name has the extensions in it
      -- already, and this one stays as it is.
      cases hlater : (declaredIn rest).reverse.find? (·.name = n) with
      | some later => rfl
      | none =>
        have hnew : n ∉ (declaredIn rest).map TypeDef.name := by
          have hnone := TypeDef.find?_eq_none_iff.1 hlater
          rwa [List.map_reverse, List.mem_reverse] at hnone
        by_cases hn : d.name = n
        · subst hn
          rw [if_neg hnew]
          simp
        · have hother : ¬ (if d.name ∈ (declaredIn rest).map TypeDef.name then d
              else d.extendedBy (extensions.filter (·.name = d.name))).name = n := by
            split <;> simpa using hn
          rw [List.find?_cons_of_neg (by simpa using hother), List.find?_cons_of_neg (by simpa using hn)]
          rfl
    | extension _ | schema _ | directive _ => simpa [inlineInto] using ih

end

theorem names_inlined : (declaredIn doc.inlined.definitions).map TypeDef.name =
    (declaredIn doc.definitions).map TypeDef.name :=
  names_inlineInto

theorem typeNames_inlined : doc.inlined.typeNames = doc.typeNames := by
  rw [typeNames, names_inlined, typeNames]

theorem definition?_inlined :
    doc.inlined.definition? n = (doc.definition? n).map (·.extendedBy (doc.extensionsOf n)) := by
  have hlast : (declaredIn doc.inlined.definitions).reverse.find? (·.name = n) =
      ((declaredIn doc.definitions).reverse.find? (·.name = n)).map
        (·.extendedBy (doc.extensionsOf n)) :=
    find?_inlineInto
  rw [definition?, definition?, hlast]
  cases (declaredIn doc.definitions).reverse.find? (·.name = n) with
  | some d => rfl
  | none => by_cases hn : n ∈ givenScalars <;> simp [hn, TypeDef.extendedBy]

theorem extensionsIn_inlineInto {extensions : List TypeDef} :
    extensionsIn (inlineInto extensions definitions) = [] := by
  induction definitions with
  | nil => rfl
  | cons first rest ih => cases first <;> exact ih

theorem roots_inlined : doc.inlined.roots = doc.roots := by
  have hsame (definitions : List Definition) :
      (inlineInto (extensionsIn doc.definitions) definitions).filterMap Definition.roots? =
        definitions.filterMap Definition.roots? := by
    induction definitions with
    | nil => rfl
    | cons first rest ih =>
      cases first with
      | schema roots => exact congrArg (roots :: ·) ih
      | type _ | extension _ | directive _ => exact ih
  rw [roots_eq, roots_eq]
  exact congrArg (·.getLast?.getD .unset) (hsame doc.definitions)

/-- Documents with the same definitions and the same extensions, mixed in any way. -/
structure Shuffled (doc other : Document) : Prop where
  definitions : doc.definitions.filter (!·.isExtension) = other.definitions.filter (!·.isExtension)
  extensions : doc.definitions.filter (·.isExtension) = other.definitions.filter (·.isExtension)

theorem filterMap_of_not_isExtension {α : Type} {f : Definition → Option α}
    (hf : ∀ e, f (.extension e) = none) (definitions : List Definition) :
    (definitions.filter (!·.isExtension)).filterMap f = definitions.filterMap f := by
  rw [List.filterMap_filter]
  refine List.filterMap_congr fun d _ => ?_
  cases d <;> simp [Definition.isExtension, hf]

theorem extensionsIn_filter :
    extensionsIn (definitions.filter (·.isExtension)) = extensionsIn definitions := by
  rw [extensionsIn, List.filterMap_filter]
  refine List.filterMap_congr fun d _ => ?_
  cases d <;> rfl

theorem Shuffled.declarations (h : doc.Shuffled other) : doc.declarations = other.declarations := by
  rw [declarations_eq, declarations_eq, declaredIn, declaredIn,
    ← filterMap_of_not_isExtension (fun _ => rfl), h.definitions,
    filterMap_of_not_isExtension fun _ => rfl]

theorem Shuffled.extensions_eq (h : doc.Shuffled other) : doc.extensions = other.extensions := by
  rw [Document.extensions_eq, Document.extensions_eq, ← extensionsIn_filter, h.extensions,
    extensionsIn_filter]

theorem Shuffled.roots (h : doc.Shuffled other) : doc.roots = other.roots := by
  rw [roots_eq, roots_eq, ← filterMap_of_not_isExtension (fun _ => rfl), h.definitions,
    filterMap_of_not_isExtension fun _ => rfl]

end Document

end Sdl

namespace Schema

variable {doc other : Sdl.Document} {s : Schema} {n : String}

theorem find?_definedTypes :
    (definedTypes doc).find? (·.name = n) = doc.definition? n := by
  rw [definedTypes, TypeDef.find?_foldl_provideScalar, TypeDef.find?_foldl_define,
    Sdl.Document.declarations_eq, Sdl.Document.builtinScalars_eq]
  simp [Sdl.Document.definition?]

theorem names_definedTypes : (definedTypes doc).map TypeDef.name = doc.typeNames := by
  rw [definedTypes, TypeDef.names_foldl_provideScalar (by decide), TypeDef.names_foldl_define,
    Sdl.Document.declarations_eq, Sdl.Document.builtinScalars_eq, Sdl.Document.typeNames]
  simp only [List.mem_eraseDups]

theorem faultIn_definedTypes : TypeDef.faultIn (definedTypes doc) = doc.fault? := by
  funext e
  rw [TypeDef.faultIn, find?_definedTypes, Sdl.Document.fault?]

/-- The roots of a document that defines types with these names. -/
def rootsOf (doc : Sdl.Document) (types : List TypeDef) : RootTypes where
  query := defaultRoot types doc.roots.query "Query"
  mutation := defaultRoot types doc.roots.mutation "Mutation"
  subscription := defaultRoot types doc.roots.subscription "Subscription"

theorem ofDocument_eq_ok_iff : ofDocument doc = .ok s ↔
    TypeDef.extendAll (definedTypes doc) doc.extensions = .ok s.types ∧
      s.roots = rootsOf doc s.types := by
  unfold ofDocument
  split
  · next failure hfailure => simp [hfailure]
  · next types htypes =>
    constructor
    · intro h
      cases h
      exact ⟨htypes, rfl⟩
    · rintro ⟨hsame, hroots⟩
      obtain ⟨found, roots, distinct⟩ := s
      obtain rfl : types = found := Except.ok.inj (htypes.symm.trans hsame)
      obtain rfl : roots = rootsOf doc types := hroots
      rfl

theorem ofDocument_eq_error_iff {failure : Error} : ofDocument doc = .error failure ↔
    (Sdl.Document.extensionsIn doc.definitions).findSome? doc.fault? = some failure := by
  rw [← faultIn_definedTypes, ← TypeDef.extendAll_eq_error_iff, ← Sdl.Document.extensions_eq]
  unfold ofDocument
  split
  · next other hother => simp [hother]
  · next types htypes => simp [htypes]

theorem exists_ofDocument_iff : (∃ s, ofDocument doc = .ok s) ↔ ∀ e,
    .extension e ∈ doc.definitions → ∃ d, doc.definition? e.name = some d ∧ d.kind = e.kind := by
  simp only [← Sdl.Document.fault?_eq_none_iff, ← Sdl.Document.mem_extensionsIn,
    ← List.findSome?_eq_none_iff]
  cases hdoc : ofDocument doc with
  | ok s =>
    have hnone : ∀ failure,
        (Sdl.Document.extensionsIn doc.definitions).findSome? doc.fault? ≠ some failure := by
      intro failure hfailure
      rw [ofDocument_eq_error_iff.2 hfailure] at hdoc
      cases hdoc
    simpa using Option.eq_none_iff_forall_ne_some.2 hnone
  | error failure => simp [ofDocument_eq_error_iff.1 hdoc]

theorem names_of_ofDocument (h : ofDocument doc = .ok s) : s.names = doc.typeNames := by
  rw [names, TypeDef.names_of_extendAll (ofDocument_eq_ok_iff.1 h).1, names_definedTypes]

theorem get?_of_ofDocument (h : ofDocument doc = .ok s) :
    s.get? n = (doc.definition? n).map (·.extendedBy (doc.extensionsOf n)) := by
  rw [get?, TypeDef.find?_extendAll (ofDocument_eq_ok_iff.1 h).1, find?_definedTypes,
    Sdl.Document.extensions_eq]
  rfl

/-- The result is the same with every extension in the last definition of its type. -/
theorem ofDocument_inlined (h : ofDocument doc = .ok s) : ofDocument doc.inlined = .ok s := by
  have htypes : definedTypes doc.inlined = s.types := by
    refine TypeDef.eq_of_find?_eq ?_ nodup_definedTypes fun n => ?_
    · rw [names_definedTypes, Sdl.Document.typeNames_inlined, ← names_of_ofDocument h, names]
    · rw [find?_definedTypes, Sdl.Document.definition?_inlined, ← get?_of_ofDocument h, get?]
  refine ofDocument_eq_ok_iff.2 ⟨?_, ?_⟩
  · rw [Sdl.Document.extensions_eq, Sdl.Document.inlined, Sdl.Document.extensionsIn_inlineInto]
    exact congrArg Except.ok htypes
  · rw [(ofDocument_eq_ok_iff.1 h).2, rootsOf, rootsOf, Sdl.Document.roots_inlined]

/-- Where the extensions stand among the definitions is of no account. -/
theorem ofDocument_eq_of_shuffled (h : doc.Shuffled other) : ofDocument doc = ofDocument other := by
  have htypes : definedTypes doc = definedTypes other := by
    rw [definedTypes, h.declarations, definedTypes]
  -- The documents define the same schemas and fail with the same errors, so they have the same
  -- result.
  have hok (s : Schema) : ofDocument doc = .ok s ↔ ofDocument other = .ok s := by
    rw [ofDocument_eq_ok_iff, ofDocument_eq_ok_iff, htypes, h.extensions_eq, rootsOf, h.roots,
      rootsOf]
  have herror (failure : Error) :
      ofDocument doc = .error failure ↔ ofDocument other = .error failure := by
    rw [ofDocument_eq_error_iff, ofDocument_eq_error_iff, ← faultIn_definedTypes, htypes,
      faultIn_definedTypes, ← Sdl.Document.extensions_eq, ← Sdl.Document.extensions_eq,
      h.extensions_eq]
  cases hother : ofDocument other with
  | ok s => exact (hok s).2 hother
  | error failure => exact (herror failure).2 hother

/-- A document defines a schema if and only if each of its extensions goes with a type that is defined;
otherwise the first one that does not is the reason. In the schema, every type is the last definition of
its name with all extensions of that name behind it. The extensions can as well be written into the last
definitions, and they can stand anywhere. -/
theorem ofDocument_extended (doc : Sdl.Document) :
    ((∃ s, ofDocument doc = .ok s) ↔ ∀ e, .extension e ∈ doc.definitions →
      ∃ d, doc.definition? e.name = some d ∧ d.kind = e.kind) ∧
    (∀ failure, ofDocument doc = .error failure ↔ ∃ before e after,
      doc.definitions = before ++ .extension e :: after ∧ doc.fault? e = some failure ∧
        ∀ earlier, .extension earlier ∈ before → doc.fault? earlier = none) ∧
    (∀ s, ofDocument doc = .ok s →
      (s.types.map some = doc.typeNames.map fun n =>
        (doc.definition? n).map (·.extendedBy (doc.extensionsOf n))) ∧
      ofDocument doc.inlined = .ok s) ∧
    ∀ other, doc.Shuffled other → ofDocument other = ofDocument doc := by
  refine ⟨exists_ofDocument_iff, fun failure =>
    ofDocument_eq_error_iff.trans Sdl.Document.findSome?_extensionsIn,
    fun s h => ⟨?_, ofDocument_inlined h⟩, fun other h => (ofDocument_eq_of_shuffled h).symm⟩
  have hnames : s.types.map TypeDef.name = doc.typeNames := names_of_ofDocument h
  rw [TypeDef.map_some_eq s.distinct, hnames]
  exact List.map_congr_left fun n _ => get?_of_ofDocument h

/-- A field without arguments. -/
def plainField (name type : String) : FieldDef := ⟨name, .named type, []⟩

/-- A document in which a type is extended before the first of its definitions and behind the last, an
enum is extended, and so is a scalar that is not defined. -/
def harbour : Sdl.Document := ⟨[
  .extension (.object ⟨"Ship", ["Vessel"], [plainField "flag" "String"]⟩),
  .type (.object ⟨"Ship", [], [plainField "name" "String"]⟩),
  .type (.enum ⟨"Size", ["SMALL"]⟩),
  .extension (.enum ⟨"Size", ["LARGE"]⟩),
  .type (.object ⟨"Ship", ["Asset"], [plainField "tonnage" "Int"]⟩),
  .extension (.scalar "ID"),
  .extension (.object ⟨"Ship", [], [plainField "captain" "ID"]⟩)]⟩

/-- The types of that document. -/
def harbourTypes : List TypeDef := [
  .object ⟨"Ship", ["Asset", "Vessel"],
    [plainField "tonnage" "Int", plainField "flag" "String", plainField "captain" "ID"]⟩,
  .enum ⟨"Size", ["SMALL", "LARGE"]⟩,
  .scalar "String", .scalar "Int", .scalar "Float", .scalar "Boolean", .scalar "ID"]

/-- The extensions of the ship are behind its last definition, at the place of its first one. An
extension of something else under its name is refused, and so is the first of two. -/
theorem ofDocument_extended_harbour :
    (∃ s, ofDocument harbour = .ok s ∧ s.types = harbourTypes ∧ ofDocument harbour.inlined = .ok s) ∧
    ofDocument ⟨[.extension (.enum ⟨"Ship", ["SINK"]⟩), .extension (.input ⟨"Buoy", []⟩)] ++
      harbour.definitions⟩ = .error (.invalidExtension "Ship" .object) := by
  obtain ⟨hexists, -, htypes, -⟩ := ofDocument_extended harbour
  obtain ⟨s, hs⟩ : ∃ s, ofDocument harbour = .ok s := by
    refine hexists.2 fun e he => ?_
    simp only [harbour, List.mem_cons, Sdl.Definition.extension.injEq, reduceCtorEq, List.not_mem_nil,
      false_or, or_false] at he
    rcases he with rfl | rfl | rfl | rfl <;> exact ⟨_, rfl, rfl⟩
  obtain ⟨hlisted, hinlined⟩ := htypes s hs
  refine ⟨⟨s, hs, ?_, hinlined⟩, ?_⟩
  · refine List.map_injective_iff.2 (fun _ _ => Option.some.inj) (hlisted.trans ?_)
    decide
  · exact ((ofDocument_extended _).2.1 _).2 ⟨[], _, _, rfl, rfl, nofun⟩

end Schema

end TypedQuery
