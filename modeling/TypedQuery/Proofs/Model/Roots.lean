-- SUMMARY: Which root operation types a schema has, and when it is refused for one of them.
import Mathlib
import TypedQuery.Proofs.Model.Failures
import TypedQuery.Proofs.Schema.Extensions
import TypedQuery.Proofs.Schema.Regular

/-!
# Roots

A schema has a root for every operation that the last schema definition of its document lists. An operation
that is not listed has the type with the usual name for its root, if there is such a type. That is so
whether there is a schema definition or not. `Catalog.refused_for_unlisted_iff` says when a schema is
refused because of a root that nothing lists.
-/
namespace TypedQuery

/-! ## Operations -/

/-- The operations of a service. -/
inductive Operation where
  | query | mutation | subscription
  deriving DecidableEq, Repr

/-- The name that the root of an operation usually has. -/
def Operation.usual : Operation → String
  | query => "Query"
  | mutation => "Mutation"
  | subscription => "Subscription"

namespace RootTypes

variable {r : RootTypes} {n : String}

/-- The root of an operation. -/
def root (r : RootTypes) : Operation → Option String
  | .query => r.query
  | .mutation => r.mutation
  | .subscription => r.subscription

theorem ext_root {other : RootTypes} (h : ∀ op, r.root op = other.root op) : r = other := by
  obtain ⟨query, mutation, subscription⟩ := r
  obtain ⟨_, _, _⟩ := other
  cases h .query
  cases h .mutation
  cases h .subscription
  rfl

theorem mem_names_iff : n ∈ r.names ↔ ∃ op, r.root op = some n := by
  have hnames : n ∈ r.names ↔ r.query = some n ∨ r.mutation = some n ∨ r.subscription = some n := by
    simp [names, eq_comm]
  rw [hnames]
  constructor
  · rintro (h | h | h)
    · exact ⟨.query, h⟩
    · exact ⟨.mutation, h⟩
    · exact ⟨.subscription, h⟩
  · rintro ⟨_ | _ | _, h⟩
    · exact .inl h
    · exact .inr (.inl h)
    · exact .inr (.inr h)

end RootTypes

/-! ## Documents -/

namespace Sdl.Document

variable {doc : Document} {r : RootTypes}

/-- The last schema definition of the document has these roots. -/
def Lists (doc : Document) (r : RootTypes) : Prop :=
  ∃ before after, doc.definitions = before ++ .schema r :: after ∧ ∀ other, .schema other ∉ after

theorem filterMap_roots?_eq_nil {definitions : List Definition}
    (h : ∀ r, .schema r ∉ definitions) : definitions.filterMap Definition.roots? = [] := by
  rw [List.filterMap_eq_nil_iff]
  intro d hd
  cases d with
  | schema r => exact absurd hd (h r)
  | type _ | extension _ | directive _ => rfl

theorem Lists.roots (h : doc.Lists r) : doc.roots = r := by
  obtain ⟨before, after, hdefinitions, hafter⟩ := h
  rw [roots_eq, hdefinitions, List.filterMap_append, List.filterMap_cons, Definition.roots?]
  simp [filterMap_roots?_eq_nil hafter]

theorem roots_of_none (h : ∀ r, .schema r ∉ doc.definitions) : doc.roots = .unset := by
  rw [roots_eq, filterMap_roots?_eq_nil h]
  rfl

end Sdl.Document

/-! ## Schemas -/

namespace Schema

variable {doc : Sdl.Document} {s : Schema} {r : RootTypes} {op : Operation} {n : String}

/-- The root of an operation is the one that is listed, or else the type with the usual name. -/
theorem root_of_ofDocument (h : ofDocument doc = .ok s) (op : Operation) :
    s.roots.root op = (doc.roots.root op).or (if op.usual ∈ s.names then some op.usual else none) := by
  rw [(ofDocument_eq_ok_iff.1 h).2]
  cases op <;> exact Option.or_eq_orElse.symm

/-- A root is listed, or it is a type with the usual name of an operation that is not. -/
theorem listed_or_usual (h : ofDocument doc = .ok s) (hroot : s.roots.root op = some n) :
    doc.roots.root op = some n ∨ doc.roots.root op = none ∧ n = op.usual ∧ n ∈ s.names := by
  rw [root_of_ofDocument h] at hroot
  cases hlisted : doc.roots.root op with
  | some listed =>
    rw [hlisted] at hroot
    exact .inl hroot
  | none =>
    rw [hlisted, Option.none_or] at hroot
    split at hroot
    · next hmem =>
      cases hroot
      exact .inr ⟨rfl, rfl, hmem⟩
    · cases hroot

/-- The roots are those that are listed if and only if no operation without one has a type of the usual
name. -/
theorem roots_eq_iff (h : ofDocument doc = .ok s) :
    s.roots = doc.roots ↔ ∀ op, doc.roots.root op = none → op.usual ∉ s.names := by
  constructor
  · intro hsame op hnone husual
    have hroot := root_of_ofDocument h op
    rw [hsame, hnone, if_pos husual] at hroot
    cases hroot
  · intro hunused
    refine RootTypes.ext_root fun op => ?_
    rw [root_of_ofDocument h]
    cases hroot : doc.roots.root op with
    | some n => rfl
    | none => rw [if_neg (hunused op hroot), Option.or_none]

theorem mem_names_iff : n ∈ s.names ↔ ∃ d, s.get? n = some d := by
  simp only [names, List.mem_map, get?_eq_some_iff]

/-- All roots are objects. -/
theorem checkRoots_eq_ok_iff : s.checkRoots = .ok () ↔
    ∀ op n, s.roots.root op = some n → ∃ d, s.get? n = some (.object d) := by
  unfold checkRoots
  rw [forM_eq_ok_iff]
  constructor
  · intro h op n hop
    have hroot := h n (RootTypes.mem_names_iff.2 ⟨op, hop⟩)
    split at hroot
    · next d hd => exact ⟨d, hd⟩
    · cases hroot
    · cases hroot
  · intro h n hmem
    obtain ⟨op, hop⟩ := RootTypes.mem_names_iff.1 hmem
    obtain ⟨d, hd⟩ := h op n hop
    rw [hd]

/-- The roots are refused for one that is of another kind, or that is not defined. -/
theorem of_checkRoots_eq_error {failure : Error} (h : s.checkRoots = .error failure) :
    ∃ op n, s.roots.root op = some n ∧
      ((∃ d, s.get? n = some d ∧ d.kind ≠ .object ∧
          failure = .invalidType n (.rootNotObject d.kind)) ∨
        s.get? n = none ∧ failure = .unknownType n .schemaDefinition) := by
  obtain ⟨n, hmem, hfailure⟩ := exists_of_forM_eq_error h
  obtain ⟨op, hop⟩ := RootTypes.mem_names_iff.1 hmem
  refine ⟨op, n, hop, ?_⟩
  split at hfailure
  · cases hfailure
  · next d hnot hd =>
    cases hfailure
    refine .inl ⟨d, hd, ?_, rfl⟩
    intro hkind
    cases d with
    | object d => exact hnot d rfl
    | _ => cases hkind
  · next hnone =>
    cases hfailure
    exact .inr ⟨hnone, rfl⟩

end Schema

/-- The failure is that a root is no object. -/
def Error.BlamesRoot (failure : Error) : Prop :=
  ∃ root found, failure = .invalidType root (.rootNotObject found)

namespace Catalog

variable {doc : Sdl.Document} {s : Schema} {settings : Settings} {r : RootTypes} {n : String}
  {failure : Error}

/-- A schema is refused for a root only by the check of its roots. -/
theorem checkRoots_of_blamesRoot (h : ofSchema s settings = .error failure)
    (hroot : failure.BlamesRoot) : s.checkRoots = .error failure := by
  rcases of_ofSchema_eq_error h with hinvalid | hroots | ⟨name, _, hmodel⟩
  · have hsettings : OnlyFails (fun failure => ¬ failure.BlamesRoot) settings.validate := by
      apply Settings.onlyFails_validate
      rintro _ ⟨_, _, ⟨⟩⟩
    exact absurd hroot (hsettings failure hinvalid)
  · exact hroots
  · have htypes : OnlyFails (fun failure => ¬ failure.BlamesRoot)
        ((Outline.ofSchema s settings).typeOf name) := by
      apply Outline.onlyFails_typeOf
      · rintro _ _ ⟨_, _, ⟨⟩⟩
      · intro _ _ _ _ _
        apply SelectableType.onlyFails_make?
        rintro _ hother ⟨_, found, ⟨⟩⟩
        exact hother found rfl
    exact absurd hroot (htypes failure hmodel)

theorem ofSchema_of_checkRoots (hsettings : settings.validate = .ok ())
    (h : s.checkRoots = .error failure) : ofSchema s settings = .error failure := by
  unfold ofSchema
  rw [hsettings, h]
  rfl

/-- If a schema is refused because a type is no object, then the last schema definition lists that type as a
root, or it does not list the root of an operation and the type has the usual name of that. -/
theorem listed_or_usual_of_refused (hs : Schema.ofDocument doc = .ok s) {kind : TypeKind}
    (h : ofSchema s settings = .error (.invalidType n (.rootNotObject kind))) :
    ∃ op d, (doc.roots.root op = some n ∨ doc.roots.root op = none ∧ n = op.usual) ∧
      s.get? n = some d ∧ d.kind = kind ∧ kind ≠ .object := by
  -- Types are checked after the roots, and what they can be refused for is something else.
  have hroots := checkRoots_of_blamesRoot h ⟨n, kind, rfl⟩
  obtain ⟨op, root, hroot, ⟨d, hd, hkind, hfailure⟩ | ⟨_, hfailure⟩⟩ :=
    Schema.of_checkRoots_eq_error hroots
  · cases hfailure
    refine ⟨op, d, ?_, hd, rfl, hkind⟩
    exact (Schema.listed_or_usual hs hroot).imp_right fun ⟨hnone, husual, _⟩ => ⟨hnone, husual⟩
  · cases hfailure

/-- If all listed roots are objects, then a schema is refused because some type is none if and only if an
operation without a root has a type of its usual name that is no object. -/
theorem refused_iff_usual (hs : Schema.ofDocument doc = .ok s) (hsettings : settings.validate = .ok ())
    (hlisted : ∀ op n, doc.roots.root op = some n → ∃ d, s.get? n = some (.object d)) :
    (∃ n kind, ofSchema s settings = .error (.invalidType n (.rootNotObject kind))) ↔
      ∃ op d, doc.roots.root op = none ∧ s.get? op.usual = some d ∧ d.kind ≠ .object := by
  constructor
  · rintro ⟨n, kind, h⟩
    obtain ⟨op, d, hop | ⟨hop, rfl⟩, hd, rfl, hkind⟩ := listed_or_usual_of_refused hs h
    · obtain ⟨object, hobject⟩ := hlisted op n hop
      rw [hobject] at hd
      cases hd
      exact absurd rfl hkind
    · exact ⟨op, d, hop, hd, hkind⟩
  · rintro ⟨op, d, hop, hd, hkind⟩
    have hdefined : op.usual ∈ s.names := Schema.mem_names_iff.2 ⟨d, hd⟩
    have hroot : s.roots.root op = some op.usual := by
      rw [Schema.root_of_ofDocument hs, hop, Option.none_or, if_pos hdefined]
    cases hcheck : s.checkRoots with
    | ok _ =>
      obtain ⟨object, hobject⟩ := Schema.checkRoots_eq_ok_iff.1 hcheck op _ hroot
      rw [hobject] at hd
      cases hd
      exact absurd rfl hkind
    | error failure =>
      obtain ⟨other, n, hother, ⟨e, he, hno, rfl⟩ | ⟨hnone, _⟩⟩ :=
        Schema.of_checkRoots_eq_error hcheck
      · exact ⟨n, e.kind, ofSchema_of_checkRoots hsettings hcheck⟩
      · -- Roots that are not defined are listed, and those are objects.
        obtain ⟨e, he⟩ : ∃ e, s.get? n = some e := by
          rcases Schema.listed_or_usual hs hother with hlist | ⟨_, _, hmem⟩
          · obtain ⟨object, hobject⟩ := hlisted other n hlist
            exact ⟨_, hobject⟩
          · exact Schema.mem_names_iff.1 hmem
        rw [he] at hnone
        cases hnone

/-- The roots that a schema has from its document, and the schemas that are refused for one of them. A
schema without a schema definition has the types with the usual names for its roots. With one, it has
the listed roots and, for each operation that is left out, again the type with the usual name. So it has
just the listed roots if and only if no operation that is left out has a type of its usual name. Such a
type is then the only one that is not listed and that a schema can be refused for. It is refused for one
if all listed roots are objects and some such type is none. -/
theorem refused_for_unlisted_iff (doc : Sdl.Document) (s : Schema) (settings : Settings)
    (hs : Schema.ofDocument doc = .ok s) :
    ((∀ r, .schema r ∉ doc.definitions) →
      ∀ op, s.roots.root op = if op.usual ∈ s.names then some op.usual else none) ∧
    ∀ r, doc.Lists r →
      (∀ op, s.roots.root op =
        (r.root op).or (if op.usual ∈ s.names then some op.usual else none)) ∧
      (s.roots = r ↔ ∀ op, r.root op = none → op.usual ∉ s.names) ∧
      (∀ n kind, ofSchema s settings = .error (.invalidType n (.rootNotObject kind)) →
        ∃ op d, (r.root op = some n ∨ r.root op = none ∧ n = op.usual) ∧
          s.get? n = some d ∧ d.kind = kind ∧ kind ≠ .object) ∧
      (settings.validate = .ok () →
        (∀ op n, r.root op = some n → ∃ d, s.get? n = some (.object d)) →
        ((∃ n kind, ofSchema s settings = .error (.invalidType n (.rootNotObject kind))) ↔
          ∃ op d, r.root op = none ∧ s.get? op.usual = some d ∧ d.kind ≠ .object)) := by
  constructor
  · intro hnone op
    rw [Schema.root_of_ofDocument hs, Sdl.Document.roots_of_none hnone]
    cases op <;> exact Option.none_or
  · intro r hlists
    obtain rfl := hlists.roots
    refine ⟨Schema.root_of_ofDocument hs, Schema.roots_eq_iff hs, ?_, ?_⟩
    · intro n kind h
      exact listed_or_usual_of_refused hs h
    · intro hsettings hlisted
      exact refused_iff_usual hs hsettings hlisted

/-- An election whose only root is listed, and an enum of the choices that there are. -/
def election (choices : String) : Sdl.Document where
  definitions := [
    .schema ⟨some "Election", none, none⟩,
    .type (.object ⟨"Election", [], [⟨"closed", .named "Boolean", []⟩]⟩),
    .type (.enum ⟨choices, ["YES", "NO"]⟩)]

theorem lists_election {choices : String} : (election choices).Lists ⟨some "Election", none, none⟩ :=
  ⟨[], _, rfl, by simp⟩

/-- An election with the usual name for its root. -/
def unlisted : Sdl.Document where
  definitions := [.type (.object ⟨"Query", [], [⟨"closed", .named "Boolean", []⟩]⟩)]

theorem refused_for_unlisted_iff_election :
    (∃ s, Schema.ofDocument (election "Choice") = .ok s ∧ s.roots = ⟨some "Election", none, none⟩ ∧
      ¬ ∃ n kind, ofSchema s {} = .error (.invalidType n (.rootNotObject kind))) ∧
    ∃ s, Schema.ofDocument unlisted = .ok s ∧ s.roots.root .query = some "Query" := by
  obtain ⟨s, hs⟩ : ∃ s, Schema.ofDocument (election "Choice") = .ok s := exists_of_isOk (by cbv)
  obtain ⟨t, ht⟩ : ∃ t, Schema.ofDocument unlisted = .ok t := exists_of_isOk (by cbv)
  have hfacts : (Schema.ofDocument (election "Choice")).map (fun s => (s.names, s.get? "Election")) =
      .ok (["Election", "Choice"] ++ builtinScalars,
        some (.object ⟨"Election", [], [⟨"closed", .named "Boolean", []⟩]⟩)) := by cbv
  have hquery : (Schema.ofDocument unlisted).map (·.names) = .ok ("Query" :: builtinScalars) := by cbv
  rw [hs] at hfacts
  rw [ht] at hquery
  obtain ⟨hnames, hroot⟩ := Prod.mk.inj (Except.ok.inj hfacts)
  have hunused (op : Operation) : op.usual ∉ s.names := by
    rw [hnames]
    cases op <;> decide
  obtain ⟨_, hroots, _, hrefused⟩ := (refused_for_unlisted_iff _ s {} hs).2 _ lists_election
  refine ⟨⟨s, hs, hroots.2 fun op _ => hunused op, ?_⟩, t, ht, ?_⟩
  · rw [hrefused (by cbv) ?_]
    · rintro ⟨op, d, _, hd, _⟩
      exact hunused op (Schema.mem_names_iff.2 ⟨d, hd⟩)
    · rintro (_ | _ | _) n hn
      · cases hn
        exact ⟨_, hroot⟩
      · cases hn
      · cases hn
  · rw [(refused_for_unlisted_iff _ t {} ht).1 (by simp [unlisted])]
    rw [show t.names = _ from Except.ok.inj hquery]
    exact if_pos List.mem_cons_self

/-- The choices of this election are taken for the root of its mutations, which it does not have. -/
theorem refuses_election :
    Sdl.Document.parse "schema \x7b query: Election \x7d type Election \x7b closed: Boolean \x7d
      enum Mutation \x7b YES NO \x7d" = .ok (election "Mutation") ∧
    (election "Mutation").Lists ⟨some "Election", none, none⟩ ∧
    (Schema.ofDocument (election "Mutation")).map (·.roots) =
      .ok ⟨some "Election", some "Mutation", none⟩ ∧
    (Schema.ofDocument (election "Mutation") >>= (ofSchema · {})) =
      .error (.invalidType "Mutation" (.rootNotObject .enum)) := by
  refine ⟨by cbv, lists_election, by cbv, by cbv⟩

end Catalog

end TypedQuery
