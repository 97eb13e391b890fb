-- SUMMARY: What is made of a schema is made of its words.
import TypedQuery.Proofs.Model.Inheritance
import TypedQuery.Proofs.Schema.Connections
import TypedQuery.Proofs.Sdl.Names

/-!
# Words of a schema

The lineage and the connections of a schema, and the fields that its types list, are made of words
of the schema, and so are the models of its types.
-/
namespace TypedQuery

/-! ## Names in graphs -/

namespace NameGraph

variable {g : NameGraph} {P : String → Prop} {a b : String}

/-- All names in a graph have a property, those with targets and the targets. -/
def Over (g : NameGraph) (P : String → Prop) : Prop :=
  ∀ a names, g.get? a = some names → P a ∧ ∀ b ∈ names, P b

theorem over_empty : (∅ : NameGraph).Over P := nofun

theorem Over.mono {Q : String → Prop} (h : g.Over P) (hsub : ∀ n, P n → Q n) : g.Over Q :=
  fun a names hget => ⟨hsub a (h a names hget).1, fun b hb => hsub b ((h a names hget).2 b hb)⟩

theorem Over.addEdge (h : g.Over P) (ha : P a) (hb : P b) : (g.addEdge a b).Over P := by
  intro name names hget
  rw [NameGraph.addEdge, NameMap.get?_update] at hget
  split at hget
  · next hname =>
    cases hget
    refine ⟨hname ▸ ha, fun target htarget => ?_⟩
    rcases NameSet.mem_insert.1 htarget with rfl | htarget
    · exact hb
    · cases hold : g.get? a with
      | none => simp [hold] at htarget
      | some old =>
        rw [hold, Option.getD_some] at htarget
        exact (h a old hold).2 target htarget
  · exact h name names hget

theorem Over.addEdges {ends : List (String × String)} (h : g.Over P)
    (hends : ∀ e ∈ ends, P e.1 ∧ P e.2) :
    (ends.foldl (fun g (source, target) => NameGraph.addEdge g source target) g).Over P := by
  induction ends generalizing g with
  | nil => exact h
  | cons e rest ih =>
    obtain ⟨⟨hsource, htarget⟩, hrest⟩ := List.forall_mem_cons.1 hends
    exact ih (h.addEdge hsource htarget) hrest

theorem Over.reduce (h : g.Over P) : g.reduce.Over P := by
  intro name names hget
  rw [NameGraph.reduce, NameMap.get?_mapEntries] at hget
  obtain ⟨all, hall, rfl⟩ := Option.map_eq_some_iff.1 hget
  obtain ⟨hname, htargets⟩ := h name all hall
  exact ⟨hname, fun b hb => htargets b (NameSet.mem_filter.1 hb).1⟩

theorem Over.inverse (h : g.Over P) : g.inverse.Over P := by
  -- One edge is added for each target of each entry. The invariant is that all names in what has
  -- been turned so far have the property.
  have hentries (entries : List (String × NameSet)) (turned : NameGraph) (hturned : turned.Over P)
      (h : ∀ e ∈ entries, P e.1 ∧ ∀ b ∈ e.2, P b) : (entries.foldl
        (fun turned e =>
          e.2.toList.foldl (fun turned target => NameGraph.addEdge turned target e.1) turned)
        turned).Over P := by
    induction entries generalizing turned with
    | nil => exact hturned
    | cons e rest ih =>
      obtain ⟨hsource, htargets⟩ := h e List.mem_cons_self
      refine ih _ ?_ fun other hother => h other (List.mem_cons_of_mem _ hother)
      have hends : ∀ turn ∈ e.2.toList.map (·, e.1), P turn.1 ∧ P turn.2 := by
        simpa using fun b hb => ⟨htargets b hb, hsource⟩
      have hfold := hturned.addEdges hends
      rwa [List.foldl_map] at hfold
  exact hentries _ _ over_empty fun e he => h e.1 e.2 (NameMap.get?_eq_some_iff.2 he)

theorem Over.of_path (h : g.Over P) (hpath : g.Path a b) : P b := by
  have hedge {a b : String} (hedge : g.Edge a b) : P b := by
    obtain ⟨names, hget, hb⟩ := edge_iff.1 hedge
    exact (h a names hget).2 b hb
  cases hpath with
  | single hlast => exact hedge hlast
  | tail _ hlast => exact hedge hlast

end NameGraph

/-! ## Where words turn up -/

namespace Schema

variable {s : Schema} {name : String} {d : TypeDef} {f : FieldDef} {k : Connection}

theorem words_subset (h : s.get? name = some d) : d.words ⊆ s.words := fun _ hw =>
  List.mem_flatMap.2 ⟨d, (get?_eq_some_iff.1 h).1, hw⟩

theorem name_mem_words (h : s.get? name = some d) : name ∈ s.words :=
  words_subset h ((get?_eq_some_iff.1 h).2 ▸ TypeDef.name_mem_words)

theorem field_words_subset (h : s.get? name = some d) (hf : f ∈ d.fields) : f.words ⊆ s.words := by
  refine fun w hw => words_subset h ?_
  cases d with
  | object e | interface e =>
    exact List.mem_append_right _ (List.mem_flatMap.2 ⟨f, hf, hw⟩)
  | _ => cases hf

/-- The fields that a type lists are those of some definition. -/
theorem listed_words_subset (hf : f ∈ s.listedFields name) : f.words ⊆ s.words := by
  have hown {n : String} (hf : f ∈ s.ownFields n) : f.words ⊆ s.words := by
    unfold ownFields at hf
    cases hget : s.get? n with
    | none => simp [hget] at hf
    | some d =>
      rw [hget] at hf
      exact field_words_subset hget hf
  cases hunion : s.isUnion name with
  | false =>
    rw [listedFields_of_not_isUnion hunion] at hf
    exact hown hf
  | true =>
    obtain ⟨u, hget⟩ := isUnion_iff.1 hunion
    cases hmembers : u.members with
    | nil => simp [listedFields, hget, hmembers] at hf
    | cons first others =>
      exact hown (mem_ownFields_of_union hget hf (hmembers ▸ List.mem_cons_self))

theorem over_rawEdges : (Lineage.rawEdges s).Over (· ∈ s.words) := by
  refine NameGraph.over_empty.addEdges fun e he => ?_
  obtain ⟨d, hd, he⟩ := List.mem_flatMap.1 he
  have hget : s.get? d.name = some d := get?_eq_some_iff.2 ⟨hd, rfl⟩
  have hname := name_mem_words hget
  cases d with
  | object o | interface o =>
    obtain ⟨i, hi, rfl⟩ := List.mem_map.1 he
    exact ⟨words_subset hget (List.mem_append_left _ (List.mem_cons_of_mem _ hi)), hname⟩
  | union u =>
    obtain ⟨m, hm, rfl⟩ := List.mem_map.1 he
    exact ⟨hname, words_subset hget (List.mem_cons_of_mem _ hm)⟩
  | _ => cases he

/-- The casts of a lineage lead from words to words. -/
theorem over_casts : (Lineage.ofSchema s).downcasts.Over (· ∈ s.words) ∧
    (Lineage.ofSchema s).upcasts.Over (· ∈ s.words) :=
  ⟨over_rawEdges.reduce, over_rawEdges.reduce.inverse⟩

theorem descendants_subset (h : name ∈ (Lineage.ofSchema s).descendants n) : name ∈ s.words :=
  over_casts.1.of_path (NameGraph.mem_reachable.1 h)

theorem connection_words (h : k ∈ s.connections) :
    k.type ∈ s.words ∧ k.edge ∈ s.words ∧ k.node ∈ s.words := by
  obtain ⟨d, e, edges, node, cursor, hk⟩ := exists_paginates h
  refine ⟨name_mem_words hk.type_eq, name_mem_words hk.edge_eq, ?_⟩
  rw [← hk.node_base]
  have hnode : node ∈ (TypeDef.object e).fields := List.mem_of_find?_eq_some hk.node_eq
  exact field_words_subset hk.edge_eq hnode (List.mem_cons_of_mem _ List.mem_cons_self)

end Schema

/-! ## Models -/

/-- The names in a modelled field have a property, and so have those under the types of its
arguments. -/
structure SelectableField.Over (f : SelectableField) (P : String → Prop) : Prop where
  name : P f.name
  arguments : ∀ a ∈ f.arguments, P a.1 ∧ ∃ type : TypeRef, P type.base ∧ a.2 = type.spelling
  connection : ∀ n, f.connection = some n → P n
  edge : ∀ n, f.edge = some n → P n
  target : ∀ n, f.target = some n → P n

namespace SelectableField

variable {f : SelectableField} {P : String → Prop}

theorem mem_putArgument {arguments : List (String × String)} {a new : String × String}
    (h : a ∈ putArgument arguments new) : a ∈ arguments ∨ a = new := by
  induction arguments with
  | nil => exact .inr (List.mem_singleton.1 h)
  | cons first rest ih =>
    rw [putArgument] at h
    split at h
    · rcases List.mem_cons.1 h with rfl | h
      · exact .inr rfl
      · exact .inl (List.mem_cons_of_mem _ h)
    · rcases List.mem_cons.1 h with rfl | h
      · exact .inl List.mem_cons_self
      · exact (ih h).imp_left (List.mem_cons_of_mem _)

theorem Over.withArgument (h : f.Over P) {name : String} {type : TypeRef} (hname : P name)
    (htype : P type.base) : (f.withArgument name type.spelling).Over P := by
  refine ⟨h.name, fun a ha => ?_, h.connection, h.edge, h.target⟩
  rcases mem_putArgument ha with ha | rfl
  · exact h.arguments a ha
  · exact ⟨hname, type, htype, rfl⟩

theorem Over.withArguments {arguments : List InputValue} (h : f.Over P)
    (harguments : ∀ a ∈ arguments, ∀ w ∈ a.words, P w) :
    (arguments.foldl (fun m a => m.withArgument a.name a.type.spelling) f).Over P := by
  induction arguments generalizing f with
  | nil => exact h
  | cons a rest ih =>
    obtain ⟨ha, hrest⟩ := List.forall_mem_cons.1 harguments
    obtain ⟨hname, htype⟩ := List.forall_mem_cons.1 ha
    exact ih (h.withArgument hname (List.forall_mem_singleton.1 htype)) hrest

end SelectableField

namespace Outline

variable {o : Outline} {t u : SelectableType} {d : FieldDef} {f : SelectableField} {name : String}

/-- The model of a field is made of the words of the field and of connections. -/
theorem over_fieldModel (ho : o.connections = o.schema.connections) (hd : d.words ⊆ o.schema.words)
    (h : o.fieldModel name d = .ok f) : f.Over (· ∈ o.schema.words) := by
  obtain ⟨target, _, _, rfl⟩ := fieldModel_eq_ok_iff.1 h
  obtain ⟨hname, hd⟩ := List.forall_mem_cons.1 hd
  obtain ⟨hbase, harguments⟩ := List.forall_mem_cons.1 hd
  have hcalled (plain : SelectableField) (h : plain.Over (· ∈ o.schema.words)) :
      ({ d.arguments.foldl (fun m a => m.withArgument a.name a.type.spelling) plain with
        undefinable := d.type.isNullable } : SelectableField).Over (· ∈ o.schema.words) := by
    have hall := h.withArguments (List.forall_mem_flatMap.1 harguments)
    exact ⟨hall.name, hall.arguments, hall.connection, hall.edge, hall.target⟩
  refine hcalled _ ?_
  cases hconnection : o.connection? d.type.base with
  | some k =>
    have hmem : k ∈ o.schema.connections := ho ▸ List.mem_of_find?_eq_some hconnection
    obtain ⟨_, hedge, hnode⟩ := Schema.connection_words hmem
    refine ⟨hname, nofun, ?_, ?_, ?_⟩ <;> rintro n ⟨⟩ <;> assumption
  | none =>
    dsimp only
    split
    · refine ⟨hname, nofun, nofun, nofun, ?_⟩
      rintro n ⟨⟩
      exact hbase
    · split <;> exact ⟨hname, nofun, nofun, nofun, nofun⟩

theorem Modelled.over_of_declared (h : o.Modelled t) (ho : o.connections = o.schema.connections)
    (hf : f ∈ t.declared) : f.Over (· ∈ o.schema.words) := by
  obtain ⟨d, hd, hmodel⟩ := exists_of_mem_right h.declared hf
  exact over_fieldModel ho (Schema.listed_words_subset (List.mem_filter.1 hd).1) hmodel

theorem over_of_mem_fields (h : o.typeOf t.name = .ok t) (ho : o.connections = o.schema.connections)
    (hf : f ∈ t.fields) : f.Over (· ∈ o.schema.words) := by
  have hfound := SelectableType.field?_eq_some_iff.2 ⟨hf, rfl⟩
  rw [SelectableType.field?_eq] at hfound
  obtain ⟨u, hu, hf⟩ := List.mem_flatMap.1 (List.mem_of_find?_eq_some hfound)
  exact (typeOf_eq_ok (typeOf_of_mem_family h hu)).2.over_of_declared ho hf

end Outline

end TypedQuery
