-- SUMMARY: The members of the interface of a builder, and when their names are distinct.
import TypedQuery.Proofs.Artifact.Closed
import TypedQuery.Proofs.Builder.Accessors
import TypedQuery.Proofs.Schema.Words

/-!
# Members of interfaces

Next to the accessors of the fields, the interface of a builder has the accessor of the name of the type
and, if the type is polymorphic, the one that narrows it. These two have names that no schema chose. No
field is called like the first, which is reserved; but a field may be called `on`, like the second. That
is the only way in which two members can meet (`Catalog.members_distinct_iff`).
-/
namespace TypedQuery

open Writing

/-! ## Members as data -/

/-- The name under which the interface declares an accessor. -/
def Accessor.name : Accessor → String
  | property m => m.name
  | overload o => o.member.name
  | unselect field => "~" ++ field

/-- A member of the interface of a builder. -/
inductive InterfaceMember where
  /-- What narrows the type. -/
  | narrowing
  /-- The name of the type. -/
  | typeName
  | accessor (a : Accessor)
  deriving DecidableEq, Repr

namespace InterfaceMember

def name : InterfaceMember → String
  | narrowing => "on"
  | typeName => "__typename"
  | accessor a => a.name

/-- The blank line that comes before a group of members belongs to the group. -/
def script (b : Builder) (s : Settings) : InterfaceMember → List Op
  | narrowing => b.narrowingScript.tail
  | typeName => b.typeNameScript.tail
  | accessor a => a.script b.name s

/-- The two ways to call the accessor of a field, the one without arguments first. -/
def Overloads : InterfaceMember → InterfaceMember → Prop
  | accessor (.overload o), accessor (.overload o') =>
    o.member = o'.member ∧ o.arguments = none ∧ o'.arguments.isSome = true
  | _, _ => False

/-- Two members have different names, unless they are the ways to call one accessor. -/
def Apart (m m' : InterfaceMember) : Prop := m.name = m'.name → m.Overloads m'

/-- The name that stands at the beginning of a member, be it plain or quoted. -/
def nameAt : List Char → List Char
  | '"' :: quoted => quoted.takeWhile (· ≠ '"')
  | plain => plain.takeWhile Sdl.isNameChar

/-- The name that is declared by what a script writes first. -/
def declaredName? : List Op → Option String
  | .text t :: _ =>
    let shown := if "readonly ".toList <+: t.toList then t.toList.drop 9 else t.toList
    some (String.ofList (nameAt shown))
  | _ => none

end InterfaceMember

namespace Builder

/-- The members of the interface, in groups that a blank line comes before. -/
def memberGroups (b : Builder) : List (List InterfaceMember) :=
  (if b.isPolymorphic then [[.narrowing]] else []) ++ [.typeName] ::
    b.interface.map fun accessors => accessors.map .accessor

def members (b : Builder) : List InterfaceMember := b.memberGroups.flatten

def memberScript (b : Builder) (s : Settings) : List Op :=
  b.memberGroups.flatMap fun group => Op.text "\n" :: group.flatMap (·.script b s)

/-- The file, written from the members of its interface. -/
def interfaceScript (b : Builder) (s : Settings) : List Op :=
  [Op.text immutabilityComment,
    Op.text ("export interface " ++ b.name ++
      "<T extends object, TVariables extends object> extends ObjectFetcher<'" ++ b.typeName ++
      "', T, TVariables> "),
    Op.region .block true (b.memberScript s),
    Op.text "\n"] ++
    b.constantScript ++ b.entryScript s

variable {b : Builder} {s : Settings}

theorem memberScript_eq : b.memberScript s =
    (if b.isPolymorphic then b.narrowingScript else []) ++ b.typeNameScript ++
      b.interface.flatMap fun accessors => Op.text "\n" :: accessors.flatMap (·.script b.name s) := by
  unfold memberScript memberGroups
  cases b.isPolymorphic <;>
    simp [List.flatMap_map, InterfaceMember.script, narrowingScript, typeNameScript]

/-- The interface is what writing its members gives, and nothing else. -/
theorem code_eq_members : b.code = scripted fun s => b.interfaceScript s := by
  simp only [code_eq_declarations, declarationScript, interfaceScript, memberScript_eq]

theorem members_eq : b.members = (if b.isPolymorphic then [.narrowing] else []) ++ .typeName ::
    b.fields.flatMap fun p => (b.accessorsOf p.1 p.2).map .accessor := by
  unfold members memberGroups interface
  cases b.isPolymorphic <;> simp [List.flatMap_def, Function.comp_def]

theorem exists_field_of_member {a : Accessor} (h : .accessor a ∈ b.members) :
    ∃ p ∈ b.fields, a ∈ b.accessorsOf p.1 p.2 := by
  rw [members_eq] at h
  cases b.isPolymorphic <;> simpa using h

end Builder

/-! ## Names of members -/

namespace InterfaceMember

variable {b : Builder} {s : Settings} {t : String} {rest : List Op} {a : Accessor} {n : String}

/-- What comes after a name does not begin with a character of names. -/
theorem nameAt_append {cs after : List Char} (hname : ∀ c ∈ cs, Sdl.isNameChar c = true)
    (hne : cs ≠ []) (hafter : after.head?.all (!Sdl.isNameChar ·) = true) :
    nameAt (cs ++ after) = cs := by
  obtain ⟨first, others, rfl⟩ := List.exists_cons_of_ne_nil hne
  have hquote : first ≠ '"' := by
    rintro rfl
    exact absurd (hname _ List.mem_cons_self) (by decide)
  have hend : after.takeWhile Sdl.isNameChar = [] := by
    cases after with
    | nil => rfl
    | cons c _ => exact List.takeWhile_cons_of_neg (by simpa using hafter)
  rw [List.cons_append, nameAt]
  · rw [← List.cons_append, List.takeWhile_append_of_pos hname, hend, List.append_nil]
  · rintro _ ⟨⟩
    exact hquote rfl

theorem nameAt_quoted {cs after : List Char} (hquote : '"' ∉ cs) :
    nameAt ('"' :: cs ++ '"' :: after) = cs := by
  have hall : ∀ c ∈ cs, decide (c ≠ '"') = true := by
    rintro c hc
    rw [decide_eq_true_iff]
    rintro rfl
    exact hquote hc
  rw [List.cons_append, nameAt, List.takeWhile_append_of_pos hall]
  simp

/-- A member that begins with a name declares it. -/
theorem declaredName?_plain (after : List Char) (hn : Sdl.IsName n)
    (ht : t.toList = n.toList ++ after) (hafter : after.head?.all (!Sdl.isNameChar ·) = true)
    (hreadonly : ¬ "readonly ".toList <+: t.toList) : declaredName? (.text t :: rest) = some n := by
  rw [declaredName?, if_neg hreadonly, ht, nameAt_append hn.2 (by simpa using hn.1) hafter,
    String.ofList_toList]

theorem declaredName?_readonly {shown : List Char} (ht : t.toList = "readonly ".toList ++ shown) :
    declaredName? (.text t :: rest) = some (String.ofList (nameAt shown)) := by
  rw [declaredName?, if_pos (ht ▸ List.prefix_append _ _), ht]
  rfl

/-- So does a constant that has a name after the word for it. -/
theorem declaredName?_constant (after : List Char) (hn : Sdl.IsName n)
    (ht : t.toList = "readonly ".toList ++ (n.toList ++ after))
    (hafter : after.head?.all (!Sdl.isNameChar ·) = true) :
    declaredName? (.text t :: rest) = some n := by
  rw [declaredName?_readonly ht, nameAt_append hn.2 (by simpa using hn.1) hafter,
    String.ofList_toList]

theorem declaredName?_narrowing : declaredName? (narrowing.script b s) = some narrowing.name := by
  refine declaredName?_plain (("<XName extends ImplementationType<'" ++ b.typeName ++
    "'>, X extends object, XVariables extends object>").toList) (by decide) ?_ ?_ ?_
  · simp [name]
  · simp only [String.toList_append]
    rfl
  · simp

theorem declaredName?_typeName : declaredName? (typeName.script b s) = some typeName.name := by
  refine declaredName?_constant ((": " ++ b.name ++ "<T & \x7b__typename: " ++
    (if b.isPolymorphic then "ImplementationType<'" ++ b.typeName ++ "'>"
      else "'" ++ b.typeName ++ "'") ++ "\x7d, TVariables>;\n").toList) (by decide) ?_ ?_
  · simp [name]
  · simp only [String.toList_append]
    rfl

/-- The accessor of a field declares its own name. -/
theorem declaredName?_accessor (h : Sdl.IsName a.field) :
    declaredName? ((accessor a).script b s) = some a.name := by
  cases a with
  | property m =>
    refine declaredName?_constant ((": " ++ b.name ++ "<T & ").toList) h ?_ ?_
    · simp [Accessor.name]
    · simp only [String.toList_append]
      rfl
  | overload o =>
    have hreadonly : ¬ "readonly ".toList <+: o.member.name.toList := fun hbeginning =>
      absurd (h.2 ' ' (hbeginning.subset (by decide))) (by decide)
    exact declaredName?_plain [] h (List.append_nil _).symm rfl hreadonly
  | unselect field =>
    have ht : ("readonly \"~" ++ field ++ "\": " ++ b.name ++ "<Omit<T, '" ++ field ++
        "'>, TVariables>;\n").toList = "readonly ".toList ++ ('"' :: ("~" ++ field).toList ++
          '"' :: (": " ++ b.name ++ "<Omit<T, '" ++ field ++ "'>, TVariables>;\n").toList) := by
      simp [String.toList_append]
    have hquote : '"' ∉ ("~" ++ field).toList := by
      rw [String.toList_append, List.mem_append]
      rintro (hmem | hmem)
      · exact absurd hmem (by decide)
      · exact absurd (h.2 _ hmem) (by decide)
    rw [script, Accessor.script, declaredName?_readonly ht, nameAt_quoted hquote,
      String.ofList_toList]
    rfl

end InterfaceMember

namespace Accessor

variable {a a' : Accessor} {n n' : String}

theorem name_cases (a : Accessor) : a.name = a.field ∨ a.name = "~" ++ a.field := by
  cases a with
  | property | overload => exact .inl rfl
  | unselect => exact .inr rfl

/-- The mark of the accessors that take a field out is not part of a name. -/
theorem ne_mark_append (h : Sdl.IsName n) : n ≠ "~" ++ n' := by
  rintro rfl
  have hmem : '~' ∈ ("~" ++ n').toList := by simp
  exact absurd (h.2 _ hmem) (by decide)

/-- Accessors of the same name are for the same field. -/
theorem field_eq_of_name_eq (h : Sdl.IsName a.field) (h' : Sdl.IsName a'.field)
    (hname : a.name = a'.name) : a.field = a'.field := by
  rcases a.name_cases with ha | ha <;> rcases a'.name_cases with ha' | ha' <;>
    rw [ha, ha'] at hname
  · exact hname
  · exact absurd hname (ne_mark_append h)
  · exact absurd hname.symm (ne_mark_append h')
  · exact (String.append_right_inj "~").1 hname

end Accessor

/-! ## Members that are apart -/

namespace Builder

variable {b : Builder} {f : SelectableField} {d : FieldDef} {n : String}

/-- An accessor has a plain name if and only if a field has it. -/
theorem exists_accessor_iff (hn : Sdl.IsName n) :
    (∃ p ∈ b.fields, ∃ a ∈ b.accessorsOf p.1 p.2, a.name = n) ↔ n ∈ b.fields.map (·.1.name) := by
  rw [List.mem_map]
  refine exists_congr fun p => and_congr_right fun _ => ⟨?_, ?_⟩
  · rintro ⟨a, ha, rfl⟩
    rw [← field_of_mem ha]
    rcases a.name_cases with hname | hname
    · exact hname.symm
    · exact absurd hname (Accessor.ne_mark_append hn)
  · rintro rfl
    cases hfunction : p.1.isFunction with
    | false => exact ⟨_, property_mem_iff.2 ⟨hfunction, rfl⟩, rfl⟩
    | true =>
      obtain ⟨withArguments, hmem⟩ := exists_mem_overloads p.2
      exact ⟨_, overload_mem_iff.2 ⟨hfunction, withArguments, hmem, rfl⟩, rfl⟩

theorem pairwise_overloads : (overloads d).Pairwise fun w w' => w = false ∧ w' = true := by
  unfold overloads
  repeat' split
  all_goals decide

/-- The accessors of one field. -/
theorem pairwise_accessorsOf (hname : Sdl.IsName f.name) :
    (b.accessorsOf f d).Pairwise fun a a' => InterfaceMember.Apart (.accessor a) (.accessor a') := by
  refine List.pairwise_append.2 ⟨?_, List.pairwise_singleton _ _, fun a ha a' ha' heq => ?_⟩
  · split
    · refine List.pairwise_map.2 (pairwise_overloads.imp ?_)
      rintro _ _ ⟨rfl, rfl⟩ _
      exact ⟨rfl, rfl, rfl⟩
    · exact List.pairwise_singleton _ _
  · obtain rfl := List.mem_singleton.1 ha'
    have hselects : a.name = f.name := by
      split at ha
      · obtain ⟨_, _, rfl⟩ := List.mem_map.1 ha
        rfl
      · obtain rfl := List.mem_singleton.1 ha
        rfl
    exact absurd (hselects.symm.trans heq) (Accessor.ne_mark_append hname)

/-- The members are apart if and only if no field is called like one of those that are not for
fields. -/
theorem pairwise_members_iff (hnames : ∀ p ∈ b.fields, Sdl.IsName p.1.name)
    (hnodup : (b.fields.map (·.1.name)).Nodup) : b.members.Pairwise InterfaceMember.Apart ↔
      "__typename" ∉ b.fields.map (·.1.name) ∧
        (b.isPolymorphic = true → "on" ∉ b.fields.map (·.1.name)) := by
  -- The two members that are for no field meet an accessor if and only if some field has their
  -- name.
  have hfixed {m : InterfaceMember} (hm : ∀ m', ¬ m.Overloads m') (hname : Sdl.IsName m.name) :
      (∀ m' ∈ b.fields.flatMap fun p => (b.accessorsOf p.1 p.2).map .accessor, m.Apart m') ↔
        m.name ∉ b.fields.map (·.1.name) := by
    rw [← exists_accessor_iff hname]
    simp only [InterfaceMember.Apart, hm, imp_false, List.forall_mem_flatMap, List.forall_mem_map,
      not_exists, not_and]
    exact forall₄_congr fun _ _ _ _ => ne_comm
  -- Accessors of different fields have different names, whether there is a mark or not.
  have haccessors : (b.fields.flatMap fun p => (b.accessorsOf p.1 p.2).map .accessor).Pairwise
      InterfaceMember.Apart := by
    refine List.pairwise_flatMap.2 ⟨fun p hp => ?_, ?_⟩
    · exact List.pairwise_map.2 (pairwise_accessorsOf (hnames p hp))
    · refine (List.pairwise_map.1 hnodup).imp_of_mem fun {p q} hp hq hne => ?_
      simp only [List.forall_mem_map]
      intro a ha a' ha' heq
      have hfield := field_of_mem ha
      have hfield' := field_of_mem ha'
      refine absurd ?_ hne
      rw [← hfield, ← hfield']
      exact Accessor.field_eq_of_name_eq (hfield ▸ hnames p hp) (hfield' ▸ hnames q hq) heq
  have htypeName := hfixed (m := .typeName) (fun _ => id) (by decide)
  have hnarrowing := hfixed (m := .narrowing) (fun _ => id) (by decide)
  have hmeet : InterfaceMember.narrowing.Apart .typeName := fun heq => absurd heq (by decide)
  rw [members_eq]
  cases b.isPolymorphic with
  | false =>
    simp only [Bool.false_eq_true, if_false, List.nil_append, List.pairwise_cons, htypeName,
      haccessors, and_true, false_imp_iff]
    rfl
  | true =>
    simp only [if_true, List.singleton_append, List.pairwise_cons, List.forall_mem_cons, htypeName,
      hnarrowing, hmeet, haccessors, and_true, true_and, true_imp_iff]
    exact and_comm

end Builder

/-! ## Fields that are listed -/

namespace Outline

variable {o : Outline} {t : SelectableType} {d : FieldDef} {n : String}

/-- Where the search for a definition finds one, walking finds a field. -/
theorem exists_field_of_inheritedFrom {s : Schema} (h : inheritedFrom? s n t = some d) :
    ∃ f, t.field? n = some f := by
  induction t using SelectableType.induction_superTypes with
  | step t ih =>
    by_cases hdeclares : t.declares n
    · rw [SelectableType.field?_of_declares hdeclares]
      exact SelectableType.find?_of_declares hdeclares
    · rw [SelectableType.field?_of_not_declares hdeclares]
      have hunion := not_isUnion_of_inheritedFrom? h
      by_cases hknown : (s.get? t.name).isSome
      · rw [inheritedFrom?_of_isSome hknown hunion, if_neg hdeclares] at h
        obtain ⟨u, hu, hfound⟩ := List.exists_of_findSome?_eq_some h
        rw [← Option.isSome_iff_exists, List.findSome?_isSome_iff]
        exact ⟨u, hu, Option.isSome_iff_exists.2 (ih u hu hfound)⟩
      · cases t
        rw [inheritedFrom?, show s.get? _ = none from by simpa using hknown] at h
        cases h

/-- A type has a field of every name that it lists, however the schema is made. -/
theorem Modelled.exists_field_named (h : o.Modelled t) (hd : d ∈ o.schema.listedFields t.name) :
    ∃ f, t.field? d.name = some f := by
  by_cases hdeclares : t.declares d.name
  · rw [SelectableType.field?_of_declares hdeclares]
    exact SelectableType.find?_of_declares hdeclares
  · cases hown : isInherited o.schema t.superTypes d with
    | false =>
      obtain ⟨f, hf, hmodel⟩ := h.exists_declared hd hown
      refine absurd (List.any_eq_true.2 ⟨f, hf, ?_⟩) hdeclares
      simpa using name_of_fieldModel hmodel
    | true =>
      obtain ⟨u, hu, hfound⟩ := List.exists_of_findSome?_eq_some (isInherited_iff.1 hown)
      rw [SelectableType.field?_of_not_declares hdeclares, ← Option.isSome_iff_exists,
        List.findSome?_isSome_iff]
      exact ⟨u, hu, Option.isSome_iff_exists.2 (exists_field_of_inheritedFrom hfound)⟩

end Outline

namespace Schema

variable {s : Schema} {f : FieldDef} {name : String}

/-- The names of all fields that definitions have. -/
def fieldNames (s : Schema) : List String := s.types.flatMap fun d => d.fields.map (·.name)

theorem name_mem_fieldNames (hf : f ∈ s.listedFields name) : f.name ∈ s.fieldNames := by
  have hown {n : String} (hf : f ∈ s.ownFields n) : f.name ∈ s.fieldNames := by
    unfold ownFields at hf
    cases hget : s.get? n with
    | none => simp [hget] at hf
    | some d =>
      rw [hget] at hf
      exact List.mem_flatMap.2 ⟨d, (get?_eq_some_iff.1 hget).1, List.mem_map_of_mem hf⟩
  cases hunion : s.isUnion name with
  | false => exact hown (listedFields_of_not_isUnion hunion ▸ hf)
  | true =>
    obtain ⟨u, hget⟩ := isUnion_iff.1 hunion
    rw [listedFields_of_union hget, mem_sharedFields_iff] at hf
    obtain ⟨m, hm⟩ := List.exists_mem_of_ne_nil _ hf.1
    exact hown (hf.2 m hm)

end Schema

namespace Catalog

variable {c : Catalog} {s : Schema} {settings : Settings} {artifacts : List Artifact} {b : Builder}
  {name n : String}

/-- The builder has the fields that its type lists and the settings do not leave out. -/
theorem Builds.mem_names_iff (h : c.Builds name b) (hc : ofSchema s settings = .ok c) :
    n ∈ b.fields.map (·.1.name) ↔
      ∃ d ∈ s.listedFields name, d.name = n ∧ settings.excludes name n = false := by
  obtain ⟨rfl, hmodel⟩ := typeOf_of_type? hc h.type
  rw [List.mem_map]
  constructor
  · rintro ⟨p, hp, rfl⟩
    obtain ⟨hlisted, hname⟩ := h.listed p hp
    exact ⟨p.2, schema_eq hc ▸ hlisted, hname, settings_eq hc ▸ (h.mem_fields hp).2⟩
  · rintro ⟨d, hd, rfl, hkept⟩
    rw [← schema_eq hc] at hd
    obtain ⟨f, hfield⟩ := (Outline.typeOf_eq_ok hmodel).2.exists_field_named hd
    obtain ⟨hf, hname⟩ := SelectableType.field?_eq_some_iff.1 hfield
    have hmem : f ∈ b.fields.map (·.1) := by
      rw [h.fields, settings_eq hc]
      exact List.mem_filter.2 ⟨hf, by simpa [hname] using hkept⟩
    obtain ⟨p, hp, rfl⟩ := List.mem_map.1 hmem
    exact ⟨p, hp, hname⟩

/-- The members of the interface of every builder are apart, unless the type can be narrowed and lists
a field `on` that the settings do not leave out. The interface consists of these members, and each
begins with its name. -/
theorem members_distinct_iff (hs : s.Named) (hreserved : "__typename" ∉ s.fieldNames)
    (hc : ofSchema s settings = .ok c) (hartifacts : c.artifacts = .ok artifacts)
    (hb : .builder b ∈ artifacts) :
    (b.code = scripted fun settings => b.interfaceScript settings) ∧
      (∀ m ∈ b.members, ∀ settings,
        InterfaceMember.declaredName? (m.script b settings) = some m.name) ∧
      (b.members.Pairwise InterfaceMember.Apart ↔
        ¬ (b.isPolymorphic = true ∧ ∃ d ∈ s.listedFields b.typeName,
          d.name = "on" ∧ settings.excludes b.typeName "on" = false)) := by
  obtain ⟨_, _, hbuilder⟩ := typeName_mem_of_mem_artifacts hc hartifacts hb
  have hbuilds := builds_of_builder hbuilder
  have hnames : ∀ p ∈ b.fields, Sdl.IsName p.1.name := by
    intro p hp
    obtain ⟨hlisted, hname⟩ := hbuilds.listed p hp
    rw [schema_eq hc] at hlisted
    exact hname ▸ hs _ (Schema.listed_words_subset hlisted List.mem_cons_self)
  refine ⟨Builder.code_eq_members, fun m hm settings => ?_, ?_⟩
  · cases m with
    | narrowing => exact InterfaceMember.declaredName?_narrowing
    | typeName => exact InterfaceMember.declaredName?_typeName
    | accessor a =>
      obtain ⟨p, hp, ha⟩ := Builder.exists_field_of_member hm
      exact InterfaceMember.declaredName?_accessor (Builder.field_of_mem ha ▸ hnames p hp)
  · have htypeName : "__typename" ∉ b.fields.map (·.1.name) := by
      rw [hbuilds.mem_names_iff hc]
      rintro ⟨d, hd, hname, _⟩
      exact hreserved (hname ▸ Schema.name_mem_fieldNames hd)
    rw [Builder.pairwise_members_iff hnames hbuilds.nodup_names, and_iff_right htypeName,
      hbuilds.mem_names_iff hc, not_and]

/-! ## Lamps -/

/-- Whether a file is the one of the builder of a polymorphic type. -/
def isPolymorphicBuilder : Artifact → Bool
  | .builder b => b.isPolymorphic
  | .commonTypes _ | .enum _ | .input _ | .index _ => false

/-- Whether a file is the one of a builder whose type lists a field `on` that the settings do not leave
out. -/
def listsNarrowing (s : Schema) (settings : Settings) : Artifact → Bool
  | .builder b => (s.listedFields b.typeName).any fun d =>
      d.name = "on" && !settings.excludes b.typeName "on"
  | .commonTypes _ | .enum _ | .input _ | .index _ => false

/-- A schema with a field `on`, and one that can be called in two ways. -/
def lampText : String := "interface Device \x7b on: Boolean \x7d " ++
  "type Lamp implements Device \x7b on: Boolean dim(to: Int): Device \x7d"

/-- Settings that leave out the field `on` of the type that can be narrowed. -/
def unswitched : Settings := { excluded := Settings.addField ∅ "Device" "on" }

theorem members_distinct_lamp : ∃ s c artifacts, Schema.parse lampText = .ok s ∧ s.Named ∧
    "__typename" ∉ s.fieldNames ∧ ofSchema s unswitched = .ok c ∧ c.artifacts = .ok artifacts ∧
    (∃ b, .builder b ∈ artifacts ∧ b.isPolymorphic = true) ∧
    ∀ b, .builder b ∈ artifacts → b.members.Pairwise InterfaceMember.Apart := by
  obtain ⟨s, c, artifacts, hs, hc, hartifacts, hlisting⟩ :=
    exists_artifacts_of_map lampText unswitched
      (fun s a => (isPolymorphicBuilder a, listsNarrowing s unswitched a))
      [(false, false), (true, false), (false, true), (false, false), (false, false)] (by cbv)
  have hfields : (Schema.parse lampText).map Schema.fieldNames = .ok ["on", "on", "dim"] := by cbv
  rw [hs] at hfields
  have hreserved : "__typename" ∉ s.fieldNames := by
    rw [Except.ok.inj hfields]
    decide
  have hnamed := Schema.named_of_parse hs
  refine ⟨s, c, artifacts, hs, hnamed, hreserved, hc, hartifacts, ?_, fun b hb => ?_⟩
  · have hmem : (true, false) ∈ artifacts.map fun a =>
        (isPolymorphicBuilder a, listsNarrowing s unswitched a) := by
      rw [hlisting]
      decide
    obtain ⟨a, ha, hentry⟩ := List.mem_map.1 hmem
    cases a with
    | builder b => exact ⟨b, ha, (Prod.mk.inj hentry).1⟩
    | _ => cases hentry
  · refine (members_distinct_iff hnamed hreserved hc hartifacts hb).2.2.2 ?_
    have hapart : ∀ entry ∈ artifacts.map fun a =>
        (isPolymorphicBuilder a, listsNarrowing s unswitched a), (entry.1 && entry.2) = false := by
      rw [hlisting]
      decide
    have hentry := hapart _ (List.mem_map_of_mem hb)
    rintro ⟨hpolymorphic, d, hd, hname, hkept⟩
    have hlists : listsNarrowing s unswitched (.builder b) = true :=
      List.any_eq_true.2 ⟨d, hd, by simp [hname, hkept]⟩
    rw [isPolymorphicBuilder, hpolymorphic, hlists] at hentry
    cases hentry

/-- A schema with a field `on` of a type that can be narrowed. -/
def switchText : String := "interface Switch \x7b on: Boolean \x7d " ++
  "type Lamp implements Switch \x7b on: Boolean \x7d"

/-- The members of the interface in the file of a builder. -/
def builderMembers : Artifact → List InterfaceMember
  | .builder b => b.members
  | .commonTypes _ | .enum _ | .input _ | .index _ => []

/-- What narrows the type and the field are declared by the same name. -/
theorem not_distinct_members_switch : ∃ s c artifacts, Schema.parse switchText = .ok s ∧ s.Named ∧
    "__typename" ∉ s.fieldNames ∧ ofSchema s {} = .ok c ∧ c.artifacts = .ok artifacts ∧
    ∃ b, .builder b ∈ artifacts ∧ ¬ b.members.Pairwise InterfaceMember.Apart := by
  obtain ⟨s, c, artifacts, hs, hc, hartifacts, hlisting⟩ :=
    exists_artifacts_of_map switchText {} (fun _ a => builderMembers a)
      [[], [.narrowing, .typeName, .accessor (.property ⟨"on", true, .named "Boolean", none⟩),
          .accessor (.unselect "on")],
        [.typeName, .accessor (.property ⟨"on", true, .named "Boolean", none⟩),
          .accessor (.unselect "on")], [], []] (by cbv)
  have hfields : (Schema.parse switchText).map Schema.fieldNames = .ok ["on", "on"] := by cbv
  rw [hs] at hfields
  have hreserved : "__typename" ∉ s.fieldNames := by
    rw [Except.ok.inj hfields]
    decide
  have hmem : [.narrowing, .typeName, .accessor (.property ⟨"on", true, .named "Boolean", none⟩),
      .accessor (.unselect "on")] ∈ artifacts.map builderMembers := by
    rw [hlisting]
    decide
  obtain ⟨a, ha, hmembers⟩ := List.mem_map.1 hmem
  refine ⟨s, c, artifacts, hs, Schema.named_of_parse hs, hreserved, hc, hartifacts, ?_⟩
  cases a with
  | builder b =>
    have hlist : b.members = _ := hmembers
    refine ⟨b, ha, fun hapart => ?_⟩
    rw [hlist, List.pairwise_cons] at hapart
    exact hapart.1 (.accessor (.property ⟨"on", true, .named "Boolean", none⟩)) (by decide) rfl
  | _ => cases hmembers

end Catalog

end TypedQuery
