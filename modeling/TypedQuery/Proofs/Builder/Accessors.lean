-- SUMMARY: What the file of a builder declares, and how that follows from the fields of its type.
import TypedQuery.Proofs.Artifact.Scripts
import TypedQuery.Proofs.Builder.Fields
import TypedQuery.Proofs.Model.Pagination

/-!
# Accessors of builders

The file of a builder declares accessors for the fields of its type, an interface of arguments, and a
default builder. Here these declarations are data: `Builder.code_eq_declarations` says that the file is
what writing them gives. What is declared for a field is decided partly by its model and partly by its
definition. `Catalog.declares_of_listed` says that the definition alone tells all of it.
-/
namespace TypedQuery

open Writing

/-! ## Declarations -/

/-- A member of an object type. -/
structure Member where
  name : String
  optional : Bool
  type : TypeRef
  /-- What stands for a composite type. -/
  standIn : Option String := none
  deriving DecidableEq, Repr

/-- A way to call an accessor. -/
structure Overload where
  /-- The interface and the entry of it that the arguments come from, if there are any. -/
  arguments : Option (String × String)
  /-- The types of builders that can be passed, if one has to be. -/
  child : Option (List String)
  /-- The selection and the variables of another builder are type parameters, and the variables are
  added to those of the result. -/
  threads : Bool
  /-- What the call adds to the selection. -/
  member : Member
  deriving DecidableEq, Repr

/-- What the interface of a builder declares for a field. -/
inductive Accessor where
  | property (member : Member)
  | overload (o : Overload)
  | unselect (field : String)
  deriving DecidableEq, Repr

namespace Member

/-- A member with its name as it is shown. -/
def script (m : Member) (s : Settings) (shown : String) : List Op :=
  [Op.text (readonlyWord s), Op.text shown] ++ (if m.optional then [Op.text "?"] else []) ++
    [Op.text ": ", Op.typeRef m.type m.standIn]

/-- An object type with a single member. -/
def selectionScript (m : Member) (s : Settings) : List Op :=
  Op.text "\x7b" :: m.script s ("\"" ++ m.name ++ "\"") ++ [Op.text "\x7d"]

/-- An argument as a member. -/
def ofArgument (a : InputValue) : Member := ⟨a.name, a.type.isNullable, a.type, none⟩

theorem property_eq {name : String} {type : TypeRef} {standIn : Option String} :
    property name type standIn =
      scripted fun s => script ⟨name, type.isNullable, type, standIn⟩ s name := by
  simp [-property_scripted, property, script, ↓settings_scripted readonlyWord, ite_append]

end Member

namespace Overload

def typeParameters (o : Overload) : List String :=
  o.arguments.toList.map (fun a => "XArgs extends " ++ a.1 ++ "['" ++ a.2 ++ "']") ++
    if o.threads then ["X extends object", "XVariables extends object"] else []

/-- The parameter for a builder of one of some types. -/
def childScript (types : List String) : List Op :=
  [Op.separator none, Op.text "child: ", Op.text "ObjectFetcher",
    Op.region .generic false
      [Op.separator none,
        Op.region .blank false (types.flatMap fun type =>
          [Op.separator (some " | "), Op.literal type]),
        Op.separator none, Op.text "X", Op.separator none, Op.text "XVariables"]]

def script (o : Overload) (builder : String) (s : Settings) : List Op :=
  Op.text o.member.name ::
    (if o.typeParameters.isEmpty then []
      else [Op.region .generic false
        (o.typeParameters.flatMap fun parameter => [Op.separator none, Op.text parameter])]) ++
    [Op.region .parameters (o.arguments.isSome && o.child.isSome)
        ((if o.arguments.isSome then [Op.separator none, Op.text "args: XArgs"] else []) ++
          o.child.toList.flatMap childScript),
      Op.text (": " ++ builder ++ "<T & ")] ++
    o.member.selectionScript s ++
    [Op.text (if o.threads then ", TVariables & XVariables>;\n" else ", TVariables>;\n")]

end Overload

namespace Accessor

/-- The field that an accessor is for. -/
def field : Accessor → String
  | property m => m.name
  | overload o => o.member.name
  | unselect name => name

def script (builder : String) (s : Settings) : Accessor → List Op
  | property m =>
    [Op.text ("readonly " ++ m.name ++ ": " ++ builder ++ "<T & ")] ++ m.selectionScript s ++
      [Op.text ", TVariables>;\n"]
  | overload o => o.script builder s
  | unselect name =>
    [Op.text ("readonly \"~" ++ name ++ "\": " ++ builder ++ "<Omit<T, '" ++ name ++
      "'>, TVariables>;\n")]

/-- The field that is read as a property. -/
def property? : Accessor → Option String
  | property m => some m.name
  | overload _ | unselect _ => none

/-- What the accessor adds to the selection. -/
def member? : Accessor → Option Member
  | property m => some m
  | overload o => some o.member
  | unselect _ => none

end Accessor

namespace Builder

/-- What selecting a field adds to the selection. -/
def member (f : SelectableField) (d : FieldDef) : Member :=
  ⟨f.name, d.type.isNullable, d.type, if f.isAssociation then some "X" else none⟩

/-- The accessor of a field when it is called, with arguments or without. -/
def overload (b : Builder) (f : SelectableField) (d : FieldDef) (withArguments : Bool) : Overload where
  arguments := if withArguments then some (b.argumentsName, f.name) else none
  child := if f.isAssociation then some (b.catalog.associatedTypes f) else none
  threads := f.isAssociation
  member := member f d

/-- The accessors of a field. -/
def accessorsOf (b : Builder) (f : SelectableField) (d : FieldDef) : List Accessor :=
  (if f.isFunction then (overloads d).map fun withArguments => .overload (b.overload f d withArguments)
    else [.property (member f d)]) ++ [.unselect f.name]

/-- The accessors of all fields, field by field. -/
def interface (b : Builder) : List (List Accessor) := b.fields.map fun (f, d) => b.accessorsOf f d

/-- The accessors that the interface has for a field. -/
def accessorsFor (b : Builder) (n : String) : List Accessor :=
  b.interface.flatten.filter fun a => a.field = n

/-- The interface of arguments: an entry for each field that takes some. -/
def entries (b : Builder) : List (String × List Member) :=
  b.fieldsWithArguments.map fun d => (d.name, d.arguments.map .ofArgument)

def entryScript (b : Builder) (s : Settings) : List Op :=
  if b.entries.isEmpty then []
  else
    [Op.text "\n", Op.text ("export interface " ++ b.argumentsName ++ " "),
      Op.region .block true (b.entries.flatMap fun (name, members) =>
        [Op.separator (some ","), Op.text (readonlyWord s ++ name ++ ": "),
          Op.region .block true (members.flatMap fun m =>
            Op.separator (some ",") :: m.script s m.name)]),
      Op.text "\n"]

/-- The file, written from what it declares. The default builder is a chain of its fields. -/
def declarationScript (b : Builder) (s : Settings) : List Op :=
  [Op.text immutabilityComment,
    Op.text ("export interface " ++ b.name ++
      "<T extends object, TVariables extends object> extends ObjectFetcher<'" ++ b.typeName ++
      "', T, TVariables> "),
    Op.region .block true
      ((if b.isPolymorphic then b.narrowingScript else []) ++ b.typeNameScript ++
        b.interface.flatMap fun accessors =>
          Op.text "\n" :: accessors.flatMap (·.script b.name s)),
    Op.text "\n"] ++
    b.constantScript ++ b.entryScript s

variable {b : Builder} {f : SelectableField} {d : FieldDef} {s : Settings}

theorem methodScript_eq {withArguments : Bool} :
    b.methodScript s f d withArguments = (b.overload f d withArguments).script b.name s := by
  cases withArguments <;> cases hassociation : f.isAssociation <;>
    simp [methodScript, Overload.script, Overload.childScript, overload, hassociation, childScript,
      typeParameters, Overload.typeParameters, selectionScript, Member.selectionScript,
      Member.script, member]

theorem accessorScript_eq : b.accessorScript s f d =
    Op.text "\n" :: (b.accessorsOf f d).flatMap (·.script b.name s) := by
  have hmethod : b.methodScript s f d = fun withArguments =>
      (b.overload f d withArguments).script b.name s := funext fun _ => methodScript_eq
  cases hfunction : f.isFunction <;>
    simp [accessorScript, accessorsOf, hfunction, hmethod, Accessor.script, selectionScript,
      Member.selectionScript, Member.script, member, List.flatMap_map]

theorem argumentsInterface_eq_entries : b.argumentsInterface = scripted fun s => b.entryScript s := by
  have hentry (d : FieldDef) := settings_scripted fun s => readonlyWord s ++ d.name ++ ": "
  have hargument (a : InputValue) : property a.name a.type none =
      scripted fun s => (Member.ofArgument a).script s a.name := Member.property_eq
  simp [-property_scripted, argumentsInterface, entryScript, entries, ↓hentry, hargument,
    List.flatMap_map, Member.ofArgument]

/-- The file of a builder is what writing its declarations gives. -/
theorem code_eq_declarations : b.code = scripted fun s => b.declarationScript s := by
  simp [code, declarationScript, narrowing_eq, typeNameAccessor_eq, accessors_eq, accessorScript_eq,
    constants_eq, argumentsInterface_eq_entries, interface, ite_append, List.flatMap_map]

end Builder

/-! ## Models and definitions -/

namespace Outline

variable {s : Schema} {settings : Settings} {name : String} {d : FieldDef} {f : SelectableField}

/-- A field leads to another selectable type if and only if its definition names a composite type. -/
theorem isAssociation_of_fieldModel (h : (ofSchema s settings).fieldModel name d = .ok f) :
    f.isAssociation = s.isComposite d.type.base := by
  obtain ⟨target, htarget, _, rfl⟩ := fieldModel_eq_ok_iff.1 h
  rw [schema_ofSchema] at htarget
  have hcomposite : s.isComposite d.type.base = target.isComposite := by
    rw [Schema.isComposite, htarget]
    rfl
  rw [hcomposite, SelectableField.isAssociation, SelectableField.isPlural, category_fieldOfType]
  split
  · next hconnection =>
    obtain ⟨k, hk, hbase⟩ := isSome_connection?_iff.1 hconnection
    obtain ⟨⟨e, hobject⟩, _⟩ := Schema.objects_of_connection hk
    rw [hbase, htarget] at hobject
    cases hobject
    rfl
  · split
    · next htrue =>
      rw [htrue]
      split <;> rfl
    · next hfalse =>
      rw [Bool.eq_false_iff.2 hfalse]
      split <;> rfl

theorem isEmpty_withArguments {arguments : List InputValue} :
    (arguments.foldl (fun m a => m.withArgument a.name a.type.spelling) f).arguments.isEmpty =
      (f.arguments.isEmpty && arguments.isEmpty) := by
  induction arguments generalizing f with
  | nil => simp
  | cons a rest ih =>
    have hadded : (f.withArgument a.name a.type.spelling).arguments.isEmpty = false := by
      unfold SelectableField.withArgument SelectableField.putArgument
      cases f.arguments with
      | nil => rfl
      | cons first others =>
        dsimp only
        split <;> rfl
    rw [List.foldl_cons, ih, hadded]
    simp

/-- A field takes arguments if and only if its definition does. -/
theorem arguments_of_fieldModel (h : (ofSchema s settings).fieldModel name d = .ok f) :
    f.arguments.isEmpty = d.arguments.isEmpty := by
  obtain ⟨target, _, _, rfl⟩ := fieldModel_eq_ok_iff.1 h
  unfold fieldOfType
  simp only [isEmpty_withArguments]
  split
  · simp
  · split
    · simp
    · split <;> simp

end Outline

/-! ## What is declared for a field -/

namespace Builder

variable {b : Builder} {f : SelectableField} {d : FieldDef} {a : Accessor} {n : String}

theorem mem_overloads_true_iff : true ∈ overloads d ↔ d.arguments ≠ [] := by
  unfold overloads
  cases d.arguments with
  | nil => simp
  | cons a rest =>
    simp only [List.isEmpty_cons, Bool.false_eq_true, if_false]
    split <;> simp

theorem mem_overloads_false_iff :
    false ∈ overloads d ↔ ∀ a ∈ d.arguments, a.type.isNullable = true := by
  unfold overloads
  cases d.arguments with
  | nil => simp
  | cons a rest =>
    simp only [List.isEmpty_cons, Bool.false_eq_true, if_false, ← List.all_eq_true]
    split <;> simp_all

theorem nodup_overloads : (overloads d).Nodup := by
  unfold overloads
  repeat' split
  all_goals decide

theorem property_mem_iff {m : Member} :
    .property m ∈ b.accessorsOf f d ↔ f.isFunction = false ∧ m = member f d := by
  cases hfunction : f.isFunction <;> simp [accessorsOf, hfunction]

theorem overload_mem_iff {o : Overload} : .overload o ∈ b.accessorsOf f d ↔
    f.isFunction = true ∧ ∃ withArguments ∈ overloads d, o = b.overload f d withArguments := by
  cases hfunction : f.isFunction <;> simp [accessorsOf, hfunction, eq_comm]

theorem isSome_arguments {withArguments : Bool} :
    (b.overload f d withArguments).arguments.isSome = withArguments := by
  cases withArguments <;> rfl

/-- Each way to call the accessor of a field, and no other, is an overload. -/
theorem exists_overload_iff {withArguments : Bool} :
    (∃ o, .overload o ∈ b.accessorsOf f d ∧ o.arguments.isSome = withArguments) ↔
      f.isFunction = true ∧ withArguments ∈ overloads d := by
  constructor
  · rintro ⟨o, ho, hsome⟩
    obtain ⟨hcalled, given, hmem, rfl⟩ := overload_mem_iff.1 ho
    rw [← hsome, isSome_arguments]
    exact ⟨hcalled, hmem⟩
  · rintro ⟨hcalled, hmem⟩
    exact ⟨_, overload_mem_iff.2 ⟨hcalled, withArguments, hmem, rfl⟩, isSome_arguments⟩

theorem unselect_mem_iff : .unselect n ∈ b.accessorsOf f d ↔ n = f.name := by
  cases hfunction : f.isFunction <;> simp [accessorsOf, hfunction]

theorem field_of_mem (h : a ∈ b.accessorsOf f d) : a.field = f.name := by
  cases a with
  | property m =>
    obtain ⟨_, rfl⟩ := property_mem_iff.1 h
    rfl
  | overload o =>
    obtain ⟨_, _, _, rfl⟩ := overload_mem_iff.1 h
    rfl
  | unselect n => exact unselect_mem_iff.1 h

theorem nodup_accessorsOf : (b.accessorsOf f d).Nodup := by
  -- Overloads of one field differ in whether there are arguments.
  have hcalls : ((overloads d).map fun withArguments =>
      Accessor.overload (b.overload f d withArguments)).Nodup := by
    refine nodup_overloads.map fun first second hsame => ?_
    have hsome : (b.overload f d first).arguments.isSome = (b.overload f d second).arguments.isSome :=
      congrArg (·.arguments.isSome) (Accessor.overload.inj hsame)
    rwa [isSome_arguments, isSome_arguments] at hsome
  refine List.nodup_append.2 ⟨?_, List.nodup_singleton _, fun a ha other hother heq => ?_⟩
  · split
    · exact hcalls
    · exact List.nodup_singleton _
  · rw [List.mem_singleton.1 hother] at heq
    subst heq
    split at ha
    · obtain ⟨_, _, hcall⟩ := List.mem_map.1 ha
      cases hcall
    · cases List.mem_singleton.1 ha

/-- The fields that the interface has as properties, in order. -/
def properties (b : Builder) : List String := b.interface.flatten.filterMap Accessor.property?

theorem properties_eq : b.properties =
    ((b.fields.map (·.1)).filter fun f => !f.isFunction).map (·.name) := by
  unfold properties interface
  induction b.fields with
  | nil => rfl
  | cons p rest ih =>
    obtain ⟨f, d⟩ := p
    have hcalls : ((overloads d).map fun withArguments =>
        Accessor.overload (b.overload f d withArguments)).filterMap Accessor.property? = [] := by
      simp [List.filterMap_eq_nil_iff, Accessor.property?]
    rw [List.map_cons, List.flatten_cons, List.filterMap_append, ih, List.map_cons]
    cases hfunction : f.isFunction <;>
      simp [accessorsOf, hfunction, hcalls, Accessor.property?, member]

/-- The default builder selects the properties that the settings do not leave out. -/
theorem defaultFields_eq : b.defaultFields =
    b.properties.filter fun n => !b.catalog.settings.excludesByDefault b.typeName n := by
  rw [properties_eq, List.filter_map, List.filter_filter, defaultFields]
  congr 2
  funext f
  simp [Bool.and_comm]

/-- What the file of a builder declares for a field, as the definition of the field says. -/
structure Declares (b : Builder) (s : Schema) (d : FieldDef) : Prop where
  /-- It is read as a property if it takes no arguments and is not composite. -/
  property : (∃ m, .property m ∈ b.accessorsFor d.name) ↔
    d.arguments = [] ∧ s.isComposite d.type.base = false
  /-- Otherwise it is called. -/
  overload : (∃ o, .overload o ∈ b.accessorsFor d.name) ↔
    ¬ (d.arguments = [] ∧ s.isComposite d.type.base = false)
  withArguments : (∃ o, .overload o ∈ b.accessorsFor d.name ∧ o.arguments.isSome = true) ↔
    d.arguments ≠ []
  /-- An accessor that is called can be called without arguments if there are none, or if the entry of
  the field has no member that is required. -/
  withoutArguments : ¬ (d.arguments = [] ∧ s.isComposite d.type.base = false) →
    ((∃ o, .overload o ∈ b.accessorsFor d.name ∧ o.arguments.isSome = false) ↔
      d.arguments = [] ∨
        ∃ members, (d.name, members) ∈ b.entries ∧ ∀ m ∈ members, m.optional = true)
  /-- Arguments are taken from the entry of the field, which exists. -/
  entry : ∀ o interface n, .overload o ∈ b.accessorsFor d.name → o.arguments = some (interface, n) →
    interface = b.argumentsName ∧ n = d.name ∧ ∃ members, (n, members) ∈ b.entries
  /-- The builder of a composite type is passed along with its variables. -/
  child : ∀ o, .overload o ∈ b.accessorsFor d.name →
    o.child.isSome = s.isComposite d.type.base ∧ o.threads = s.isComposite d.type.base
  member : ∀ a ∈ b.accessorsFor d.name, ∀ m, a.member? = some m →
    m = ⟨d.name, d.type.isNullable, d.type, if s.isComposite d.type.base then some "X" else none⟩
  unselect : (b.accessorsFor d.name).count (.unselect d.name) = 1

end Builder

namespace Catalog

variable {c : Catalog} {s : Schema} {settings : Settings} {name : String} {b : Builder}
  {f : SelectableField} {d : FieldDef} {a : Accessor} {members : List Member}

namespace Builds

/-- The accessors for a field are those that its own pair gives. -/
theorem mem_accessorsFor_iff (h : c.Builds name b) (hp : (f, d) ∈ b.fields) :
    a ∈ b.accessorsFor d.name ↔ a ∈ b.accessorsOf f d := by
  have hname : d.name = f.name := (h.listed _ hp).2
  rw [Builder.accessorsFor, List.mem_filter, decide_eq_true_iff, Builder.interface,
    ← List.flatMap_def, List.mem_flatMap]
  constructor
  · rintro ⟨⟨other, hother, ha⟩, hfield⟩
    rw [Builder.field_of_mem ha, hname] at hfield
    -- Accessors tell their field by its name, which no other field of the builder has.
    obtain rfl := List.inj_on_of_nodup_map h.nodup_names hother hp hfield
    exact ha
  · intro ha
    exact ⟨⟨(f, d), hp, ha⟩, (Builder.field_of_mem ha).trans hname.symm⟩

/-- Nothing is declared twice. -/
theorem nodup_interface (h : c.Builds name b) : b.interface.flatten.Nodup := by
  have hpairs : b.fields.Pairwise fun p q => p.1.name ≠ q.1.name := List.pairwise_map.1 h.nodup_names
  rw [Builder.interface, ← List.flatMap_def, List.nodup_flatMap]
  refine ⟨fun p _ => Builder.nodup_accessorsOf, hpairs.imp fun {p q} hne a ha hother => hne ?_⟩
  exact (Builder.field_of_mem ha).symm.trans (Builder.field_of_mem hother)

/-- The definitions of a builder have different names. -/
theorem nodup_definition_names (h : c.Builds name b) : (b.fields.map (·.2.name)).Nodup := by
  have hnames : b.fields.map (·.2.name) = b.fields.map (·.1.name) :=
    List.map_congr_left fun p hp => (h.listed p hp).2
  exact hnames ▸ h.nodup_names

/-- The interface of arguments has an entry for a field if the field takes any, and no other. -/
theorem mem_entries_iff (h : c.Builds name b) (hp : (f, d) ∈ b.fields) :
    (d.name, members) ∈ b.entries ↔ d.arguments ≠ [] ∧ members = d.arguments.map .ofArgument := by
  have hd : d ∈ b.fields.map (·.2) := List.mem_map_of_mem hp
  rw [Builder.entries, List.mem_map, Builder.fieldsWithArguments]
  constructor
  · rintro ⟨other, hother, heq⟩
    obtain ⟨hname, rfl⟩ := Prod.mk.inj heq
    obtain ⟨hmem, harguments⟩ := List.mem_filter.1 hother
    have hnames : ((b.fields.map (·.2)).map (·.name)).Nodup := by
      rw [List.map_map]
      exact h.nodup_definition_names
    obtain rfl := List.inj_on_of_nodup_map hnames hmem hd hname
    exact ⟨by simpa using harguments, rfl⟩
  · rintro ⟨harguments, rfl⟩
    exact ⟨d, List.mem_filter.2 ⟨hd, by simpa using harguments⟩, rfl⟩

theorem nodup_entries (h : c.Builds name b) : (b.entries.map (·.1)).Nodup := by
  have hsub : (b.entries.map (·.1)).Sublist (b.fields.map (·.2.name)) := by
    have hall : ((b.fields.map (·.2)).map (·.name)) = b.fields.map (·.2.name) := List.map_map
    rw [Builder.entries, List.map_map, ← hall]
    exact List.filter_sublist.map _
  exact h.nodup_definition_names.sublist hsub

/-- A field that can be called without arguments has none, or an entry in which all are optional. -/
theorem mem_overloads_false_iff (h : c.Builds name b) (hp : (f, d) ∈ b.fields) :
    false ∈ Builder.overloads d ↔ d.arguments = [] ∨
      ∃ members, (d.name, members) ∈ b.entries ∧ ∀ m ∈ members, m.optional = true := by
  rw [Builder.mem_overloads_false_iff]
  simp only [h.mem_entries_iff hp]
  constructor
  · intro hall
    refine or_iff_not_imp_left.2 fun harguments => ⟨_, ⟨harguments, rfl⟩, ?_⟩
    exact List.forall_mem_map.2 hall
  · rintro (hnone | ⟨_, ⟨_, rfl⟩, hall⟩)
    · rw [hnone]
      exact nofun
    · exact List.forall_mem_map.1 hall

/-- What is declared for a field, if its model leads to another type and takes arguments when its
definition does. -/
theorem declares (h : c.Builds name b) (hp : (f, d) ∈ b.fields)
    (hassociation : f.isAssociation = s.isComposite d.type.base)
    (harguments : f.arguments.isEmpty = d.arguments.isEmpty) : b.Declares s d := by
  have hname : d.name = f.name := (h.listed _ hp).2
  -- What is read as a property is decided by the model alone; by assumption the definition says
  -- the same.
  have hfunction : f.isFunction = false ↔ d.arguments = [] ∧ s.isComposite d.type.base = false := by
    rw [SelectableField.isFunction, harguments, hassociation]
    simp
  have hmember : Builder.member f d = ⟨d.name, d.type.isNullable, d.type,
      if s.isComposite d.type.base then some "X" else none⟩ := by
    rw [Builder.member, hname, hassociation]
  constructor
  case property =>
    simp only [h.mem_accessorsFor_iff hp, Builder.property_mem_iff, hfunction]
    constructor
    · rintro ⟨_, hplain, _⟩
      exact hplain
    · intro hplain
      exact ⟨_, hplain, rfl⟩
  case overload =>
    simp only [h.mem_accessorsFor_iff hp, Builder.overload_mem_iff]
    rw [← hfunction, Bool.not_eq_false]
    constructor
    · rintro ⟨_, hcalled, _⟩
      exact hcalled
    · intro hcalled
      obtain ⟨withArguments, hmem⟩ := Builder.exists_mem_overloads d
      exact ⟨_, hcalled, withArguments, hmem, rfl⟩
  case withArguments =>
    have hcalled (harguments : d.arguments ≠ []) : f.isFunction = true := by
      rw [← Bool.not_eq_false, hfunction]
      exact fun hplain => harguments hplain.1
    simp only [h.mem_accessorsFor_iff hp, Builder.exists_overload_iff,
      Builder.mem_overloads_true_iff]
    exact and_iff_right_of_imp hcalled
  case withoutArguments =>
    intro hcalled
    rw [← hfunction, Bool.not_eq_false] at hcalled
    simp only [h.mem_accessorsFor_iff hp, Builder.exists_overload_iff]
    rw [and_iff_right hcalled, h.mem_overloads_false_iff hp]
  case entry =>
    intro o interface n ho hsome
    rw [h.mem_accessorsFor_iff hp] at ho
    obtain ⟨_, withArguments, hmem, rfl⟩ := Builder.overload_mem_iff.1 ho
    cases withArguments with
    | false => cases hsome
    | true =>
      cases hsome
      have hentry : (d.name, d.arguments.map .ofArgument) ∈ b.entries :=
        (h.mem_entries_iff hp).2 ⟨Builder.mem_overloads_true_iff.1 hmem, rfl⟩
      exact ⟨rfl, hname.symm, _, hname ▸ hentry⟩
  case child =>
    intro o ho
    rw [h.mem_accessorsFor_iff hp] at ho
    obtain ⟨_, _, _, rfl⟩ := Builder.overload_mem_iff.1 ho
    rw [← hassociation]
    refine ⟨?_, rfl⟩
    cases hleads : f.isAssociation <;> simp [Builder.overload, hleads]
  case member =>
    intro a ha m hm
    rw [h.mem_accessorsFor_iff hp] at ha
    rw [← hmember]
    cases a with
    | property m' =>
      cases hm
      exact (Builder.property_mem_iff.1 ha).2
    | overload o =>
      cases hm
      obtain ⟨_, _, _, rfl⟩ := Builder.overload_mem_iff.1 ha
      rfl
    | unselect n => cases hm
  case unselect =>
    have hnodup : (b.accessorsFor d.name).Nodup := h.nodup_interface.filter _
    refine List.count_eq_one_of_mem hnodup ?_
    rw [h.mem_accessorsFor_iff hp, Builder.unselect_mem_iff]
    exact hname

end Builds

/-- In a regular schema whose files can all be generated, the file of the builder of a composite type is
what writing its declarations gives. For each field of the type that is not left out, the definition
tells which accessors there are; the default builder selects exactly the properties that the settings do
not leave out, each once and in the order of the fields. -/
theorem declares_of_listed {artifacts : List Artifact} (hs : s.Regular)
    (hc : ofSchema s settings = .ok c) (hartifacts : c.artifacts = .ok artifacts)
    (hname : name ∈ s.compositeNames) :
    ∃ b, c.builder name = .ok b ∧ .builder b ∈ artifacts ∧ c.type? name = .ok b.type ∧
      (b.code = scripted fun settings => b.declarationScript settings) ∧
      (∀ f ∈ b.type.fields, settings.excludes name f.name = false →
        ∃ d ∈ s.listedFields name, d.name = f.name ∧ b.Declares s d) ∧
      (b.entries.map (·.1)).Nodup ∧
      b.defaultFields = b.properties.filter (fun n => !settings.excludesByDefault name n) ∧
      b.defaultFields.Nodup ∧ b.defaultFields.Sublist (b.type.fields.map (·.name)) := by
  obtain ⟨b, hb⟩ := exists_builder hc hartifacts hname
  have hbuilds := builds_of_builder hb
  have htypeName : b.typeName = name := (typeOf_of_type? hc hbuilds.type).1
  have hdefault : b.defaultFields =
      b.properties.filter fun n => !settings.excludesByDefault name n := by
    rw [Builder.defaultFields_eq, htypeName, hbuilds.catalog, settings_eq hc]
  have hordered : b.defaultFields.Sublist (b.type.fields.map (·.name)) := by
    have hkept : (b.fields.map (·.1)).Sublist b.type.fields := by
      rw [hbuilds.fields]
      exact List.filter_sublist
    exact (List.filter_sublist.trans hkept).map _
  refine ⟨b, hb, mem_artifacts_of_builder hc hartifacts hname hb, hbuilds.type,
    Builder.code_eq_declarations, fun f hf hkept => ?_, hbuilds.nodup_entries, hdefault,
    b.type.nodup_fields.sublist hordered, hordered⟩
  have hmem : f ∈ b.fields.map (·.1) := by
    rw [hbuilds.fields, settings_eq hc]
    exact List.mem_filter.2 ⟨hf, by simpa using hkept⟩
  obtain ⟨⟨_, d⟩, hp, rfl⟩ := List.mem_map.1 hmem
  obtain ⟨hlisted, hsame⟩ := hbuilds.listed _ hp
  -- In a regular schema the model of a field is that of the definition it is paired with, wherever
  -- it was inherited from.
  have hmodel := hbuilds.fieldModel_of_mem hc hs hp
  rw [(ofSchema_eq_ok hc).1] at hmodel
  refine ⟨d, schema_eq hc ▸ hlisted, hsame, hbuilds.declares hp ?_ ?_⟩
  · exact Outline.isAssociation_of_fieldModel hmodel
  · exact Outline.arguments_of_fieldModel hmodel

/-! ## A press -/

/-- A schema with fields that take arguments, required ones and others. -/
def press : Schema where
  types := [
    .object ⟨"Author", [], [⟨"id", .nonNull (.named "ID"), []⟩, ⟨"name", .named "String", []⟩,
      ⟨"motto", .named "String", [⟨"language", .named "String"⟩]⟩,
      ⟨"books", .nonNull (.list (.named "Book")), [⟨"year", .nonNull (.named "Int")⟩]⟩]⟩,
    .object ⟨"Book", [], [⟨"title", .named "String", []⟩, ⟨"author", .named "Author", []⟩]⟩,
    .scalar "ID", .scalar "String", .scalar "Int"]
  roots := .unset
  distinct := by decide

/-- Settings under which the default builder leaves out the name of an author. -/
def nameless : Settings := { defaultExcluded := Settings.addField ∅ "Author" "name" }

theorem declares_of_author : press.Regular ∧
    ∃ c artifacts, ofSchema press nameless = .ok c ∧ c.artifacts = .ok artifacts ∧
      ∃ b, c.builder "Author" = .ok b ∧ "name" ∉ b.defaultFields ∧
        ∃ d ∈ press.listedFields "Author", d.name = "books" ∧ b.Declares press d := by
  have hregular : press.Regular := ⟨by decide, by decide⟩
  obtain ⟨c, all, hc, hartifacts⟩ := exists_artifacts press nameless (by cbv)
  have hname : "Author" ∈ press.compositeNames := by decide
  obtain ⟨b, hb, -, htype, -, hdeclares, -, hdefault, -⟩ :=
    declares_of_listed hregular hc hartifacts hname
  have hfields : (ofSchema press nameless >>= fun c => (c.type? "Author").map fun t =>
      t.fields.map (·.name)) = .ok ["id", "name", "motto", "books"] := by cbv
  rw [hc] at hfields
  obtain ⟨t, ht, hnames⟩ : ∃ t, c.type? "Author" = .ok t ∧
      t.fields.map (·.name) = ["id", "name", "motto", "books"] := map_eq_ok_iff.1 hfields
  cases htype.symm.trans ht
  have hbooks : "books" ∈ b.type.fields.map (·.name) := by
    rw [hnames]
    decide
  obtain ⟨f, hf, hfield⟩ := List.mem_map.1 hbooks
  obtain ⟨d, hd, hsame, hdeclared⟩ := hdeclares f hf (by rw [hfield]; decide)
  refine ⟨hregular, c, all, hc, hartifacts, b, hb, ?_, d, hd, hsame.trans hfield, hdeclared⟩
  rw [hdefault, List.mem_filter]
  rintro ⟨_, hkept⟩
  revert hkept
  decide

end Catalog

end TypedQuery
