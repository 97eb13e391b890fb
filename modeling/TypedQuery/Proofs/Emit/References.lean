-- SUMMARY: Operations fail at what they refer to, and at nothing else.
import TypedQuery.Proofs.Emit.Courses
import TypedQuery.Proofs.Fallible

/-!
# References

Operations that write a body refer to types. Such an operation fails if and only if one of the names it
refers to fails the check of the sheet, and with the failure of the first one that does. Operations that
ask for imports fail only once the imports are closed. What a reference writes is names of types and the
words beside them, and nothing else: `Op.text_mem_ofRef_iff`.
-/
namespace TypedQuery

/-- Whether a name can be written on a sheet: it has to be known, and a scalar has to have a type. -/
def Sheet.check (sheet : Sheet) (name : String) : Except Error Unit :=
  match sheet.schema.get? name with
  | none => .error (.unknownType name (.file sheet.location.path))
  | some (.scalar _) =>
    if (Writing.scalarType? sheet.settings name).isSome then .ok ()
    else .error (.unknownScalar name)
  | some _ => .ok ()

namespace Op

mutual

/-- The names that an operation refers to. -/
def references : Op → List String
  | property _ type _ | typeRef type _ => [type.base]
  | region _ _ inside => referencesAll inside
  | text _ | enter _ _ | leave | leaveWith _ | separator _ | literal _ | importStatement _
  | importType _ | importField _ | closeImports | readonlyWord => []

/-- The names that operations refer to, in order. -/
def referencesAll : List Op → List String
  | [] => []
  | op :: rest => op.references ++ referencesAll rest

end

/-- The operation asks for an import. -/
def isImport : Op → Bool
  | importStatement _ | importType _ | importField _ => true
  | _ => false

mutual

/-- The operation writes the body and has nothing to do with imports. -/
def isBody : Op → Bool
  | importStatement _ | importType _ | importField _ | closeImports => false
  | region _ _ inside => isBodyAll inside
  | text _ | enter _ _ | leave | leaveWith _ | separator _ | literal _ | property _ _ _
  | typeRef _ _ | readonlyWord => true

def isBodyAll : List Op → Bool
  | [] => true
  | op :: rest => op.isBody && isBodyAll rest

end

variable {first second : List Op}

@[simp] theorem referencesAll_append :
    referencesAll (first ++ second) = referencesAll first ++ referencesAll second := by
  induction first with
  | nil => rfl
  | cons op rest ih => simp [referencesAll, ih]

@[simp] theorem referencesAll_flatMap {α : Type} {items : List α} {each : α → List Op} :
    referencesAll (items.flatMap each) = items.flatMap fun a => referencesAll (each a) := by
  induction items with
  | nil => rfl
  | cons a rest ih => simp [ih]

@[simp] theorem referencesAll_map {α : Type} {items : List α} {each : α → Op} :
    referencesAll (items.map each) = items.flatMap fun a => (each a).references := by
  induction items with
  | nil => rfl
  | cons a rest ih => simp [referencesAll, ih]

@[simp] theorem referencesAll_ite {c : Prop} [Decidable c] :
    referencesAll (if c then first else second) =
      if c then referencesAll first else referencesAll second :=
  apply_ite referencesAll c first second

@[simp] theorem isBodyAll_append :
    isBodyAll (first ++ second) = (isBodyAll first && isBodyAll second) := by
  induction first with
  | nil => rfl
  | cons op rest ih => simp [isBodyAll, ih, Bool.and_assoc]

@[simp] theorem isBodyAll_flatMap {α : Type} {items : List α} {each : α → List Op} :
    isBodyAll (items.flatMap each) = items.all fun a => isBodyAll (each a) := by
  induction items with
  | nil => rfl
  | cons a rest ih => simp [ih]

@[simp] theorem isBodyAll_map {α : Type} {items : List α} {each : α → Op} :
    isBodyAll (items.map each) = items.all fun a => (each a).isBody := by
  induction items with
  | nil => rfl
  | cons a rest ih => simp [isBodyAll, ih]

@[simp] theorem isBodyAll_ite {c : Prop} [Decidable c] :
    isBodyAll (if c then first else second) = if c then isBodyAll first else isBodyAll second :=
  apply_ite isBodyAll c first second

end Op

/-! ## Courses -/

theorem Sheet.forM_check_append (sheet : Sheet) (names others : List String) :
    (names ++ others).forM sheet.check = (do names.forM sheet.check; others.forM sheet.check) := by
  induction names with
  | nil => rfl
  | cons name rest ih =>
    change (do sheet.check name; (rest ++ others).forM sheet.check) =
      (do (do sheet.check name; rest.forM sheet.check); others.forM sheet.check)
    rw [ih, bind_assoc]

theorem Sheet.forM_check_singleton {sheet : Sheet} {name : String} :
    [name].forM sheet.check = sheet.check name := by
  change (do sheet.check name; .ok ()) = _
  cases sheet.check name <;> rfl

variable {sheet : Sheet} {closed : Bool} {names others : List String}

/-- The course fails at the first name that fails the check, and leaves the imports as they are. -/
structure Course.Checks (c : Course) (sheet : Sheet) (names : List String) (closed : Bool) :
    Prop where
  result : c.result = names.forM sheet.check
  closed : c.closed = closed

namespace Course.Checks

variable {c : Course} {next : Bool → Course} {type : TypeRef} {standIn : Option String}

theorem doing {acts : List Act} : (Course.doing closed acts).Checks sheet [] closed :=
  ⟨rfl, rfl⟩

/-- Behind a course that cannot fail, everything depends on what comes next. -/
theorem skip {after : Bool} (hc : c.Checks sheet [] closed)
    (hnext : (next closed).Checks sheet names after) : (c.andThen next).Checks sheet names after := by
  rw [Course.andThen_of_ok hc.result, hc.closed]
  exact ⟨hnext.result, hnext.closed⟩

theorem andThen (hc : c.Checks sheet names closed) (hnext : (next closed).Checks sheet others closed) :
    (c.andThen next).Checks sheet (names ++ others) closed := by
  obtain ⟨hresult, hclosed⟩ := hc
  have hboth := sheet.forM_check_append names others
  rw [← hresult] at hboth
  cases hfirst : c.result with
  | error failure =>
    rw [Course.andThen_of_error hfirst]
    exact ⟨by rw [hboth, hfirst]; rfl, hclosed⟩
  | ok _ =>
    rw [Course.andThen_of_ok hfirst, hclosed]
    exact ⟨by rw [hboth, hfirst]; exact hnext.result, hnext.closed⟩

theorem ofNamed {name : String} :
    (Course.ofNamed sheet name standIn closed).Checks sheet [name] closed := by
  have hboth : (Course.ofNamed sheet name standIn closed).result = sheet.check name ∧
      (Course.ofNamed sheet name standIn closed).closed = closed := by
    unfold Course.ofNamed Sheet.check
    cases sheet.schema.get? name with
    | none => exact ⟨rfl, rfl⟩
    | some found =>
      cases found with
      | scalar _ => cases Writing.scalarType? sheet.settings name <;> exact ⟨rfl, rfl⟩
      | union d => cases standIn <;> exact ⟨rfl, rfl⟩
      | _ => exact ⟨rfl, rfl⟩
  exact ⟨by rw [Sheet.forM_check_singleton, hboth.1], hboth.2⟩

theorem ofRef : (Course.ofRef sheet standIn type closed).Checks sheet [type.base] closed := by
  induction type with
  | named name => exact ofNamed
  | nonNull inner ih => exact ih
  | list item ih =>
    rw [Course.ofRef]
    apply doing.skip
    exact ih.andThen doing

end Course.Checks

namespace Op

mutual

/-- An operation on the body fails at the first name it refers to that fails the check. -/
theorem checks_course : (op : Op) → op.isBody = true →
    (op.course sheet closed).Checks sheet op.references closed
  | text _, _ | enter _ _, _ | leave, _ | leaveWith _, _ | separator _, _ | literal _, _
  | readonlyWord, _ => .doing
  | property _ _ _, _ => Course.Checks.doing.andThen .ofRef
  | typeRef _ _, _ => .ofRef
  | region _ _ inside, h =>
    ⟨(checks_courseAll inside h).result, (checks_courseAll inside h).closed⟩

theorem checks_courseAll : (ops : List Op) → isBodyAll ops = true →
    (courseAll sheet ops closed).Checks sheet (referencesAll ops) closed
  | [], _ => .doing
  | op :: rest, h =>
    have hboth := Bool.and_eq_true_iff.1 h
    (checks_course op hboth.1).andThen (checks_courseAll rest hboth.2)

end

/-- Asking for imports does not fail, then they are closed, and what fails is the body. -/
theorem checks_imports_body {imports body : List Op} (himports : imports.all isImport = true)
    (hbody : isBodyAll body = true) :
    (courseAll sheet (imports ++ .closeImports :: body) false).Checks sheet (referencesAll body)
      true := by
  induction imports with
  | nil => exact Course.Checks.doing.skip (checks_courseAll body hbody)
  | cons op rest ih =>
    obtain ⟨hop, hrest⟩ := Bool.and_eq_true_iff.1 himports
    have hcourse : (op.course sheet false).Checks sheet [] false := by
      cases op with
      | importStatement statement => exact ⟨rfl, rfl⟩
      | importType type => exact ⟨rfl, rfl⟩
      | importField f => exact ⟨rfl, rfl⟩
      | _ => cases hop
    exact hcourse.skip (ih hrest)

end Op

/-! ## Names that are written -/

/-- The names of types that a reference to a type writes, where `standIn` may stand for composite types:
the name itself or, of a union, the members. -/
def Schema.namesIn (s : Schema) (name : String) (standIn : Option String) : List String :=
  match s.get? name with
  | some (.enum _) | some (.input _) => [name]
  | some (.object _) | some (.interface _) => if standIn.isSome then [] else [name]
  | some (.union d) => if standIn.isSome then [] else d.members
  | some (.scalar _) | none => []

/-- The text of a scalar: what is configured for it, or else what is usual. -/
def Sheet.scalarText (sheet : Sheet) (name : String) : String :=
  match sheet.settings.scalarTypes.get? name with
  | some target => target
  | none => (Writing.usualScalarTypes.lookup name).getD ""

/-- What is written for a scalar is its text. -/
theorem Sheet.scalarText_of_scalarType? {name target : String}
    (h : Writing.scalarType? sheet.settings name = some target) : sheet.scalarText name = target := by
  unfold Writing.scalarType? at h
  unfold scalarText
  cases hconfigured : sheet.settings.scalarTypes.get? name with
  | some configured =>
    rw [hconfigured] at h
    exact Option.some.inj h
  | none =>
    rw [hconfigured] at h
    have husual : Writing.usualScalarTypes.lookup name = some target := h
    rw [husual]
    rfl

/-- What a reference to a type writes besides names of types: the words around the items of lists, the
text of a scalar, and what stands for composite types. -/
def Sheet.wordsIn (sheet : Sheet) (standIn : Option String) : TypeRef → List String
  | .nonNull inner => sheet.wordsIn standIn inner
  | .list item =>
    (if sheet.settings.arraysEditable then "Array" else "ReadonlyArray") ::
      sheet.wordsIn standIn item ++ if item.isNullable then [" | undefined"] else []
  | .named name =>
    match sheet.schema.get? name with
    | some (.scalar _) => [sheet.scalarText name]
    | some (.object _) | some (.interface _) | some (.union _) => standIn.toList
    | some (.enum _) | some (.input _) | none => []

namespace Op

mutual

/-- The types that an operation refers to, each with what stands for composite types. -/
def typeRefs : Op → List (TypeRef × Option String)
  | property _ type standIn | typeRef type standIn => [(type, standIn)]
  | region _ _ inside => typeRefsAll inside
  | text _ | enter _ _ | leave | leaveWith _ | separator _ | literal _ | importStatement _
  | importType _ | importField _ | closeImports | readonlyWord => []

def typeRefsAll : List Op → List (TypeRef × Option String)
  | [] => []
  | op :: rest => op.typeRefs ++ typeRefsAll rest

end

/-- The names of types that operations write where they refer to types. -/
def namesAll (schema : Schema) (ops : List Op) : List String :=
  (typeRefsAll ops).flatMap fun (type, standIn) => schema.namesIn type.base standIn

mutual

theorem references_eq_map : (op : Op) → op.references = op.typeRefs.map (·.1.base)
  | property _ _ _ | typeRef _ _ => rfl
  | region _ _ inside => referencesAll_eq_map inside
  | text _ | enter _ _ | leave | leaveWith _ | separator _ | literal _ | importStatement _
  | importType _ | importField _ | closeImports | readonlyWord => rfl

theorem referencesAll_eq_map : (ops : List Op) → referencesAll ops = (typeRefsAll ops).map (·.1.base)
  | [] => rfl
  | op :: rest => by
    rw [referencesAll, typeRefsAll, List.map_append, references_eq_map op, referencesAll_eq_map rest]

end

variable {name n : String} {type : TypeRef} {standIn : Option String}

/-- Of enums and input objects, the names are written that are referred to, and those of members of unions
that are written as such. -/
theorem mem_namesAll_iff {schema : Schema} {ops : List Op} {d : TypeDef} (hget : schema.get? n = some d)
    (hd : d.kind = .enum ∨ d.kind = .input) :
    n ∈ namesAll schema ops ↔ n ∈ referencesAll ops ∨ ∃ type u,
      (type, none) ∈ typeRefsAll ops ∧ schema.get? type.base = some (.union u) ∧ n ∈ u.members := by
  have hown (standIn : Option String) : n ∈ schema.namesIn n standIn := by
    rw [Schema.namesIn, hget]
    cases d <;> simp_all [TypeDef.kind]
  -- Where another name is referred to, this one is written only as a member of a union.
  have hnames (name : String) (standIn : Option String) : n ∈ schema.namesIn name standIn ↔
      n = name ∨ standIn = none ∧ ∃ u, schema.get? name = some (.union u) ∧ n ∈ u.members := by
    by_cases hname : n = name
    · subst hname
      exact ⟨fun _ => .inl rfl, fun _ => hown standIn⟩
    · rw [Schema.namesIn]
      rcases schema.get? name with _ | (_ | _ | u | _ | _ | _) <;> cases standIn <;>
        simp [hname]
  rw [referencesAll_eq_map, namesAll, List.mem_flatMap]
  simp only [hnames, and_or_left, exists_or, List.mem_map, eq_comm (a := n)]
  refine or_congr_right ?_
  constructor
  · rintro ⟨⟨type, _⟩, hmem, rfl, u, hu, hn⟩
    exact ⟨type, u, hmem, hu, hn⟩
  · rintro ⟨type, u, hmem, hu, hn⟩
    exact ⟨(type, none), hmem, rfl, u, hu, hn⟩

/-- The texts of a reference that succeeds are names of types and the words beside them. -/
theorem text_mem_ofRef_iff (hok : (Course.ofRef sheet standIn type closed).result = .ok ()) :
    .text n ∈ (Course.ofRef sheet standIn type closed).acts ↔
      n ∈ sheet.schema.namesIn type.base standIn ∨ n ∈ sheet.wordsIn standIn type := by
  induction type generalizing closed with
  | nonNull inner ih => exact ih hok
  | named name =>
    change .text n ∈ (Course.ofNamed sheet name standIn closed).acts ↔
      n ∈ sheet.schema.namesIn name standIn ∨ n ∈ sheet.wordsIn standIn (.named name)
    rw [Course.ofRef] at hok
    unfold Course.ofNamed at hok ⊢
    unfold Schema.namesIn Sheet.wordsIn
    cases hget : sheet.schema.get? name with
    | none => simp [hget] at hok
    | some d =>
      rw [hget] at hok
      cases d with
      | scalar _ =>
        cases htarget : Writing.scalarType? sheet.settings name with
        | none => simp [htarget] at hok
        | some target => simp [Course.doing, Sheet.scalarText_of_scalarType? htarget]
      | _ => cases standIn <;> simp [Course.doing]
  | list item ih =>
    rw [Course.ofRef] at hok ⊢
    obtain ⟨-, hrest, hacts⟩ := Course.ok_of_andThen hok
    obtain ⟨hitem, -, hitemActs⟩ := Course.ok_of_andThen hrest
    have hinside := ih hitem
    rw [hacts, hitemActs, List.mem_append, List.mem_append, hinside, Sheet.wordsIn]
    split <;> simp [Course.doing, TypeRef.base, or_assoc, or_left_comm]

mutual

/-- The acts of every reference of an operation that succeeds are among its acts, side by side. -/
theorem ofRef_infix_course {closed : Bool} : (op : Op) → op.isBody = true →
    (op.course sheet closed).result = .ok () → ∀ r ∈ op.typeRefs,
      (Course.ofRef sheet r.2 r.1 closed).result = .ok () ∧
        (Course.ofRef sheet r.2 r.1 closed).acts <:+: (op.course sheet closed).acts
  | property name type standIn, _, hok => by
    rintro r hr
    obtain rfl : r = (type, standIn) := List.mem_singleton.1 hr
    obtain ⟨_, href, hacts⟩ := Course.ok_of_andThen hok
    rw [course, hacts]
    exact ⟨href, (List.suffix_append _ _).isInfix⟩
  | typeRef type standIn, _, hok => by
    rintro r hr
    obtain rfl : r = (type, standIn) := List.mem_singleton.1 hr
    exact ⟨hok, List.infix_rfl⟩
  | region kind multiline inside, hbody, hok => fun r hr =>
    have hinside := ofRef_infix_courseAll inside hbody hok r hr
    ⟨hinside.1, hinside.2.trans (List.infix_append [Act.enter kind multiline] _ [Act.leave ""])⟩
  | text _, _, _ | enter _ _, _, _ | leave, _, _ | leaveWith _, _, _ | separator _, _, _
  | literal _, _, _ | readonlyWord, _, _ => nofun

theorem ofRef_infix_courseAll {closed : Bool} : (ops : List Op) → isBodyAll ops = true →
    (courseAll sheet ops closed).result = .ok () → ∀ r ∈ typeRefsAll ops,
      (Course.ofRef sheet r.2 r.1 closed).result = .ok () ∧
        (Course.ofRef sheet r.2 r.1 closed).acts <:+: (courseAll sheet ops closed).acts
  | [], _, _ => nofun
  | op :: rest, hbody, hok => fun r hr => by
    obtain ⟨hop, hrest⟩ := Bool.and_eq_true_iff.1 hbody
    obtain ⟨hopOk, hrestOk, hacts⟩ := Course.ok_of_andThen hok
    rw [(checks_course op hop).closed] at hrestOk hacts
    rw [courseAll, hacts]
    rcases List.mem_append.1 hr with hr | hr
    · obtain ⟨href, hinfix⟩ := ofRef_infix_course op hop hopOk r hr
      exact ⟨href, hinfix.trans (List.prefix_append _ _).isInfix⟩
    · obtain ⟨href, hinfix⟩ := ofRef_infix_courseAll rest hrest hrestOk r hr
      exact ⟨href, hinfix.trans (List.suffix_append _ _).isInfix⟩

end

end Op

end TypedQuery
