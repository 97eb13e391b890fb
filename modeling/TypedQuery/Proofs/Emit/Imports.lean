-- SUMMARY: What acts leave in the imports of a page, and the lines that it comes to.
import TypedQuery.Proofs.Emit.References
import TypedQuery.Proofs.Emit.Writes
import Mathlib.Data.List.Perm.Basic

/-!
# Imports

A page lists the import statements and the types that were asked for, each once. In the text of a file
the statements come first. The types follow, grouped by the module that they come from, with one line
for each module: every type stands on exactly one line (`Page.importGroups_perm`).
-/
namespace TypedQuery

/-- The name of an enum or input object. -/
def Schema.isDefinition (s : Schema) (name : String) : Bool :=
  (s.get? name).any fun d => d.kind = .enum || d.kind = .input

theorem Schema.isDefinition_iff {s : Schema} {name : String} : s.isDefinition name = true ↔
    ∃ d, s.get? name = some d ∧ (d.kind = .enum ∨ d.kind = .input) := by
  simp [isDefinition, Option.any_eq_true]

/-- A type that lies in a module of its own, other than the one that is written on the sheet. -/
def Sheet.Imports (sheet : Sheet) (name : String) : Prop :=
  sheet.schema.isDefinition name ∧ sheet.location.defines ≠ some name

instance {sheet : Sheet} : DecidablePred sheet.Imports :=
  fun name => inferInstanceAs (Decidable (sheet.schema.isDefinition name ∧ _))

namespace Page

variable {p : Page} {a : Act} {acts : List Act} {n name line : String} {names : List String}

theorem mem_addNew : n ∈ addNew names name ↔ n ∈ names ∨ n = name := by
  unfold addNew
  split
  · next h => exact ⟨.inl, fun hn => hn.elim id fun heq => heq ▸ h⟩
  · simp

theorem nodup_addNew (h : names.Nodup) : (addNew names name).Nodup := by
  unfold addNew
  split
  · exact h
  · next hnew =>
    refine List.nodup_append.2 ⟨h, by simp, fun first hfirst other hother heq => hnew ?_⟩
    exact List.mem_singleton.1 hother ▸ heq ▸ hfirst

theorem isSome_folderOf? : (p.folderOf? name).isSome = p.schema.isDefinition name := by
  unfold folderOf? Schema.isDefinition
  rcases p.schema.get? name with _ | (_ | _ | _ | _ | _ | _) <;> rfl

/-! ## What acts ask for -/

theorem statements_addType {type : TypeRef} : (p.addType type).statements = p.statements := by
  unfold addType
  split <;> rfl

theorem importedTypes_addType {type : TypeRef} : (p.addType type).importedTypes =
    if p.sheet.Imports type.base then addNew p.importedTypes type.base else p.importedTypes := by
  have hnew : p.sheet.Imports type.base ↔
      (p.folderOf? type.base).isSome ∧ p.location.defines ≠ some type.base := by
    rw [isSome_folderOf?]
    exact Iff.rfl
  rw [addType]
  simp only [hnew]
  split <;> rfl

theorem statements_act {statement : String} :
    (p.act (.addStatement statement)).statements = addNew p.statements (statementLine statement) :=
  rfl

/-- A statement is listed behind an act if it was before, or if the act asks for it. -/
theorem mem_statements_act : line ∈ (p.act a).statements ↔
    line ∈ p.statements ∨ ∃ statement, a = .addStatement statement ∧ line = statementLine statement := by
  cases a with
  | addStatement statement => simp [statements_act, mem_addNew]
  | addType type =>
    simp [act, statements_addType]
  | _ => rw [(imports_act rfl).1]; simp

/-- A type is listed behind an act if it was before, or if the act asks for it and it lies in a module of
its own that is not this one. -/
theorem mem_importedTypes_act : n ∈ (p.act a).importedTypes ↔
    n ∈ p.importedTypes ∨ p.sheet.Imports n ∧ ∃ type, a = .addType type ∧ n = type.base := by
  cases a with
  | addStatement statement => simp [act, addStatement]
  | addType type =>
    rw [act, importedTypes_addType]
    split
    · next h =>
      simp only [mem_addNew, Act.addType.injEq, exists_eq_left']
      exact or_congr_right ⟨fun heq => ⟨heq ▸ h, heq⟩, And.right⟩
    · next h =>
      simp only [Act.addType.injEq, exists_eq_left']
      refine ⟨.inl, ?_⟩
      rintro (hn | ⟨hnew, rfl⟩)
      · exact hn
      · exact absurd hnew h
  | _ => rw [(imports_act rfl).2]; simp

theorem nodup_importedTypes_act (h : p.importedTypes.Nodup) : (p.act a).importedTypes.Nodup := by
  cases a with
  | addStatement statement => exact h
  | addType type =>
    rw [act, importedTypes_addType]
    split
    · exact nodup_addNew h
    · exact h
  | _ => rw [(imports_act rfl).2]; exact h

theorem mem_statements_perform : line ∈ (p.perform acts).statements ↔
    line ∈ p.statements ∨ ∃ statement, .addStatement statement ∈ acts ∧
      line = statementLine statement := by
  induction acts generalizing p with
  | nil => simp [perform]
  | cons a rest ih =>
    rw [perform, List.foldl_cons, ← perform, ih, mem_statements_act, or_assoc]
    simp only [List.mem_cons, or_and_right, exists_or, eq_comm (b := a)]

theorem mem_importedTypes_perform : n ∈ (p.perform acts).importedTypes ↔
    n ∈ p.importedTypes ∨ p.sheet.Imports n ∧ ∃ type, .addType type ∈ acts ∧ n = type.base := by
  induction acts generalizing p with
  | nil => simp [perform]
  | cons a rest ih =>
    rw [perform, List.foldl_cons, ← perform, ih, mem_importedTypes_act, sheet_act.1, or_assoc,
      ← and_or_left]
    simp only [List.mem_cons, or_and_right, exists_or, eq_comm (b := a)]

theorem nodup_importedTypes_perform (h : p.importedTypes.Nodup) :
    (p.perform acts).importedTypes.Nodup := by
  induction acts generalizing p with
  | nil => exact h
  | cons a rest ih => exact ih (nodup_importedTypes_act h)

/-- What a page lists to import is what acts ask for: the statements, and the types that lie in modules of
their own, each once. -/
structure Lists (p : Page) (on : Sheet) (acts : List Act) : Prop where
  sheet : p.sheet = on
  nodup : p.importedTypes.Nodup
  statements (line : String) : line ∈ p.statements ↔
    ∃ statement, .addStatement statement ∈ acts ∧ line = statementLine statement
  types (name : String) : name ∈ p.importedTypes ↔
    on.Imports name ∧ ∃ type, .addType type ∈ acts ∧ name = type.base

/-! ## Groups -/

/-- The names of groups, each with its module. -/
def grouped (groups : List (String × List String)) : List (String × String) :=
  groups.flatMap fun (module, names) => names.map (module, ·)

variable {groups : List (String × List String)} {module : String}

theorem grouped_addToGroup_perm :
    (grouped (addToGroup groups module name)).Perm (grouped groups ++ [(module, name)]) := by
  induction groups with
  | nil => exact .refl _
  | cons group rest ih =>
    obtain ⟨first, names⟩ := group
    rw [addToGroup]
    split
    · next h =>
      subst h
      simp only [grouped, List.flatMap_cons, List.map_append, List.map_cons, List.map_nil,
        List.append_assoc]
      exact List.perm_append_comm.append_left _
    · simp only [grouped, List.flatMap_cons, List.append_assoc] at ih ⊢
      exact ih.append_left _

theorem modules_addToGroup :
    (addToGroup groups module name).map (·.1) = addNew (groups.map (·.1)) module := by
  induction groups with
  | nil => rfl
  | cons group rest ih =>
    obtain ⟨first, names⟩ := group
    rw [addToGroup]
    by_cases h : first = module
    · simp [h, addNew]
    · simp only [if_neg h, List.map_cons, ih, addNew, List.mem_cons, Ne.symm h, false_or]
      split <;> rfl

/-- Put an imported type into the group of its module. -/
def addImport (p : Page) (groups : List (String × List String)) (name : String) :
    List (String × List String) :=
  match p.modulePath? name with
  | some module => addToGroup groups module name
  | none => groups

/-- The imported types stand in the groups, each with its module and once. -/
theorem importGroups_perm : (grouped p.importGroups).Perm
    (p.importedTypes.filterMap fun name => (p.modulePath? name).map (·, name)) := by
  have hgroups (names : List String) (groups : List (String × List String)) :
      (grouped (names.foldl p.addImport groups)).Perm
      (grouped groups ++ names.filterMap fun name => (p.modulePath? name).map (·, name)) := by
    induction names generalizing groups with
    | nil => simp
    | cons name rest ih =>
      refine (ih _).trans ?_
      rw [addImport]
      cases hmodule : p.modulePath? name with
      | none => simp [hmodule]
      | some module =>
        simp only [List.filterMap_cons, hmodule, Option.map_some]
        exact (grouped_addToGroup_perm.append_right _).trans (by simp)
  exact hgroups p.importedTypes []

/-- What putting a name into a group keeps holds of the groups of imports. -/
theorem importGroups_induction {P : List (String × List String) → Prop} (hnil : P [])
    (hadd : ∀ groups module name, P groups → P (addToGroup groups module name)) :
    P p.importGroups := by
  have hgroups (names : List String) (groups : List (String × List String)) (h : P groups) :
      P (names.foldl p.addImport groups) := by
    induction names generalizing groups with
    | nil => exact h
    | cons name rest ih =>
      apply ih
      rw [addImport]
      split
      · exact hadd groups _ name h
      · exact h
  exact hgroups p.importedTypes [] hnil

theorem nodup_modules : (p.importGroups.map (·.1)).Nodup := by
  refine importGroups_induction (P := fun groups => (groups.map (·.1)).Nodup) List.nodup_nil ?_
  intro groups module name h
  rw [modules_addToGroup]
  exact nodup_addNew h

/-- A type stands in the group of a module if it is imported and the module is the one it comes from. -/
theorem mem_grouped_importGroups : (module, n) ∈ grouped p.importGroups ↔
    n ∈ p.importedTypes ∧ p.modulePath? n = some module := by
  rw [importGroups_perm.mem_iff, List.mem_filterMap]
  constructor
  · rintro ⟨name, hname, h⟩
    obtain ⟨found, hfound, heq⟩ := Option.map_eq_some_iff.1 h
    obtain ⟨rfl, rfl⟩ := Prod.mk.inj heq
    exact ⟨hname, hfound⟩
  · rintro ⟨hn, hmodule⟩
    exact ⟨n, hn, by rw [hmodule]; rfl⟩

theorem mem_grouped :
    (module, n) ∈ grouped groups ↔ ∃ names, (module, names) ∈ groups ∧ n ∈ names := by
  simp [grouped]

theorem ne_nil_addToGroup (h : ∀ group ∈ groups, group.2 ≠ []) :
    ∀ group ∈ addToGroup groups module name, group.2 ≠ [] := by
  induction groups with
  | nil => simp [addToGroup]
  | cons first rest ih =>
    obtain ⟨hfirst, hrest⟩ := List.forall_mem_cons.1 h
    rw [addToGroup]
    split
    · exact List.forall_mem_cons.2 ⟨by simp, hrest⟩
    · exact List.forall_mem_cons.2 ⟨hfirst, ih hrest⟩

/-- No group is empty. -/
theorem ne_nil_importGroups : ∀ group ∈ p.importGroups, group.2 ≠ [] :=
  importGroups_induction (P := fun groups => ∀ group ∈ groups, group.2 ≠ []) (by simp)
    fun _ _ _ => ne_nil_addToGroup

theorem grouped_names : (grouped groups).map (·.2) = groups.flatMap (·.2) := by
  simp [grouped, List.map_flatMap, Function.comp_def]

/-- Every enum and input object has a module to be imported from. -/
theorem isSome_modulePath? : (p.modulePath? name).isSome = p.schema.isDefinition name := by
  rw [← isSome_folderOf?, modulePath?]
  unfold folderOf?
  rcases p.schema.get? name with _ | (_ | _ | _ | _ | _ | _) <;> simp [Folder.name?] <;> split <;> rfl

/-- The names on the lines of the groups are the imported types that have a module, each once. -/
theorem importNames_perm : (p.importGroups.flatMap (·.2)).Perm
    (p.importedTypes.filter p.schema.isDefinition) := by
  have hnames (names : List String) :
      (names.filterMap fun name => (p.modulePath? name).map (·, name)).map (·.2) =
        names.filter p.schema.isDefinition := by
    induction names with
    | nil => rfl
    | cons name rest ih =>
      rw [List.filterMap_cons, List.filter_cons, ← isSome_modulePath?]
      cases p.modulePath? name <;> simp [ih]
  rw [← grouped_names, ← hnames]
  exact importGroups_perm.map _

/-! ## Lines -/

/-- The line that imports types from a module. -/
def importLine (group : String × List String) : String :=
  "import type \x7b " ++ ", ".intercalate group.2 ++ " \x7d from '" ++ group.1 ++ "';"

/-- The lines that a file begins with: the statements, and then one line for each group. -/
def importLines (p : Page) : List String := p.statements ++ p.importGroups.map importLine

/-- The text of lines at the beginning of a file: if there are any, an empty one follows. -/
def leadingText (lines : List String) : String :=
  if lines = [] then "" else String.join (lines.map (· ++ "\n")) ++ "\n"

theorem header_eq : p.header = leadingText p.importLines := by
  have hline (group : String × List String) : "import type \x7b " ++ ", ".intercalate group.2 ++
      " \x7d from '" ++ group.1 ++ "';\n" = importLine group ++ "\n" := by
    have hend (s : String) : s ++ "';\n" = s ++ "';" ++ "\n" := by
      rw [String.append_assoc]
      rfl
    exact hend _
  have hlines : p.statements.map (· ++ "\n") ++ p.importGroups.map (fun (module, names) =>
      "import type \x7b " ++ ", ".intercalate names ++ " \x7d from '" ++ module ++ "';\n") =
      p.importLines.map (· ++ "\n") := by
    simp only [importLines, List.map_append, List.map_map, hline, Function.comp_def]
  rw [header, hlines]
  cases p.importLines <;> simp [leadingText, String.join_cons]

end Page

/-! ## Scripts of files -/

namespace Course

variable {P : Act → Prop} {c : Course} {next : Bool → Course}

theorem forall_acts_andThen (hc : ∀ a ∈ c.acts, P a)
    (hnext : ∀ closed, ∀ a ∈ (next closed).acts, P a) : ∀ a ∈ (c.andThen next).acts, P a := by
  rw [andThen]
  split
  · exact hc
  · exact fun a ha => (List.mem_append.1 ha).elim (hc a) (hnext _ a)

end Course

namespace Op

variable {sheet : Sheet} {closed : Bool} {imports body : List Op} {n line : String}

/-- The acts of an operation that asks for imports. -/
def importActs : Op → List Act
  | importStatement statement => [.addStatement statement]
  | importType type => [.addType type]
  | importField f => .addType f.type :: f.arguments.map fun a => .addType a.type
  | _ => []

/-- The acts of a script are those that ask for imports, and then those of the body. -/
theorem acts_imports_body (h : imports.all isImport = true) :
    (courseAll sheet (imports ++ .closeImports :: body) false).acts =
      imports.flatMap importActs ++ (courseAll sheet body true).acts := by
  induction imports with
  | nil => rfl
  | cons op rest ih =>
    obtain ⟨hop, hrest⟩ := Bool.and_eq_true_iff.1 h
    have hcourse : op.course sheet false = .doing false op.importActs := by
      cases op with
      | importStatement statement => rfl
      | importType type => rfl
      | importField f => rfl
      | _ => cases hop
    rw [List.cons_append, courseAll, Course.andThen_of_ok (by rw [hcourse]; rfl), hcourse]
    change _ ++ (courseAll sheet (rest ++ .closeImports :: body) false).acts = _
    rw [ih hrest, List.flatMap_cons, List.append_assoc]
    rfl

theorem isImport_importActs {op : Op} : ∀ a ∈ op.importActs, a.isImport = true := by
  cases op with
  | importStatement _ | importType _ => exact List.forall_mem_singleton.2 rfl
  | importField f =>
    refine List.forall_mem_cons.2 ⟨rfl, List.forall_mem_map.2 fun _ _ => rfl⟩
  | _ => exact nofun

/-- Asking for imports writes nothing. -/
theorem perform_of_isImport {d : Draft} {acts : List Act} (h : ∀ a ∈ acts, a.isImport = true) :
    d.perform acts = d := by
  induction acts with
  | nil => rfl
  | cons a rest ih =>
    obtain ⟨ha, hrest⟩ := List.forall_mem_cons.1 h
    have hact : d.act a = d := by
      cases a with
      | addStatement _ | addType _ => rfl
      | _ => cases ha
    rw [Draft.perform, List.foldl_cons, hact]
    exact ih hrest

/-- The body of a file is the layout of what the code of its body does. -/
theorem body_runAll (himports : imports.all isImport = true) :
    (runAll (imports ++ .closeImports :: body) sheet.fresh).2.body.toList =
      layout sheet.settings.indent.toList false
        (({} : Draft).perform (courseAll sheet body true).acts).strokes := by
  have hrun := follows_runAll (imports ++ .closeImports :: body) sheet.fresh
  have hsettings : (runAll (imports ++ .closeImports :: body) sheet.fresh).2.settings =
      sheet.settings := congrArg Sheet.settings hrun.sheet
  have hacts : ({} : Draft).perform (courseAll sheet (imports ++ .closeImports :: body) false).acts =
      ({} : Draft).perform (courseAll sheet body true).acts := by
    rw [acts_imports_body himports, Draft.perform, List.foldl_append]
    refine congrArg (fun d => Draft.perform d _) (perform_of_isImport fun a ha => ?_)
    obtain ⟨op, -, ha⟩ := List.mem_flatMap.1 ha
    exact isImport_importActs a ha
  rw [(hrun.lays sheet.lays_fresh).body, hsettings]
  exact congrArg (fun d => layout sheet.settings.indent.toList false d.strokes) hacts

theorem isImport_ofNamed {name : String} {standIn : Option String} :
    ∀ a ∈ (Course.ofNamed sheet name standIn closed).acts, a.isImport = false := by
  unfold Course.ofNamed
  rcases sheet.schema.get? name with _ | (_ | _ | d | _ | _ | _) <;>
    simp only [Course.doing, List.mem_singleton, forall_eq, Act.isImport]
  · simp
  · cases standIn with
    | some s => simp
    | none =>
      simp only [List.mem_append, List.mem_cons, List.mem_flatMap, List.not_mem_nil, or_false]
      rintro a ((rfl | ⟨m, _, rfl | rfl⟩) | rfl) <;> rfl
  · split <;> simp

theorem isImport_ofRef {standIn : Option String} {type : TypeRef} :
    ∀ a ∈ (Course.ofRef sheet standIn type closed).acts, a.isImport = false := by
  induction type generalizing closed with
  | named name => exact isImport_ofNamed
  | nonNull inner ih => exact ih
  | list item ih =>
    rw [Course.ofRef]
    refine Course.forall_acts_andThen (by simp [Course.doing, Act.isImport]) fun closed =>
      Course.forall_acts_andThen ih fun closed => ?_
    cases item.isNullable <;> simp [Course.doing, Act.isImport]

mutual

/-- What writes the body asks for no imports. -/
theorem isImport_course {closed : Bool} : (op : Op) → op.isBody = true →
    ∀ a ∈ (op.course sheet closed).acts, a.isImport = false
  | text _, _ | enter _ _, _ | leave, _ | leaveWith _, _ | separator _, _ | literal _, _
  | readonlyWord, _ => by simp [course, Course.doing, Act.isImport]
  | property _ type _, _ => by
    rw [course]
    refine Course.forall_acts_andThen ?_ fun closed => isImport_ofRef
    cases type.isNullable <;> simp [Course.doing, Act.isImport]
  | typeRef _ _, _ => isImport_ofRef
  | region _ _ inside, h => by
    have hinside : ∀ a ∈ (courseAll sheet inside closed).acts, a.isImport = false :=
      isImport_courseAll inside h
    simp only [course, List.mem_append, List.mem_cons, List.not_mem_nil, or_false]
    rintro a ((rfl | ha) | rfl)
    · rfl
    · exact hinside a ha
    · rfl

theorem isImport_courseAll {closed : Bool} : (ops : List Op) → isBodyAll ops = true →
    ∀ a ∈ (courseAll sheet ops closed).acts, a.isImport = false
  | [], _ => nofun
  | op :: rest, h =>
    have hboth := Bool.and_eq_true_iff.1 h
    Course.forall_acts_andThen (isImport_course op hboth.1) fun _ =>
      isImport_courseAll rest hboth.2

end

/-- The page of a file lists what the code before its body asks to import. -/
theorem lists_runAll (himports : imports.all isImport = true) (hbody : isBodyAll body = true)
    {p : Page} (hp : (runAll (imports ++ .closeImports :: body) sheet.fresh).2 = p) :
    p.Lists sheet (imports.flatMap importActs) := by
  have hacts : (courseAll sheet (imports ++ .closeImports :: body) false).acts = _ :=
    acts_imports_body himports
  have hrun : (runAll (imports ++ .closeImports :: body) sheet.fresh).2 =
      (sheet.fresh.perform (courseAll sheet (imports ++ .closeImports :: body) false).acts).under
        sheet.schema (courseAll sheet (imports ++ .closeImports :: body) false).closed :=
    congrArg Prod.snd runAll_eq
  rw [hacts, Page.perform_append] at hrun
  obtain ⟨hstatements, htypes⟩ := Page.imports_perform
    (p := sheet.fresh.perform (imports.flatMap importActs)) (isImport_courseAll body hbody)
  have hsame : p.statements = (sheet.fresh.perform (imports.flatMap importActs)).statements ∧
      p.importedTypes = (sheet.fresh.perform (imports.flatMap importActs)).importedTypes := by
    rw [← hp, hrun]
    exact ⟨hstatements, htypes⟩
  constructor
  case sheet =>
    rw [← hp, (follows_runAll _ _).sheet]
    rfl
  case nodup =>
    rw [hsame.2]
    exact Page.nodup_importedTypes_perform List.nodup_nil
  case statements =>
    intro line
    rw [hsame.1, Page.mem_statements_perform]
    simp [Sheet.fresh]
  case types =>
    intro n
    rw [hsame.2, Page.mem_importedTypes_perform]
    simp [Sheet.fresh, Page.sheet]

end Op

end TypedQuery
