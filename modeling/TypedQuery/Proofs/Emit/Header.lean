-- SUMMARY: The lines before the body of a file are those of the requests that came in time.
import TypedQuery.Proofs.Emit.Imports
import TypedQuery.Proofs.Emit.Separators
import TypedQuery.Proofs.Lists
import Mathlib.Data.List.Induction

/-!
# Headers

What stands before the body of a file is settled by the requests for imports alone. `Sheet.leadingLines`
says what a list of requests comes to: the distinct statements in the order in which they were first asked
for, and then one line for each module, in the order of the first type from it. Requests count until the
imports are closed. After that they are refused, and the page stays as it is (`Op.replay_imports`).
-/
namespace TypedQuery

/-! ## Requests -/

namespace Act

/-- The line of the statement that an act asks for. -/
def statement? : Act → Option String
  | addStatement statement => some (Page.statementLine statement)
  | _ => none

/-- The name behind the type that an act asks for. -/
def typeName? : Act → Option String
  | addType type => some type.base
  | _ => none

theorem isImport_of_statement? {a : Act} {line : String} (h : a.statement? = some line) :
    a.isImport = true := by
  cases a <;> first | rfl | cases h

theorem isImport_of_typeName? {a : Act} {name : String} (h : a.typeName? = some name) :
    a.isImport = true := by
  cases a <;> first | rfl | cases h

end Act

namespace Sheet

/-- The statements that acts ask for, each where it is first asked for. -/
def statements (acts : List Act) : List String := (acts.filterMap Act.statement?).eraseDups

/-- The types that acts ask for and that have to be imported, each where it is first asked for. -/
def imported (sheet : Sheet) (acts : List Act) : List String :=
  ((acts.filterMap Act.typeName?).filter fun name => sheet.Imports name).eraseDups

/-- The module that a type is imported from. -/
def modulePath (sheet : Sheet) (name : String) : String := (sheet.fresh.modulePath? name).getD ""

/-- The lines that a file begins with if acts ask for imports: the statements, and one line for each module
with the types from it. -/
def leadingLines (sheet : Sheet) (acts : List Act) : List String :=
  let names := sheet.imported acts
  statements acts ++ (names.map sheet.modulePath).eraseDups.map fun module =>
    Page.importLine (module, names.filter (sheet.modulePath · = module))

/-- Only requests for imports matter. -/
theorem leadingLines_filter {sheet : Sheet} {acts : List Act} :
    sheet.leadingLines (acts.filter Act.isImport) = sheet.leadingLines acts := by
  have hfilter {f : Act → Option String} (h : ∀ a line, f a = some line → a.isImport = true) :
      (acts.filter Act.isImport).filterMap f = acts.filterMap f := by
    rw [List.filterMap_filter]
    refine List.filterMap_congr fun a _ => ?_
    split
    · rfl
    · next hno =>
      cases hfa : f a with
      | none => rfl
      | some line => exact absurd (h a line hfa) hno
  have hstatements := hfilter (f := Act.statement?) fun _ _ => Act.isImport_of_statement?
  have htypes := hfilter (f := Act.typeName?) fun _ _ => Act.isImport_of_typeName?
  simp only [leadingLines, statements, imported, hstatements, htypes]

end Sheet

/-! ## Pages -/

namespace Page

variable {p : Page} {acts : List Act} {module name : String} {names modules : List String}

theorem eraseDups_concat : (names ++ [name]).eraseDups = addNew names.eraseDups name := by
  rw [List.eraseDups_append, addNew]
  by_cases h : name ∈ names <;> simp [List.removeAll, List.eraseDups_cons, h]

/-- A page lists what acts ask for, each where it is first asked for. -/
theorem lists_perform (sheet : Sheet) (acts : List Act) :
    (sheet.fresh.perform acts).statements = Sheet.statements acts ∧
      (sheet.fresh.perform acts).importedTypes = sheet.imported acts := by
  -- From the last act on: what was asked for earlier keeps its place, and the last act can add one
  -- entry behind it.
  induction acts using List.reverseRecOn with
  | nil => exact ⟨rfl, rfl⟩
  | append_singleton acts a ih =>
    obtain ⟨hstatements, htypes⟩ := ih
    have hsheet : (sheet.fresh.perform acts).sheet = sheet := sheet_perform.1
    rw [perform_append]
    change ((sheet.fresh.perform acts).act a).statements = _ ∧
      ((sheet.fresh.perform acts).act a).importedTypes = _
    cases a with
    | addStatement statement =>
      refine ⟨?_, ?_⟩
      · rw [statements_act, hstatements]
        simp [Sheet.statements, Act.statement?, eraseDups_concat]
      · change (sheet.fresh.perform acts).importedTypes = _
        rw [htypes]
        simp [Sheet.imported, List.filterMap_cons, Act.typeName?]
    | addType type =>
      refine ⟨?_, ?_⟩
      · change ((sheet.fresh.perform acts).addType type).statements = _
        rw [statements_addType, hstatements]
        simp [Sheet.statements, List.filterMap_cons, Act.statement?]
      · change ((sheet.fresh.perform acts).addType type).importedTypes = _
        rw [importedTypes_addType, hsheet, htypes]
        by_cases h : sheet.Imports type.base <;>
          simp [Sheet.imported, Act.typeName?, eraseDups_concat, h]
    | _ =>
      rw [(imports_act rfl).1, (imports_act rfl).2, hstatements, htypes]
      simp [Sheet.statements, Sheet.imported, List.filterMap_cons, Act.statement?, Act.typeName?]

/-! ### Groups -/

/-- The group of a module is where the module is, or else at the end. -/
theorem addToGroup_map {members : String → List String} (hnodup : modules.Nodup)
    (hnew : module ∉ modules → members module = []) :
    addToGroup (modules.map fun m => (m, members m)) module name =
      (addNew modules module).map fun m =>
        (m, if m = module then members m ++ [name] else members m) := by
  induction modules with
  | nil => simp [addToGroup, addNew, hnew]
  | cons first rest ih =>
    obtain ⟨hfirst, hrest⟩ := List.nodup_cons.1 hnodup
    rw [List.map_cons, addToGroup]
    by_cases h : first = module
    · subst h
      have hothers (m : String) (hm : m ∈ rest) : m ≠ first := fun heq => hfirst (heq ▸ hm)
      simp only [if_true, addNew, List.mem_cons_self, List.map_cons]
      congr 1
      exact List.map_congr_left fun m hm => by rw [if_neg (hothers m hm)]
    · rw [if_neg h, ih hrest fun hmodule => hnew (by simp [Ne.symm h, hmodule])]
      simp only [addNew, List.mem_cons, Ne.symm h, false_or]
      split <;> simp [h]

/-- Names that are put into the groups of their modules one after the other. -/
theorem foldl_addToGroup {key : String → String} (names : List String) :
    names.foldl (fun groups name => addToGroup groups (key name) name) [] =
      (names.map key).eraseDups.map fun module => (module, names.filter (key · = module)) := by
  induction names using List.reverseRecOn with
  | nil => rfl
  | append_singleton names name ih =>
    have hnew (h : key name ∉ (names.map key).eraseDups) :
        names.filter (key · = key name) = [] := by
      rw [List.filter_eq_nil_iff]
      intro other hother hkey
      refine h (List.mem_eraseDups.2 (List.mem_map.2 ⟨other, hother, of_decide_eq_true hkey⟩))
    rw [List.foldl_append, ih, List.foldl_cons, List.foldl_nil,
      addToGroup_map (nodup_eraseDups _) hnew, List.map_append, List.map_singleton, eraseDups_concat]
    -- The last name joins the group of its module, and the others stay as they are.
    refine List.map_congr_left fun module _ => ?_
    by_cases h : key name = module
    · simp [h]
    · simp [h, Ne.symm h]

theorem modulePath?_eq (h : p.schema.isDefinition name = true) :
    p.modulePath? name = some (p.sheet.modulePath name) := by
  have hsome : (p.modulePath? name).isSome = true := isSome_modulePath?.trans h
  obtain ⟨module, hmodule⟩ := Option.isSome_iff_exists.1 hsome
  have hpath : p.sheet.modulePath name = (p.modulePath? name).getD "" := rfl
  rw [hpath, hmodule, Option.getD_some]

theorem importGroups_eq (h : ∀ name ∈ p.importedTypes, p.schema.isDefinition name = true) :
    p.importGroups = (p.importedTypes.map p.sheet.modulePath).eraseDups.map fun module =>
      (module, p.importedTypes.filter (p.sheet.modulePath · = module)) := by
  rw [← foldl_addToGroup]
  refine List.foldl_ext _ _ _ fun groups name hname => ?_
  rw [modulePath?_eq (h name hname)]

/-- The lines before the body of a page are those that acts ask for. -/
theorem importLines_perform {sheet : Sheet} (hsheet : p.sheet = sheet)
    (hstatements : p.statements = (sheet.fresh.perform acts).statements)
    (htypes : p.importedTypes = (sheet.fresh.perform acts).importedTypes) :
    p.importLines = sheet.leadingLines acts := by
  obtain ⟨hasked, himported⟩ := lists_perform sheet acts
  have hschema : p.schema = sheet.schema := congrArg Sheet.schema hsheet
  have hdefined : ∀ name ∈ p.importedTypes, p.schema.isDefinition name = true := by
    intro name hname
    rw [htypes, himported, Sheet.imported, List.mem_eraseDups, List.mem_filter] at hname
    rw [hschema]
    exact (of_decide_eq_true hname.2).1
  rw [importLines, importGroups_eq hdefined, hsheet, hstatements, htypes, hasked, himported,
    List.map_map]
  rfl

/-- A sink that keeps bytes has the text of the file behind what it held. -/
theorem finish_buffer (bytes : ByteArray) :
    (p.finish .buffer).run bytes = ((), bytes ++ p.content.toUTF8) := by
  have happend : (p.header ++ p.body).toUTF8 = p.header.toUTF8 ++ p.body.toUTF8 :=
    String.toByteArray_append
  rw [content, happend, ← ByteArray.append_assoc]
  rfl

end Page

/-! ## Operations -/

namespace Op

variable {sheet : Sheet} {closed : Bool} {p : Page} {op : Op} {ops : List Op}

/-- The operation closes the imports. -/
def closes : Op → Bool
  | closeImports => true
  | _ => false

theorem course_of_isImport (h : op.isImport = true) :
    op.course sheet closed = .ofImport op.importActs closed := by
  cases op <;> first | rfl | cases h

theorem run_of_closed (h : op.isImport = true) (hp : p.importsClosed = true) :
    op.run p = (.error .importsClosed, p) := by
  obtain ⟨hresult, hafter⟩ : Writing.Leads (op.course p.sheet p.importsClosed) p _ _ := follows_run op p
  rw [course_of_isImport h, hp] at hresult hafter
  refine Prod.ext ?_ ?_
  · change (op.run p).1 = .error .importsClosed
    cases hrun : (op.run p).1 with
    | error failure =>
      rw [hrun] at hresult
      exact congrArg Except.error (Except.error.inj hresult)
    | ok result =>
      rw [hrun] at hresult
      cases hresult
  · rw [hafter]
    change p.under p.schema true = p
    rw [← hp]
    rfl

theorem isOk_run_of_open (h : op.isImport = true) (hp : p.importsClosed = false) :
    ∃ result, (op.run p).1 = .ok result := by
  obtain ⟨hresult, -⟩ : Writing.Leads (op.course p.sheet p.importsClosed) p _ _ := follows_run op p
  rw [course_of_isImport h, hp] at hresult
  cases hrun : (op.run p).1 with
  | ok result => exact ⟨result, rfl⟩
  | error failure =>
    rw [hrun] at hresult
    cases hresult

mutual

/-- Nothing opens the imports again. -/
theorem closed_course : (op : Op) → (op.course sheet true).closed = true
  | text _ | enter _ _ | leave | leaveWith _ | separator _ | literal _ | importStatement _
  | importType _ | importField _ | closeImports | readonlyWord => rfl
  | property name type standIn => (checks_course (property name type standIn) rfl).closed
  | typeRef type standIn => (checks_course (typeRef type standIn) rfl).closed
  | region _ _ inside => closed_courseAll inside

theorem closed_courseAll : (ops : List Op) → (courseAll sheet ops true).closed = true
  | [] => rfl
  | op :: rest => by
    rw [courseAll]
    have hop : (op.course sheet true).closed = true := closed_course op
    cases h : (op.course sheet true).result with
    | error failure =>
      rw [Course.andThen_of_error h]
      exact hop
    | ok _ =>
      rw [Course.andThen_of_ok h, hop]
      exact closed_courseAll rest

end

theorem closedAfter_true : closedAfter sheet true ops = true := by
  induction ops with
  | nil => rfl
  | cons op rest ih => rw [closedAfter, closed_course, ih]

theorem closedAfter_of_closes (h : ∃ op ∈ ops, op.closes = true) :
    closedAfter sheet closed ops = true := by
  induction ops generalizing closed with
  | nil => simp at h
  | cons op rest ih =>
    rw [closedAfter]
    by_cases hop : op.closes = true
    · cases op with
      | closeImports => exact closedAfter_true
      | _ => cases hop
    · obtain ⟨other, hother, hcloses⟩ := h
      rcases List.mem_cons.1 hother with rfl | hrest
      · exact absurd hcloses hop
      · exact ih ⟨other, hrest, hcloses⟩

/-- A request for imports, the closing of the imports, or an operation on the body. -/
def IsCall (op : Op) : Prop := op.isImport = true ∨ op.closes = true ∨ op.isBody = true

instance : DecidablePred IsCall :=
  fun op => inferInstanceAs (Decidable (op.isImport = true ∨ op.closes = true ∨ op.isBody = true))

theorem closedAfter_of_open (hcalls : ∀ op ∈ ops, op.IsCall) (h : ∀ op ∈ ops, op.closes = false) :
    closedAfter sheet false ops = false := by
  induction ops with
  | nil => rfl
  | cons op rest ih =>
    obtain ⟨hop, hrest⟩ := List.forall_mem_cons.1 hcalls
    obtain ⟨hopen, hrestOpen⟩ := List.forall_mem_cons.1 h
    have hcourse : (op.course sheet false).closed = false := by
      rcases hop with himport | hcloses | hbody
      · rw [course_of_isImport himport]
        rfl
      · rw [hopen] at hcloses
        cases hcloses
      · exact (checks_course op hbody).closed
    rw [closedAfter, hcourse]
    exact ih hrest hrestOpen

/-- The requests for imports that are made before the imports are closed. -/
def requests (ops : List Op) : List Act := (ops.takeWhile fun op => !op.closes).flatMap importActs

theorem requests_cons {rest : List Op} (h : op.closes = false) :
    requests (op :: rest) = op.importActs ++ requests rest := by
  rw [requests, List.takeWhile_cons_of_pos (by rw [h]; rfl), List.flatMap_cons]
  rfl

theorem filter_importActs : op.importActs.filter Act.isImport = op.importActs := by
  rw [List.filter_eq_self]
  cases op with
  | importField f => simp [importActs, Act.isImport]
  | _ => simp [importActs, Act.isImport]

/-- Of calls, the acts that ask for imports are the requests. -/
theorem filter_actsOfAll (h : ∀ op ∈ ops, op.IsCall) :
    (actsOfAll sheet closed ops).filter Act.isImport = if closed then [] else requests ops := by
  induction ops generalizing closed with
  | nil => cases closed <;> rfl
  | cons op rest ih =>
    obtain ⟨hop, hrest⟩ := List.forall_mem_cons.1 h
    rw [actsOfAll, List.filter_append, ih hrest]
    -- A request does what it asks for while the imports are open, and nothing afterwards;
    -- operations on the body ask for nothing.
    rcases hop with himport | hcloses | hbody
    · have hopen : op.closes = false := by cases op <;> first | rfl | cases himport
      rw [course_of_isImport himport]
      cases closed with
      | true => rfl
      | false =>
        rw [requests_cons hopen]
        exact congrArg (· ++ requests rest) filter_importActs
    · cases op with
      | closeImports => cases closed <;> rfl
      | _ => cases hcloses
    · have hopen : op.closes = false := by cases op <;> first | rfl | cases hbody
      have hno : op.importActs = [] := by cases op <;> first | rfl | cases hbody
      have hnone : (op.course sheet closed).acts.filter Act.isImport = [] := by
        rw [List.filter_eq_nil_iff]
        intro a ha
        rw [isImport_course op hbody a ha]
        exact Bool.false_ne_true
      rw [hnone, (checks_course op hbody).closed, requests_cons hopen, hno]
      rfl

/-- A file next to the folder of the enums and the one of the inputs. -/
def staff : Sheet where
  schema := {
    types := [.enum ⟨"Gender", ["F", "M"]⟩, .input ⟨"Employee", []⟩, .enum ⟨"Role", ["CHIEF"]⟩]
    roots := .unset
    distinct := by decide }
  settings := {}
  location := ⟨.fetchers, "Staff", none⟩

/-- Imports that are asked for between writes, the last of them too late. -/
def staffCalls : List Op := [
  .importType (.nonNull (.named "Gender")), .importStatement "import a ", .text "body",
  .importType (.list (.named "Employee")), .importType (.named "Role"), .importStatement "import a;",
  .importType (.named "Gender"), .closeImports, .importStatement "import b"]

end Op

end TypedQuery
