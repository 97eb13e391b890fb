-- SUMMARY: Writing that carries out operations which are fixed by the settings.
import TypedQuery.Proofs.Emit.Courses

/-!
# Scripts

The files that are generated are written by code, not by operations that are given as data. All of that
code is `scripted`, though: it carries out a list of operations that is fixed by the settings. What is
shown of lists of operations thereby holds of the files. The lemmas here turn code into its script, one
for each form that code has.
-/
namespace TypedQuery.Writing

/-- Carry out the operations that the settings ask for. -/
def scripted (script : Settings → List Op) : Writing Unit := fun p =>
  Op.runAll (script p.settings) p

theorem scripted_run {script : Settings → List Op} {p : Page} :
    scripted script p = Op.runAll (script p.settings) p :=
  rfl

theorem settings_runAll (ops : List Op) (p : Page) :
    (Op.runAll ops p).2.settings = p.settings :=
  congrArg Sheet.settings (Op.follows_runAll ops p).sheet

theorem runAll_append {before after : List Op} :
    Op.runAll (before ++ after) = (do Op.runAll before; Op.runAll after) := by
  induction before with
  | nil => exact (pure_bind _ _).symm
  | cons op rest ih => simp only [List.cons_append, Op.runAll, ih, bind_assoc]

theorem runAll_singleton {op : Op} {w : Writing Unit} (h : op.run = (do w; return none)) :
    Op.runAll [op] = w := by
  simp [Op.runAll, h]

variable {script first second : Settings → List Op}

theorem scripted_singleton {op : Op} {w : Writing Unit} (h : op.run = (do w; return none)) :
    w = scripted fun _ => [op] := by
  funext p
  rw [scripted, runAll_singleton h]

/-! ## Single operations -/

@[simp] theorem text_scripted {s : String} : text s = scripted fun _ => [.text s] :=
  scripted_singleton rfl

@[simp] theorem literal_scripted {s : String} : literal s = scripted fun _ => [.literal s] :=
  scripted_singleton rfl

@[simp] theorem enter_scripted {kind : RegionKind} {multiline : Bool} :
    enter kind multiline = scripted fun _ => [.enter kind multiline] :=
  scripted_singleton rfl

@[simp] theorem leave_scripted : leave = scripted fun _ => [.leave] :=
  scripted_singleton rfl

@[simp] theorem separator_scripted : separator = scripted fun _ => [.separator none] :=
  scripted_singleton rfl

@[simp] theorem separatorWith_scripted {s : String} :
    separatorWith s = scripted fun _ => [.separator (some s)] :=
  scripted_singleton rfl

@[simp] theorem typeRef_scripted {type : TypeRef} {standIn : Option String} :
    typeRef type standIn = scripted fun _ => [.typeRef type standIn] :=
  scripted_singleton rfl

@[simp] theorem property_scripted {name : String} {type : TypeRef} {standIn : Option String} :
    property name type standIn = scripted fun _ => [.property name type standIn] :=
  scripted_singleton rfl

@[simp] theorem importStatement_scripted {statement : String} :
    importStatement statement = scripted fun _ => [.importStatement statement] :=
  scripted_singleton rfl

@[simp] theorem importType_scripted {type : TypeRef} :
    importType type = scripted fun _ => [.importType type] :=
  scripted_singleton rfl

@[simp] theorem importField_scripted {f : FieldDef} :
    importField f = scripted fun _ => [.importField f] :=
  scripted_singleton rfl

@[simp] theorem closeImports_scripted : closeImports = scripted fun _ => [.closeImports] :=
  scripted_singleton rfl

/-! ## Forms of code -/

@[simp] theorem pure_scripted : (pure () : Writing Unit) = scripted fun _ => [] := rfl

@[simp] theorem bind_scripted :
    (do scripted first; scripted second) = scripted fun s => first s ++ second s := by
  funext p
  -- The second script reads the settings of another page, but no operation changes these.
  have hsettings := settings_runAll (first p.settings) p
  rw [scripted_run, runAll_append, bind_run, bind_run, scripted_run]
  rcases hrun : Op.runAll (first p.settings) p with ⟨_ | _, after⟩
  · rfl
  · rw [hrun] at hsettings
    exact scripted_run.trans (by rw [hsettings])

@[simp] theorem ite_scripted {c : Prop} [Decidable c] :
    (if c then scripted first else scripted second) =
      scripted fun s => if c then first s else second s := by
  split <;> rfl

@[simp] theorem forM_scripted {α : Type} {items : List α} {each : α → Settings → List Op} :
    (items.forM fun a => scripted (each a)) = scripted fun s => items.flatMap (each · s) := by
  induction items with
  | nil => rfl
  | cons a rest ih => simp only [List.forM, ih, bind_scripted, List.flatMap_cons]

@[simp] theorem option_forM_scripted {α : Type} {item : Option α} {each : α → Settings → List Op} :
    (item.forM fun a => scripted (each a)) = scripted fun s => item.toList.flatMap (each · s) := by
  cases item with
  | none => rfl
  | some a => simp [Option.forM]

@[simp] theorem region_scripted {kind : RegionKind} {multiline : Bool} :
    region kind multiline (scripted script) =
      scripted fun s => [.region kind multiline (script s)] := by
  funext p
  have hsettings : (p.enter kind multiline).settings = p.settings :=
    congrArg Sheet.settings (Page.sheet_act (a := .enter kind multiline)).1
  have hsame : region kind multiline (scripted script) p =
      region kind multiline (Op.runAll (script p.settings)) p := by
    unfold region scripted
    rw [hsettings]
  rw [hsame, scripted, runAll_singleton rfl]

/-- A text that depends on the settings. -/
theorem settings_scripted (word : Settings → String) (rest : Writing Unit) :
    (do text (word (← get).settings); rest) = (do scripted fun s => [.text (word s)]; rest) :=
  rfl

theorem ite_append {c : Prop} [Decidable c] {a b rest : List Op} :
    (if c then a else b) ++ rest = if c then a ++ rest else b ++ rest := by
  split <;> rfl

end TypedQuery.Writing
