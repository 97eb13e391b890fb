-- SUMMARY: Operations that write the same strokes wherever they are carried out at some depth.
import TypedQuery.Proofs.Emit.Courses

/-!
# What operations write

Operations that refer to no types cannot fail, and what they write depends on the depth only, as long
as no separator comes first. `Op.Writes` says so of a list of operations and its strokes. It goes along
`++`, and from the inside of a region to the region.
-/
namespace TypedQuery

namespace Draft

variable {d : Draft} {a b : List Stroke}

@[simp] theorem length_add : (d.add a).regions.length = d.regions.length := by
  unfold add
  split
  · rfl
  · exact Page.length_markWritten

@[simp] theorem strokes_add : (d.add a).strokes = d.strokes ++ a := by
  unfold add
  split
  · next h => simp [h]
  · rfl

theorem add_add : (d.add a).add b = d.add (a ++ b) := by
  by_cases ha : a = []
  · simp [add, ha]
  by_cases hb : b = []
  · simp [add, hb]
  simp [add, ha, hb]

/-- In a region that has been written into, adding strokes changes nothing but the strokes. -/
theorem add_written {kind : RegionKind} {multiline : Bool} {outer : List Region} :
    (⟨⟨kind, multiline, true⟩ :: outer, b⟩ : Draft).add a =
      ⟨⟨kind, multiline, true⟩ :: outer, b ++ a⟩ := by
  by_cases ha : a = [] <;> simp [add, ha, Page.markWritten]

theorem perform_append {acts others : List Act} :
    d.perform (acts ++ others) = (d.perform acts).perform others :=
  List.foldl_append

end Draft

/-- The strokes of a region around those that are written inside: a region in lines begins with a line
break and ends with one, if there is none yet. -/
def RegionKind.around (kind : RegionKind) (multiline : Bool) (depth : Nat) (inside : List Stroke) :
    List Stroke :=
  Stroke.ofText depth (kind.opening ++ if multiline then "\n" else "") ++ inside ++
    Stroke.ofText depth
      ((if multiline && !beginsAfter true inside then "\n" else "") ++ kind.closing)

namespace Draft

variable {d : Draft} {a : List Stroke} {kind : RegionKind} {multiline : Bool}

/-- Leaving a region in which strokes were added adds them to the draft around it. -/
theorem leave_add {outer : List Region} {strokes : List Stroke} :
    ((⟨⟨kind, multiline, false⟩ :: outer, strokes⟩ : Draft).add a).act (.leave "") =
      ((⟨outer, strokes⟩ : Draft).add a).write
        ((if multiline && !((⟨outer, strokes⟩ : Draft).add a).endsLine then "\n" else "") ++
          kind.closing) := by
  by_cases ha : a = [] <;> simp [add, ha, act, Page.markWritten, endsLine]

/-- Behind the opening of a region in lines, a line begins. -/
theorem endsLine_opened :
    ((d.write (kind.opening ++ "\n")).add a).endsLine = beginsAfter true a := by
  rw [endsLine, strokes_add, write, strokes_add, beginsAfter_append, beginsAfter_append,
    beginsAfter_ofText]
  simp [pendingAfter_append, pendingAfter]

/-- A region adds what is added inside, with its delimiters around it. -/
theorem perform_region {acts : List Act}
    (h : ∀ outer strokes, outer.length = d.regions.length →
      (⟨⟨kind, multiline, false⟩ :: outer, strokes⟩ : Draft).perform acts =
        (⟨⟨kind, multiline, false⟩ :: outer, strokes⟩ : Draft).add a) :
    d.perform (.enter kind multiline :: acts ++ [.leave ""]) =
      d.add (kind.around multiline d.regions.length a) := by
  -- The draft behind the opening is one of those that the hypothesis is about: it has one more
  -- region, which is new.
  have hinside := h (d.write (kind.opening ++ if multiline then "\n" else "")).regions
    (d.write (kind.opening ++ if multiline then "\n" else "")).strokes length_add
  have hperform : d.perform (.enter kind multiline :: acts ++ [.leave ""]) =
      ((d.act (.enter kind multiline)).perform acts).act (.leave "") :=
    perform_append
  have henter : (d.act (.enter kind multiline)).perform acts = _ := hinside
  rw [hperform, henter, leave_add, RegionKind.around, ← add_add, ← add_add]
  change ((d.write _).add a).write _ = ((d.write _).add a).add _
  have hdepth : ((d.write (kind.opening ++ if multiline then "\n" else "")).add a).regions.length =
      d.regions.length := by
    rw [length_add, write, length_add]
  rw [write, hdepth]
  cases multiline with
  | false => rfl
  | true =>
    have hends : (((d.write (kind.opening ++ "\n")).add a).endsLine) = beginsAfter true a :=
      endsLine_opened
    simp only [Bool.true_and, if_true]
    rw [← hends]

end Draft

namespace Op

variable {sheet : Sheet} {depth : Nat} {d : Draft} {closed : Bool} {ops first second : List Op}
  {a b : List Stroke}

/-- The operations succeed on a draft, do nothing about imports, and add the strokes. -/
structure Adds (sheet : Sheet) (closed : Bool) (d : Draft) (ops : List Op) (strokes : List Stroke) :
    Prop where
  ok : (courseAll sheet ops closed).result = .ok ()
  same : (courseAll sheet ops closed).closed = closed
  body : ∀ act ∈ (courseAll sheet ops closed).acts, act.isImport = false
  draft : d.perform (courseAll sheet ops closed).acts = d.add strokes

namespace Adds

theorem nil : Adds sheet closed d [] [] :=
  ⟨rfl, rfl, (fun _ h => nomatch h), rfl⟩

/-- An operation that comes down to a text. -/
theorem ofCourse {op : Op} {s : String} (h : op.course sheet closed = .doing closed [.text s]) :
    Adds sheet closed d [op] (Stroke.ofText d.regions.length s) := by
  have hcourse : courseAll sheet [op] closed = .doing closed [.text s] := by
    rw [courseAll, h]
    rfl
  refine ⟨by rw [hcourse]; rfl, by rw [hcourse]; rfl, ?_, by rw [hcourse]; rfl⟩
  rw [hcourse]
  intro act hact
  rw [List.mem_singleton.1 hact]
  rfl

theorem append (ha : Adds sheet closed d first a) (hb : Adds sheet closed (d.add a) second b) :
    Adds sheet closed d (first ++ second) (a ++ b) := by
  have hcourse : courseAll sheet (first ++ second) closed = _ :=
    courseAll_append.trans (Course.andThen_of_ok ha.ok)
  rw [ha.same] at hcourse
  constructor
  · rw [hcourse]
    exact hb.ok
  · rw [hcourse]
    exact hb.same
  · rw [hcourse]
    intro act hact
    exact (List.mem_append.1 hact).elim (ha.body act) (hb.body act)
  · rw [hcourse, Draft.perform_append, ha.draft, hb.draft, Draft.add_add]

theorem region {kind : RegionKind} {multiline : Bool}
    (h : ∀ outer strokes, outer.length = d.regions.length →
      Adds sheet closed ⟨⟨kind, multiline, false⟩ :: outer, strokes⟩ ops a) :
    Adds sheet closed d [.region kind multiline ops]
      (kind.around multiline d.regions.length a) := by
  have hinside := h d.regions [] rfl
  have hcourse : courseAll sheet [.region kind multiline ops] closed =
      .doing closed (.enter kind multiline :: (courseAll sheet ops closed).acts ++ [.leave ""]) := by
    simp only [courseAll, course, Course.andThen, hinside.ok, hinside.same, Course.doing,
      List.append_nil]
  refine ⟨by rw [hcourse]; rfl, by rw [hcourse]; rfl, ?_, ?_⟩
  · rw [hcourse]
    intro act hact
    rcases List.mem_append.1 hact with hact | hact
    · rcases List.mem_cons.1 hact with rfl | hact
      · rfl
      · exact hinside.body act hact
    · rw [List.mem_singleton.1 hact]
      rfl
  · rw [hcourse]
    change d.perform (.enter kind multiline :: (courseAll sheet ops closed).acts ++ [.leave ""]) = _
    exact Draft.perform_region fun outer strokes houter => (h outer strokes houter).draft

end Adds

/-- The operations add the strokes wherever they are carried out at the depth. -/
def Writes (sheet : Sheet) (depth : Nat) (ops : List Op) (strokes : List Stroke) : Prop :=
  ∀ closed d, d.regions.length = depth → Adds sheet closed d ops strokes

namespace Writes

theorem nil : Writes sheet depth [] [] :=
  fun _ _ _ => .nil

theorem text {s : String} : Writes sheet depth [.text s] (Stroke.ofText depth s) := by
  rintro closed d rfl
  exact .ofCourse rfl

theorem append (ha : Writes sheet depth first a) (hb : Writes sheet depth second b) :
    Writes sheet depth (first ++ second) (a ++ b) := by
  intro closed d hdepth
  apply (ha closed d hdepth).append
  apply hb
  rw [Draft.length_add, hdepth]

/-- A text with more behind it. -/
theorem cons {s : String} (h : Writes sheet depth ops a) :
    Writes sheet depth (.text s :: ops) (Stroke.ofText depth s ++ a) :=
  text.append h

/-- A region, given what is added inside, with more behind it. -/
theorem ofInside {kind : RegionKind} {multiline : Bool} {behind : List Op}
    (hinside : ∀ closed outer strokes, outer.length = depth →
      Adds sheet closed ⟨⟨kind, multiline, false⟩ :: outer, strokes⟩ ops a)
    (hbehind : Writes sheet depth behind b) :
    Writes sheet depth (.region kind multiline ops :: behind)
      (kind.around multiline depth a ++ b) := by
  have hregion : Writes sheet depth [.region kind multiline ops]
      (kind.around multiline depth a) := by
    rintro closed d rfl
    exact .region (hinside closed)
  exact hregion.append hbehind

end Writes

/-! ## Lists in regions -/

section Separated

variable {α : Type} {items : List α} {text : α → String} {kind : RegionKind} {multiline : Bool}
  {outer : List Region} {strokes : List Stroke} {separator : String}

/-- Behind an item, a separator is written in front of a text. -/
theorem Adds.separated {s : String} :
    Adds sheet closed ⟨⟨kind, multiline, true⟩ :: outer, strokes⟩
      [.separator (some separator), .text s]
      (Stroke.ofText (outer.length + 1)
        (Region.separation ⟨kind, multiline, true⟩ (some separator) ++ s)) := by
  refine ⟨rfl, rfl, ?_, ?_⟩
  · simp [courseAll, course, Course.doing, Course.andThen, Act.isImport]
  · rw [Stroke.ofText_append, ← Draft.add_add]
    have hlength (a : List Stroke) :
        ((⟨⟨kind, multiline, true⟩ :: outer, strokes⟩ : Draft).add a).regions.length =
          outer.length + 1 :=
      Draft.length_add
    change (Draft.add _ _).write s = _
    rw [Draft.write, hlength]
    rfl

/-- In a region that has been written into, texts are added with a separator before each. -/
theorem Adds.separatedAll :
    Adds sheet closed ⟨⟨kind, multiline, true⟩ :: outer, strokes⟩
      (items.flatMap fun item => [.separator (some separator), .text (text item)])
      (items.flatMap fun item => Stroke.ofText (outer.length + 1)
        (Region.separation ⟨kind, multiline, true⟩ (some separator) ++ text item)) := by
  induction items generalizing strokes with
  | nil => exact .nil
  | cons item rest ih =>
    rw [List.flatMap_cons, List.flatMap_cons]
    apply separated.append
    rw [Draft.add_written]
    exact ih

/-- In a new region, texts are added behind an item with a separator between each two of them. -/
theorem Adds.list {first : Op} {s : String}
    (hfirst : first.course sheet closed = .doing closed [.text s]) (hs : s ≠ "") :
    Adds sheet closed ⟨⟨kind, multiline, false⟩ :: outer, strokes⟩
      (first :: items.flatMap fun item => [.separator (some separator), .text (text item)])
      (Stroke.ofText (outer.length + 1) s ++ items.flatMap fun item =>
        Stroke.ofText (outer.length + 1)
          (Region.separation ⟨kind, multiline, true⟩ (some separator) ++ text item)) := by
  have hwritten : (⟨⟨kind, multiline, false⟩ :: outer, strokes⟩ : Draft).add
      (Stroke.ofText (outer.length + 1) s) =
        ⟨⟨kind, multiline, true⟩ :: outer, strokes ++ Stroke.ofText (outer.length + 1) s⟩ := by
    rw [Draft.add, if_neg fun h => hs (Stroke.ofText_eq_nil_iff.1 h)]
    rfl
  apply (Adds.ofCourse hfirst).append
  exact hwritten ▸ Adds.separatedAll

end Separated

end Op

/-! ## Whole pages -/

namespace Page

variable {p : Page} {act : Act} {acts : List Act}

theorem imports_text {s : String} :
    (p.text s).statements = p.statements ∧ (p.text s).importedTypes = p.importedTypes := by
  unfold text
  split <;> exact ⟨rfl, rfl⟩

/-- An act on the body leaves the imports as they are. -/
theorem imports_act (h : act.isImport = false) :
    (p.act act).statements = p.statements ∧ (p.act act).importedTypes = p.importedTypes := by
  refine act_keeps
    (P := fun q => q.statements = p.statements ∧ q.importedTypes = p.importedTypes) h
    ⟨rfl, rfl⟩ ?_ (fun _ _ h => h) fun _ _ h => h
  exact fun _ _ h => ⟨imports_text.1.trans h.1, imports_text.2.trans h.2⟩

theorem imports_perform (h : ∀ act ∈ acts, act.isImport = false) :
    (p.perform acts).statements = p.statements ∧
      (p.perform acts).importedTypes = p.importedTypes := by
  induction acts generalizing p with
  | nil => exact ⟨rfl, rfl⟩
  | cons act rest ih =>
    obtain ⟨hstatements, htypes⟩ :=
      ih (p := p.act act) fun other hother => h other (List.mem_cons_of_mem _ hother)
    have hact := imports_act (p := p) (h act List.mem_cons_self)
    exact ⟨hstatements.trans hact.1, htypes.trans hact.2⟩

theorem header_eq_empty (hstatements : p.statements = []) (htypes : p.importedTypes = []) :
    p.header = "" := by
  rw [header, importGroups, hstatements, htypes]
  rfl

end Page

/-- A page without imports holds the layout of what is written. -/
theorem Op.Writes.content {sheet : Sheet} {ops : List Op} {strokes : List Stroke}
    (h : Writes sheet 0 ops strokes) :
    (runAll (.closeImports :: ops) sheet.fresh).1 = .ok () ∧
      (runAll (.closeImports :: ops) sheet.fresh).2.content.toList =
        layout sheet.settings.indent.toList false strokes := by
  obtain ⟨hok, _, hbody, hdraft⟩ := h true {} rfl
  -- The course of closing the imports has no acts.
  have hrun : runAll (.closeImports :: ops) sheet.fresh =
      ((courseAll sheet ops true).result,
        (sheet.fresh.perform (courseAll sheet ops true).acts).under sheet.schema
          (courseAll sheet ops true).closed) :=
    runAll_eq
  rw [hrun]
  refine ⟨hok, ?_⟩
  generalize (courseAll sheet ops true).closed = closed
  generalize (courseAll sheet ops true).acts = acts at hbody hdraft
  obtain ⟨hstatements, htypes⟩ := Page.imports_perform (p := sheet.fresh) hbody
  have hheader : ((sheet.fresh.perform acts).under sheet.schema closed).header = "" :=
    Page.header_eq_empty hstatements htypes
  have hlays : (sheet.fresh.perform acts).Lays (Draft.perform {} acts) := sheet.lays_fresh.perform
  have hsettings : (sheet.fresh.perform acts).settings = sheet.settings :=
    congrArg Sheet.settings Page.sheet_perform.1
  have hbodies := hlays.body
  rw [hdraft, Draft.strokes_add, hsettings] at hbodies
  rw [Page.content, hheader, String.empty_append]
  exact hbodies

end TypedQuery
