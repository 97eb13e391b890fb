-- SUMMARY: A page holds the layout of what was asked for: acts keep page and draft together.
import TypedQuery.Proofs.Emit.Strokes

/-!
# Indentation

A page indents late: a line break only notes that a line begins, and the indentation is written with
the next character, at the depth that there is by then. `Page.Lays` ties a page to the draft of what was
asked for, and `Page.Lays.perform` says that acts keep that tie: whatever is done, the page holds the
layout of its draft.
-/
namespace TypedQuery

/-! ## Layout -/

variable {unit : List Char} {begins : Bool} {a b : List Stroke}

theorem layout_append :
    layout unit begins (a ++ b) = layout unit begins a ++ layout unit (beginsAfter begins a) b := by
  induction a generalizing begins with
  | nil => rfl
  | cons stroke rest ih => simp [layout, beginsAfter, ih]

theorem beginsAfter_append : beginsAfter begins (a ++ b) = beginsAfter (beginsAfter begins a) b := by
  induction a generalizing begins with
  | nil => rfl
  | cons stroke rest ih => exact ih

theorem layout_ofText {depth : Nat} {s : String} :
    layout unit begins (Stroke.ofText depth s) =
      indentLines (List.replicate depth unit).flatten begins s.toList := by
  unfold Stroke.ofText
  induction s.toList generalizing begins with
  | nil => rfl
  | cons c rest ih =>
    by_cases h : c = '\n' <;> cases begins <;> simp [layout, indentLines, h, ih]

theorem beginsAfter_ofText {depth : Nat} {s : String} :
    beginsAfter begins (Stroke.ofText depth s) = pendingAfter begins s.toList := by
  unfold Stroke.ofText
  induction s.toList generalizing begins with
  | nil => rfl
  | cons c rest ih => exact ih

theorem Stroke.ofText_append {depth : Nat} {s t : String} :
    Stroke.ofText depth (s ++ t) = Stroke.ofText depth s ++ Stroke.ofText depth t := by
  simp [Stroke.ofText]

theorem Stroke.ofText_eq_nil_iff {depth : Nat} {s : String} :
    Stroke.ofText depth s = [] ↔ s = "" := by
  simp [Stroke.ofText]

/-! ## Texts -/

namespace Page

variable {p : Page} {s t : String}

@[simp] theorem length_markWritten {regions : List Region} :
    (markWritten regions).length = regions.length := by
  cases regions <;> rfl

@[simp] theorem markWritten_markWritten {regions : List Region} :
    markWritten (markWritten regions) = markWritten regions := by
  cases regions <;> rfl

@[simp] theorem text_empty : p.text "" = p := rfl

@[simp] theorem sheet_text : (p.text s).sheet = p.sheet := by
  unfold text
  split <;> rfl

@[simp] theorem importsClosed_text : (p.text s).importsClosed = p.importsClosed := by
  unfold text
  split <;> rfl

/-- Two texts in a row are one. -/
theorem text_text : (p.text s).text t = p.text (s ++ t) := by
  by_cases hs : s = ""
  · simp [hs]
  by_cases ht : t = ""
  · simp [ht]
  have happend : s ++ t ≠ "" := by simp [hs]
  simp only [text, String.isEmpty_iff, hs, ht, happend, if_false, String.toList_append,
    indentLines_append, pendingAfter_append, indentation, length_markWritten,
    markWritten_markWritten, String.ofList_append, String.append_assoc]

/-- A text that is cut into pieces. -/
theorem foldl_text {pieces : List String} :
    pieces.foldl (fun p s => p.text s) p = p.text (String.join pieces) := by
  induction pieces generalizing p with
  | nil => rfl
  | cons s rest ih => rw [List.foldl_cons, ih, text_text, String.join_cons]

theorem enter_eq {kind : RegionKind} {multiline : Bool} :
    p.enter kind multiline =
      let opened := p.text (kind.opening ++ if multiline then "\n" else "")
      { opened with regions := ⟨kind, multiline, false⟩ :: opened.regions } := by
  cases multiline <;> simp [enter, text_text]

theorem leaveWith_eq {r : Region} {outer : List Region} (h : p.regions = r :: outer) :
    p.leaveWith s =
      ({ p with regions := if r.written then markWritten outer else outer }).text
        ((if r.multiline && !p.pending then "\n" else "") ++ r.kind.closing ++ s) := by
  simp only [leaveWith, h]
  split <;> simp [text_text]

theorem separate_eq {r : Region} {outer : List Region} {separator : Option String}
    (h : p.regions = r :: outer) :
    p.separate separator = if r.written then p.text (r.separation separator) else p := by
  simp only [separate, h, Region.separation]
  cases r.written <;> cases r.multiline <;> simp [text_text]
  split <;> rfl

end Page

/-! ## Pages and drafts -/

/-- The page holds what the draft asks for, in the layout of its settings. -/
structure Page.Lays (p : Page) (d : Draft) : Prop where
  regions : p.regions = d.regions
  pending : p.pending = d.endsLine
  body : p.body.toList = layout p.settings.indent.toList false d.strokes

theorem Sheet.lays_fresh {sheet : Sheet} : sheet.fresh.Lays {} :=
  ⟨rfl, rfl, rfl⟩

namespace Page.Lays

variable {p : Page} {d : Draft} {s : String}

theorem text (h : p.Lays d) : (p.text s).Lays (d.write s) := by
  -- An empty text is not written: it leaves the notes of the regions as they are.
  by_cases hs : s = ""
  · simpa [Draft.write, Draft.add, Stroke.ofText, hs] using h
  have hstrokes : Stroke.ofText d.regions.length s ≠ [] := fun h =>
    hs (Stroke.ofText_eq_nil_iff.1 h)
  have hwrite : d.write s =
      ⟨markWritten d.regions, d.strokes ++ Stroke.ofText d.regions.length s⟩ := by
    rw [Draft.write, Draft.add, if_neg hstrokes]
  rw [hwrite]
  constructor
  · rw [regions_text hs, h.regions]
  · rw [pending_text, h.pending, Draft.endsLine, Draft.endsLine, beginsAfter_append,
      beginsAfter_ofText]
  · have hsettings : (p.text s).settings = p.settings := congrArg Sheet.settings sheet_text
    rw [body_text, hsettings, layout_append, layout_ofText, ← h.body, h.pending, Draft.endsLine,
      indentation, h.regions]

theorem withRegions (h : p.Lays d) {regions : List Region} :
    ({ p with regions }).Lays { d with regions } :=
  ⟨rfl, h.pending, h.body⟩

theorem enter (h : p.Lays d) {kind : RegionKind} {multiline : Bool} :
    (p.enter kind multiline).Lays (d.act (.enter kind multiline)) := by
  rw [enter_eq]
  have hopened := h.text (s := kind.opening ++ if multiline then "\n" else "")
  simp only [Draft.act, ← hopened.regions]
  exact hopened.withRegions

theorem leaveWith (h : p.Lays d) : (p.leaveWith s).Lays (d.act (.leave s)) := by
  cases hregions : p.regions with
  | nil =>
    have hsame : d.act (.leave s) = d := by simp [Draft.act, ← h.regions, hregions]
    simp only [hsame, Page.leaveWith, hregions]
    exact ⟨hregions ▸ h.regions, h.pending, h.body⟩
  | cons r outer =>
    rw [leaveWith_eq hregions]
    simp only [Draft.act, ← h.regions, hregions, ← h.pending]
    exact h.withRegions.text

theorem separate (h : p.Lays d) {separator : Option String} :
    (p.separate separator).Lays (d.act (.separate separator)) := by
  cases hregions : p.regions with
  | nil =>
    have hsame : d.act (.separate separator) = d := by simp [Draft.act, ← h.regions, hregions]
    simpa only [hsame, Page.separate, hregions] using h
  | cons r outer =>
    rw [separate_eq hregions]
    simp only [Draft.act, ← h.regions, hregions]
    split
    · exact h.text
    · exact h

end Page.Lays

/-! ## Acts on pages -/

namespace Page

variable {p : Page} {d : Draft} {a : Act} {acts : List Act}

/-- Do one act on a page. -/
def act (p : Page) : Act → Page
  | .text s => p.text s
  | .enter kind multiline => p.enter kind multiline
  | .leave suffix => p.leaveWith suffix
  | .separate separator => p.separate separator
  | .addStatement statement => p.addStatement statement
  | .addType type => p.addType type

/-- Do several acts on a page. -/
def perform (p : Page) (acts : List Act) : Page := acts.foldl act p

theorem perform_append {others : List Act} :
    p.perform (acts ++ others) = (p.perform acts).perform others :=
  List.foldl_append

theorem Lays.act (h : p.Lays d) : (p.act a).Lays (d.act a) := by
  cases a with
  | text s => exact h.text
  | enter kind multiline => exact h.enter
  | leave suffix => exact h.leaveWith
  | separate separator => exact h.separate
  | addStatement statement => exact ⟨h.regions, h.pending, h.body⟩
  | addType type =>
    rw [Page.act, addType]
    split
    · exact ⟨h.regions, h.pending, h.body⟩
    · exact h

/-- What is done to a page and to its draft keeps them together. -/
theorem Lays.perform (h : p.Lays d) : (p.perform acts).Lays (d.perform acts) := by
  induction acts generalizing p d with
  | nil => exact h
  | cons a rest ih => exact ih h.act

/-- An act on the body writes texts, changes the open regions, and counts what is left though it is not
open. What these three keep, the act keeps. -/
theorem act_keeps {P : Page → Prop} (ha : a.isImport = false) (hp : P p)
    (htext : ∀ q s, P q → P (q.text s)) (hregions : ∀ q regions, P q → P { q with regions })
    (hstray : ∀ q strayLeaves, P q → P { q with strayLeaves }) : P (p.act a) := by
  cases a with
  | text s => exact htext p s hp
  | enter kind multiline =>
    rw [act, enter_eq]
    exact hregions _ _ (htext p _ hp)
  | leave suffix =>
    cases h : p.regions with
    | nil =>
      have hleft : p.leaveWith suffix = { p with strayLeaves := p.strayLeaves + 1 } := by
        simp only [leaveWith, h]
      rw [act, hleft]
      exact hstray p _ hp
    | cons r outer =>
      rw [act, leaveWith_eq h]
      exact htext _ _ (hregions p _ hp)
  | separate separator =>
    cases h : p.regions with
    | nil =>
      rw [act, Page.separate, h]
      exact hp
    | cons r outer =>
      rw [act, separate_eq h]
      split
      · exact htext p _ hp
      · exact hp
  | addStatement statement => cases ha
  | addType type => cases ha

/-- Acts change neither the sheet nor whether the imports are closed. -/
theorem sheet_act : (p.act a).sheet = p.sheet ∧ (p.act a).importsClosed = p.importsClosed := by
  cases ha : a.isImport with
  | false =>
    refine act_keeps (P := fun q => q.sheet = p.sheet ∧ q.importsClosed = p.importsClosed) ha
      ⟨rfl, rfl⟩ ?_ (fun _ _ h => h) fun _ _ h => h
    exact fun _ _ h => ⟨sheet_text.trans h.1, importsClosed_text.trans h.2⟩
  | true =>
    cases a with
    | addStatement statement => exact ⟨rfl, rfl⟩
    | addType type =>
      rw [act, addType]
      split <;> exact ⟨rfl, rfl⟩
    | _ => cases ha

theorem sheet_perform :
    (p.perform acts).sheet = p.sheet ∧ (p.perform acts).importsClosed = p.importsClosed := by
  induction acts generalizing p with
  | nil => exact ⟨rfl, rfl⟩
  | cons a rest ih =>
    obtain ⟨hsheet, hclosed⟩ := ih (p := p.act a)
    exact ⟨hsheet.trans sheet_act.1, hclosed.trans sheet_act.2⟩

theorem schema_perform : (p.perform acts).schema = p.schema :=
  congrArg Sheet.schema sheet_perform.1

/-! ## Pages under another schema -/

variable {schema : Schema} {closed : Bool} {s : String}

/-- The page with another schema, and its imports closed or not. -/
def under (p : Page) (schema : Schema) (closed : Bool) : Page :=
  { p with schema, importsClosed := closed }

theorem text_under : (p.under schema closed).text s = (p.text s).under schema closed := by
  unfold text
  split <;> rfl

theorem folderOf?_under (h : schema.get? = p.schema.get?) :
    (p.under schema closed).folderOf? = p.folderOf? := by
  funext name
  unfold folderOf?
  rw [← h]
  rfl

/-- Whether the imports are closed is of no account for an act, and of the schema nothing is but what it
finds. -/
theorem act_under (h : schema.get? = p.schema.get?) :
    (p.under schema closed).act a = (p.act a).under schema closed := by
  cases a with
  | text s => exact text_under
  | enter kind multiline =>
    rw [act, act, enter_eq, enter_eq, text_under]
    rfl
  | leave suffix =>
    cases hregions : p.regions with
    | nil => simp [act, leaveWith, under, hregions]
    | cons r outer =>
      have hunder : (p.under schema closed).regions = r :: outer := hregions
      rw [act, act, leaveWith_eq hregions, leaveWith_eq hunder]
      exact text_under (p := { p with regions := if r.written then markWritten outer else outer })
  | separate separator =>
    cases hregions : p.regions with
    | nil => simp [act, separate, under, hregions]
    | cons r outer =>
      have hunder : (p.under schema closed).regions = r :: outer := hregions
      rw [act, act, separate_eq hregions, separate_eq hunder]
      split
      · exact text_under
      · rfl
  | addStatement statement => rfl
  | addType type =>
    -- This is the one act that looks at the schema, to see whether the type has a folder.
    rw [act, act, addType, addType, folderOf?_under h, apply_ite fun q => under q schema closed]
    rfl

theorem perform_under (h : schema.get? = p.schema.get?) :
    (p.under schema closed).perform acts = (p.perform acts).under schema closed := by
  induction acts generalizing p with
  | nil => rfl
  | cons a rest ih =>
    have hsame : (p.act a).schema = p.schema := congrArg Sheet.schema sheet_act.1
    rw [perform, List.foldl_cons, act_under h]
    exact ih (hsame ▸ h)

end Page

end TypedQuery
