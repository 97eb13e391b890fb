-- SUMMARY: When a region has been written into, and what separators come to in lists.
import Mathlib
import TypedQuery.Proofs.Emit.Writes

/-!
# Separators

A region notes that something has been written into it, but only the innermost region is told; those
around it learn of it when it is left. Yet the note of the innermost region is right at every moment: it
is set if and only if the body is longer than it was when the region had been entered
(`Page.Marked.perform`). So separators stand between items and nowhere else: `Draft.perform_list` says
what a list of items comes to, each of which may open regions of its own as long as it closes them again.
-/
namespace TypedQuery

/-! ## Marks -/

/-- The marks of the open regions behind an act, from those before it. A mark is the length of the body
when its region had been entered. -/
def Act.mark (a : Act) (length : Nat) (marks : List Nat) : List Nat :=
  match a with
  | .enter _ _ => length :: marks
  | .leave _ => marks.tail
  | .text _ | .separate _ | .addStatement _ | .addType _ => marks

namespace Page

/-- The marks of the open regions behind acts, innermost first. -/
def marks (p : Page) (before : List Nat) : List Act → List Nat
  | [] => before
  | a :: rest => (p.act a).marks (a.mark (p.act a).body.length before) rest

/-- The innermost region has been written into if and only if the body is longer than its mark. As long
as it is open, the same holds of the region around it and the body as it was at that mark, and so on. -/
def Marked : List Region → List Nat → Nat → Prop
  | [], [], _ => True
  | r :: outer, mark :: marks, length =>
    (r.written = true ↔ mark < length) ∧ mark ≤ length ∧ Marked outer marks mark
  | _, _, _ => False

variable {p : Page} {a : Act} {acts : List Act} {r : Region} {regions outer : List Region}
  {before : List Nat} {mark length : Nat} {s : String}

namespace Marked

theorem exists_mark (h : Marked (r :: outer) before length) :
    ∃ mark marks, before = mark :: marks ∧ (r.written = true ↔ mark < length) := by
  cases before with
  | nil => cases h
  | cons mark marks => exact ⟨mark, marks, rfl, h.1⟩

/-- The body grows, and the innermost region is told. -/
theorem grow {longer : Nat} (h : Marked regions before length) (hlonger : length < longer) :
    Marked (markWritten regions) before longer := by
  match regions, before with
  | [], [] => trivial
  | r :: outer, mark :: marks =>
    obtain ⟨_, hle, houter⟩ := h
    exact ⟨⟨fun _ => by omega, fun _ => rfl⟩, by omega, houter⟩

/-- The innermost region is left, and tells the one around it. -/
theorem pop (h : Marked (r :: outer) before length) :
    Marked (if r.written then markWritten outer else outer) before.tail length := by
  obtain ⟨mark, marks, rfl, hwritten⟩ := h.exists_mark
  obtain ⟨_, hle, houter⟩ := h
  split
  · next h => exact houter.grow (hwritten.1 h)
  · next h =>
    -- Nothing has been written since the region was entered, so that the note of the one around it
    -- is as right as it was then.
    have hsame : mark = length := Nat.le_antisymm hle (Nat.not_lt.1 fun hlt => h (hwritten.2 hlt))
    exact hsame ▸ houter

end Marked

theorem length_body_text (hs : s ≠ "") : p.body.length < (p.text s).body.length := by
  have hlayout : indentLines p.indentation p.pending s.toList ≠ [] := by
    cases hlist : s.toList with
    | nil => exact absurd (String.toList_eq_nil_iff.1 hlist) hs
    | cons c rest => by_cases h : c = '\n' <;> simp [indentLines, h]
  have hpositive := List.length_pos_iff.2 hlayout
  rw [← String.length_toList, ← String.length_toList, body_text, List.length_append]
  omega

theorem Marked.text (h : Marked p.regions before p.body.length) :
    Marked (p.text s).regions before (p.text s).body.length := by
  by_cases hs : s = ""
  · simpa [hs] using h
  · rw [regions_text hs]
    exact h.grow (length_body_text hs)

/-- An act keeps the notes of the regions right. -/
theorem Marked.act (h : Marked p.regions before p.body.length) :
    Marked (p.act a).regions (a.mark (p.act a).body.length before) (p.act a).body.length := by
  cases a with
  | text s => exact h.text
  | enter kind multiline =>
    rw [Page.act, enter_eq]
    have hopened := h.text (s := kind.opening ++ if multiline then "\n" else "")
    exact ⟨iff_of_false Bool.false_ne_true (Nat.lt_irrefl _), Nat.le_refl _, hopened⟩
  | leave suffix =>
    cases hregions : p.regions with
    | nil =>
      rw [hregions] at h
      cases before with
      | nil => simp [Page.act, leaveWith, hregions, Act.mark, Marked]
      | cons mark marks => exact h.elim
    | cons r outer =>
      rw [hregions] at h
      rw [Page.act, leaveWith_eq hregions]
      exact Marked.text (p := { p with regions := if r.written then markWritten outer else outer })
        h.pop
  | separate separator =>
    cases hregions : p.regions with
    | nil => simpa [Page.act, Page.separate, Act.mark, hregions] using h
    | cons r outer =>
      rw [Page.act, separate_eq hregions]
      split
      · exact h.text
      · exact h
  | addStatement statement => exact h
  | addType type =>
    rw [Page.act, addType]
    split <;> exact h

/-- Whatever is done, the notes of the regions are right. -/
theorem Marked.perform (h : Marked p.regions before p.body.length) :
    Marked (p.perform acts).regions (p.marks before acts) (p.perform acts).body.length := by
  induction acts generalizing p before with
  | nil => exact h
  | cons a rest ih => exact ih h.act

end Page

/-! ## Bracketed acts -/

/-- How many regions are open behind an act, of `depth` before it. A region that does not count is not
left. -/
def Act.depthBehind (depth : Nat) : Act → Option Nat
  | .enter _ _ => some (depth + 1)
  | .leave _ => if depth = 0 then none else some (depth - 1)
  | .text _ | .separate _ | .addStatement _ | .addType _ => some depth

/-- The acts leave every region that they enter, and no other. -/
def Act.Bracketed (acts : List Act) : Prop := acts.foldlM Act.depthBehind 0 = some 0

instance {acts : List Act} : Decidable (Act.Bracketed acts) :=
  inferInstanceAs (Decidable (_ = _))

/-! ## Parts of drafts -/

/-- The stroke with `n` more regions open. -/
def Stroke.deeper (n : Nat) (stroke : Stroke) : Stroke := { stroke with depth := stroke.depth + n }

theorem Stroke.map_deeper_ofText {n depth : Nat} {s : String} :
    (ofText depth s).map (deeper n) = ofText (depth + n) s := by
  rw [ofText, List.map_map]
  rfl

theorem beginsAfter_map_deeper {n : Nat} {begins : Bool} {strokes : List Stroke} :
    beginsAfter begins (strokes.map (.deeper n)) = beginsAfter begins strokes := by
  induction strokes generalizing begins with
  | nil => rfl
  | cons stroke rest ih => exact ih

theorem beginsAfter_of_ne_nil {begins : Bool} {strokes : List Stroke} (h : strokes ≠ []) :
    beginsAfter begins strokes = beginsAfter false strokes := by
  cases strokes with
  | nil => exact absurd rfl h
  | cons stroke rest => rfl

namespace Draft

variable {base part : Draft} {r : Region} {outer : List Region} {strokes : List Stroke} {s : String}
  {a : Act} {acts : List Act} {depth : Nat}

/-- The part that is written last, with its regions inside those of the rest. -/
def on (base part : Draft) : Draft :=
  ⟨part.regions ++ base.regions, base.strokes ++ part.strokes.map (.deeper base.regions.length)⟩

theorem write_eq {d : Draft} : d.write s =
    ⟨if s = "" then d.regions else Page.markWritten d.regions,
      d.strokes ++ Stroke.ofText d.regions.length s⟩ := by
  rw [write, add]
  by_cases hs : s = ""
  · simp [hs, Stroke.ofText]
  · rw [if_neg (mt Stroke.ofText_eq_nil_iff.1 hs), if_neg hs]

/-- A text is written into a part alone if a region of the part is open. -/
theorem on_write (base part : Draft) (s : String) (h : part.regions ≠ []) :
    (base.on part).write s = base.on (part.write s) := by
  obtain ⟨i, inner, hinner⟩ := List.exists_cons_of_ne_nil h
  simp only [write_eq, on, hinner, List.map_append, Stroke.map_deeper_ofText, List.length_append,
    List.append_assoc]
  split <;> rfl

theorem endsLine_on (h : part.strokes ≠ []) : (base.on part).endsLine = part.endsLine := by
  have hdeeper : part.strokes.map (Stroke.deeper base.regions.length) ≠ [] := by
    simpa using h
  rw [endsLine, on, beginsAfter_append, beginsAfter_of_ne_nil hdeeper, beginsAfter_map_deeper,
    endsLine]

/-- What acts have come to inside a region `r` that was there before them and is still open: `depth` more
regions are open. A line break was written for each of those that are in lines, and one of the open
regions has been written into if `r` had been or if anything was written. -/
def Inside (r : Region) (depth : Nat) (part : Draft) : Prop :=
  ∃ inner written, part.regions = inner ++ [{ r with written }] ∧ inner.length = depth ∧
    (inner.any (·.multiline) → part.strokes ≠ []) ∧
    ((inner.any (·.written) || written) = true ↔ r.written = true ∨ part.strokes ≠ [])

namespace Inside

theorem fresh : Inside r 0 ⟨[r], []⟩ :=
  ⟨[], r.written, rfl, rfl, by simp, by simp⟩

theorem ne_nil (h : Inside r depth part) : part.regions ≠ [] := by
  obtain ⟨inner, written, hregions, _⟩ := h
  simp [hregions]

theorem write (h : Inside r depth part) : Inside r depth (part.write s) := by
  by_cases hs : s = ""
  · simpa [write_eq, hs, Stroke.ofText] using h
  obtain ⟨inner, written, hregions, hdepth, hlines, hwritten⟩ := h
  have hstrokes : part.strokes ++ Stroke.ofText part.regions.length s ≠ [] :=
    List.append_ne_nil_of_right_ne_nil _ (mt Stroke.ofText_eq_nil_iff.1 hs)
  rw [write_eq, if_neg hs, hregions]
  cases inner with
  | nil => exact ⟨[], true, rfl, hdepth, by simp, by simp [hs, Stroke.ofText]⟩
  | cons i rest =>
    refine ⟨{ i with written := true } :: rest, written, rfl, hdepth, fun _ => ?_, ?_⟩
    · exact hregions ▸ hstrokes
    · simp [hs, Stroke.ofText]

theorem enter {kind : RegionKind} {multiline : Bool} (h : Inside r depth part) :
    Inside r (depth + 1) (part.act (.enter kind multiline)) := by
  obtain ⟨inner, written, hregions, hdepth, hlines, hwritten⟩ :=
    (h.write (s := kind.opening ++ if multiline then "\n" else ""))
  refine ⟨⟨kind, multiline, false⟩ :: inner, written, ?_, ?_, ?_, ?_⟩
  · rw [act, hregions]
    rfl
  · rw [List.length_cons, hdepth]
  · cases multiline with
    | true => simp [act, write_eq, Stroke.ofText]
    | false => exact hlines
  · exact hwritten

theorem leave {suffix : String} (h : Inside r (depth + 1) part) :
    Inside r depth (part.act (.leave suffix)) := by
  obtain ⟨inner, written, hregions, hdepth, hlines, hwritten⟩ := h
  cases inner with
  | nil => cases hdepth
  | cons i rest =>
    simp only [act, hregions, List.cons_append]
    apply write
    have hdepth : rest.length = depth := by simpa using hdepth
    have hlines (hrest : rest.any (·.multiline)) : part.strokes ≠ [] := hlines (by simp [hrest])
    split
    · next hi =>
      cases rest with
      | nil => exact ⟨[], true, rfl, hdepth, by simp, by simpa [hi] using hwritten⟩
      | cons j rest =>
        exact ⟨{ j with written := true } :: rest, written, rfl, hdepth, hlines,
          by simpa [hi] using hwritten⟩
    · next hi => exact ⟨rest, written, rfl, hdepth, hlines, by simpa [hi] using hwritten⟩

theorem act {n : Nat} (h : Inside r depth part) (hn : a.depthBehind depth = some n) :
    Inside r n (part.act a) := by
  cases a with
  | text s =>
    obtain rfl : depth = n := Option.some.inj hn
    exact h.write
  | enter kind multiline =>
    obtain rfl : depth + 1 = n := Option.some.inj hn
    exact h.enter
  | leave suffix =>
    cases depth with
    | zero => simp [Act.depthBehind] at hn
    | succ depth =>
      obtain rfl : depth = n := by simpa [Act.depthBehind] using hn
      exact h.leave
  | separate separator =>
    obtain rfl : depth = n := Option.some.inj hn
    obtain ⟨i, inner, hinner⟩ := List.exists_cons_of_ne_nil h.ne_nil
    simp only [Draft.act, hinner]
    split
    · exact h.write
    · exact h
  | addStatement _ | addType _ =>
    obtain rfl : depth = n := Option.some.inj hn
    exact h

/-- An act that leaves no region but those of a part takes place in that part alone. -/
theorem on_act {n : Nat} (h : Inside r depth part) (hn : a.depthBehind depth = some n) :
    (base.on part).act a = base.on (part.act a) := by
  obtain ⟨i, inner, hinner⟩ := List.exists_cons_of_ne_nil h.ne_nil
  have hon : (base.on part).regions = i :: (inner ++ base.regions) := by rw [on, hinner]; rfl
  cases a with
  | text s => exact on_write base part _ h.ne_nil
  | enter kind multiline =>
    simp only [Draft.act, on_write base part _ h.ne_nil]
    rfl
  | leave suffix =>
    obtain ⟨inner, written, hregions, hdepth, hlines, -⟩ := h
    cases inner with
    | nil => simp [Act.depthBehind, ← hdepth] at hn
    | cons j rest =>
      obtain ⟨rfl, rfl⟩ : i = j ∧ inner = rest ++ [{ r with written }] := by
        simpa using hinner.symm.trans hregions
      -- Whether a line break is due is seen from the last stroke. A region in lines has begun with
      -- a stroke of its own, so that it does not matter what is below the part.
      have hbreak : (i.multiline && !(base.on part).endsLine) = (i.multiline && !part.endsLine) := by
        cases hi : i.multiline with
        | false => rfl
        | true => rw [endsLine_on (hlines (by simp [hi]))]
      have hmark : Page.markWritten (rest ++ [{ r with written }] ++ base.regions) =
          Page.markWritten (rest ++ [{ r with written }]) ++ base.regions := by
        cases rest <;> rfl
      have hne : Page.markWritten (rest ++ [{ r with written }]) ≠ [] := by
        cases rest <;> exact List.cons_ne_nil _ _
      simp only [Draft.act, hon, hinner, hbreak, hmark]
      cases i.written with
      | false =>
        have hrest : rest ++ [{ r with written }] ≠ [] := by simp
        exact on_write base { part with regions := _ } _ hrest
      | true => exact on_write base { part with regions := _ } _ hne
  | separate separator =>
    simp only [Draft.act, hinner, hon]
    split
    · exact on_write base part _ h.ne_nil
    · rfl
  | addStatement _ | addType _ => rfl

/-- What a part comes to under acts, and that they take place in it alone. -/
theorem perform {n : Nat} (h : Inside r depth part)
    (hn : acts.foldlM Act.depthBehind depth = some n) :
    Inside r n (part.perform acts) ∧ (base.on part).perform acts = base.on (part.perform acts) := by
  induction acts generalizing depth part with
  | nil =>
    obtain rfl : depth = n := Option.some.inj hn
    exact ⟨h, rfl⟩
  | cons a rest ih =>
    obtain ⟨next, hnext, hrest⟩ := Option.bind_eq_some_iff.1 hn
    obtain ⟨hinside, hon⟩ := ih (h.act hnext) hrest
    refine ⟨hinside, ?_⟩
    rw [Draft.perform, List.foldl_cons, h.on_act hnext]
    exact hon

end Inside

/-- The strokes that acts ask for inside a region, while `depth` regions are open around it. -/
def asked (depth : Nat) (r : Region) (acts : List Act) : List Stroke :=
  (Draft.perform ⟨[r], []⟩ acts).strokes.map (.deeper depth)

/-- Bracketed acts add the strokes that they ask for, wherever they are carried out. -/
theorem perform_bracketed (h : Act.Bracketed acts) :
    (⟨r :: outer, strokes⟩ : Draft).perform acts =
      (⟨r :: outer, strokes⟩ : Draft).add (asked outer.length r acts) := by
  obtain ⟨hinside, hon⟩ : Inside r 0 (Draft.perform ⟨[r], []⟩ acts) ∧
      ((⟨outer, strokes⟩ : Draft).on ⟨[r], []⟩).perform acts =
        (⟨outer, strokes⟩ : Draft).on (Draft.perform ⟨[r], []⟩ acts) :=
    Inside.fresh.perform h
  obtain ⟨inner, written, hregions, hdepth, -, hwritten⟩ := hinside
  obtain rfl : inner = [] := List.length_eq_zero_iff.1 hdepth
  -- Take the region as a part of its own, on top of what is around it.
  have hstart : (⟨r :: outer, strokes⟩ : Draft) = (⟨outer, strokes⟩ : Draft).on ⟨[r], []⟩ := by
    simp [on]
  rw [hstart, hon, ← hstart, on, hregions, add, asked]
  by_cases hasked : (Draft.perform ⟨[r], []⟩ acts).strokes = []
  · have hsame : written = r.written := 
      Bool.eq_iff_iff.2 (by simpa [hasked] using hwritten)
    rw [hasked, hsame, List.map_nil, List.append_nil, if_pos rfl]
    rfl
  · have htrue : written = true := by simpa [hasked] using hwritten
    simp [hasked, htrue, Page.markWritten]

/-! ## Lists in regions -/

/-- What each of some items asks for in a region: before the first one nothing has been written there. -/
def pieces (depth : Nat) (r : Region) : List (List Act) → List (List Stroke)
  | [] => []
  | first :: rest => asked depth r first :: rest.map (asked depth { r with written := true })

/-- The acts of a region for items, with a separator before each. -/
def listing (kind : RegionKind) (multiline : Bool) (separator : Option String)
    (items : List (List Act)) : List Act :=
  .enter kind multiline :: items.flatMap (.separate separator :: ·) ++ [.leave ""]

section Lists

variable {d : Draft} {kind : RegionKind} {multiline : Bool} {separator : Option String}
  {items : List (List Act)}

/-- In a region that has been written into, every item comes with a separator. -/
theorem perform_separated (h : ∀ item ∈ items, Act.Bracketed item) :
    (⟨⟨kind, multiline, true⟩ :: outer, strokes⟩ : Draft).perform
        (items.flatMap (.separate separator :: ·)) =
      ⟨⟨kind, multiline, true⟩ :: outer, strokes ++ items.flatMap fun item =>
        Stroke.ofText (outer.length + 1) (Region.separation ⟨kind, multiline, true⟩ separator) ++
          asked outer.length ⟨kind, multiline, true⟩ item⟩ := by
  induction items generalizing strokes with
  | nil => simp [perform]
  | cons item rest ih =>
    rw [List.flatMap_cons, List.cons_append, perform, List.foldl_cons]
    change Draft.perform (Draft.add _ _) _ = _
    rw [add_written, perform_append, perform_bracketed (h item List.mem_cons_self), add_written,
      ih fun other hother => h other (List.mem_cons_of_mem _ hother), List.flatMap_cons]
    simp [List.append_assoc]

theorem intercalate_cons {α : Type} {sep first : List α} {rest : List (List α)} :
    sep.intercalate (first :: rest) = first ++ rest.flatMap (sep ++ ·) := by
  induction rest generalizing first with
  | nil => simp
  | cons second rest ih => rw [List.intercalate_cons_cons, ih]; simp

/-- A region for items adds its delimiters and, between them, what the items ask for with a separator
between each two. -/
theorem perform_listing (hitems : ∀ item ∈ items, Act.Bracketed item)
    (hpieces : ∀ piece ∈ pieces d.regions.length ⟨kind, multiline, false⟩ items, piece ≠ []) :
    d.perform (listing kind multiline separator items) =
      d.add (kind.around multiline d.regions.length
        ((Stroke.ofText (d.regions.length + 1)
          (Region.separation ⟨kind, multiline, true⟩ separator)).intercalate
          (pieces d.regions.length ⟨kind, multiline, false⟩ items))) := by
  apply perform_region
  intro outer strokes houter
  rw [← houter] at hpieces ⊢
  cases items with
  | nil => simp [perform, pieces, add]
  | cons first rest =>
    have hfirst : asked outer.length ⟨kind, multiline, false⟩ first ≠ [] :=
      hpieces _ List.mem_cons_self
    have hwritten : (⟨⟨kind, multiline, false⟩ :: outer, strokes⟩ : Draft).add
        (asked outer.length ⟨kind, multiline, false⟩ first) =
          ⟨⟨kind, multiline, true⟩ :: outer,
            strokes ++ asked outer.length ⟨kind, multiline, false⟩ first⟩ := by
      rw [add, if_neg hfirst]
      rfl
    -- Nothing has been written into the region when the first separator is due.
    change (⟨⟨kind, multiline, false⟩ :: outer, strokes⟩ : Draft).perform
      (first ++ rest.flatMap (.separate separator :: ·)) = _
    rw [perform_append, perform_bracketed (hitems first List.mem_cons_self), hwritten,
      perform_separated fun item hitem => hitems item (List.mem_cons_of_mem _ hitem), pieces,
      intercalate_cons, ← add_add, hwritten, add_written, List.flatMap_map]

end Lists

end Draft

/-! ## Operations -/

namespace Op

variable {sheet : Sheet} {closed : Bool} {p : Page}

/-- Whether the imports are closed behind operations that are all carried out. -/
def closedAfter (sheet : Sheet) (closed : Bool) : List Op → Bool
  | [] => closed
  | op :: rest => closedAfter sheet (op.course sheet closed).closed rest

/-- The acts of several lists of operations that follow each other. -/
def actsOfEach (sheet : Sheet) (closed : Bool) : List (List Op) → List (List Act)
  | [] => []
  | ops :: rest => actsOfAll sheet closed ops :: actsOfEach sheet (closedAfter sheet closed ops) rest

theorem actsOfAll_append {first second : List Op} :
    actsOfAll sheet closed (first ++ second) =
      actsOfAll sheet closed first ++ actsOfAll sheet (closedAfter sheet closed first) second := by
  induction first generalizing closed with
  | nil => rfl
  | cons op rest ih => simp only [List.cons_append, actsOfAll, closedAfter, ih, List.append_assoc]

/-- A region that is entered for items and left behind them, with a separator before each item. -/
def listing (kind : RegionKind) (multiline : Bool) (separator : Option String)
    (items : List (List Op)) : List Op :=
  .enter kind multiline :: items.flatMap (.separator separator :: ·) ++ [.leave]

theorem actsOfAll_listing {kind : RegionKind} {multiline : Bool} {separator : Option String}
    {items : List (List Op)} :
    actsOfAll sheet closed (listing kind multiline separator items) =
      Draft.listing kind multiline separator (actsOfEach sheet closed items) := by
  have hitems (closed : Bool) :
      actsOfAll sheet closed (items.flatMap (.separator separator :: ·) ++ [.leave]) =
        (actsOfEach sheet closed items).flatMap (.separate separator :: ·) ++ [.leave ""] := by
    induction items generalizing closed with
    | nil => rfl
    | cons item rest ih =>
      rw [List.flatMap_cons, List.append_assoc, actsOfAll_append]
      change (Act.separate separator :: actsOfAll sheet closed item) ++
        actsOfAll sheet (closedAfter sheet closed item) _ = _
      rw [ih, actsOfEach, List.flatMap_cons, List.append_assoc]
  exact congrArg (Act.enter kind multiline :: ·) (hitems closed)

/-- Operations that are all carried out do their acts to the page, and nothing else but to close the
imports. -/
theorem replay_eq {ops : List Op} : (replay p ops).2 =
    (p.perform (actsOfAll p.sheet p.importsClosed ops)).under p.schema
      (closedAfter p.sheet p.importsClosed ops) := by
  induction ops generalizing p with
  | nil => rfl
  | cons op rest ih =>
    have hop := follows_run op p
    have hschema : (op.run p).2.schema = p.schema := congrArg Sheet.schema hop.sheet
    have hfind : p.schema.get? =
        (p.perform (op.course p.sheet p.importsClosed).acts).schema.get? := by
      rw [Page.schema_perform]
    change (replay (op.run p).2 rest).2 = _
    rw [ih, hop.sheet, hop.closed, hschema, hop.after, Page.perform_under hfind, actsOfAll,
      Page.perform_append]
    rfl

/-- Carrying out operations, the ones that fail included, comes down to acts, and at each moment among them
the innermost open region is noted as written into if and only if the body has grown since the region had
been entered; only then does a separator write anything. So a list in a region asks for its delimiters
and, between them, for the items with one separator between each two of them, whatever came before. -/
theorem replay_separators (sheet : Sheet) :
    (∀ ops, (replay sheet.fresh ops).2 =
      (sheet.fresh.perform (actsOfAll sheet false ops)).under sheet.schema
        (closedAfter sheet false ops)) ∧
    (∀ ops acts, acts <+: actsOfAll sheet false ops →
      ∀ r outer, (sheet.fresh.perform acts).regions = r :: outer →
        ∃ mark marks, sheet.fresh.marks [] acts = mark :: marks ∧
          (r.written = true ↔ mark < (sheet.fresh.perform acts).body.length) ∧
          ∀ separator, (sheet.fresh.perform acts).separate separator =
            if mark < (sheet.fresh.perform acts).body.length then
              (sheet.fresh.perform acts).text (r.separation separator)
            else sheet.fresh.perform acts) ∧
    ∀ before kind multiline separator items,
      let d := draft sheet before
      let programs := actsOfEach sheet (closedAfter sheet false before) items
      let pieces := Draft.pieces d.regions.length ⟨kind, multiline, false⟩ programs
      let between := Stroke.ofText (d.regions.length + 1)
        (Region.separation ⟨kind, multiline, true⟩ separator)
      let strokes := kind.around multiline d.regions.length (between.intercalate pieces)
      (∀ program ∈ programs, Act.Bracketed program) → (∀ piece ∈ pieces, piece ≠ []) →
        draft sheet (before ++ listing kind multiline separator items) = d.add strokes ∧
          (replay sheet.fresh (before ++ listing kind multiline separator items)).2.body.toList =
            (replay sheet.fresh before).2.body.toList ++
              layout sheet.settings.indent.toList d.endsLine strokes := by
  refine ⟨fun ops => replay_eq, fun _ acts _ r outer hregions => ?_, ?_⟩
  · have hmarked : Page.Marked (sheet.fresh.perform acts).regions (sheet.fresh.marks [] acts)
        (sheet.fresh.perform acts).body.length :=
      Page.Marked.perform (p := sheet.fresh) trivial
    rw [hregions] at hmarked
    obtain ⟨mark, marks, hmarks, hwritten⟩ := hmarked.exists_mark
    refine ⟨mark, marks, hmarks, hwritten, fun separator => ?_⟩
    rw [Page.separate_eq hregions]
    exact if_congr hwritten rfl rfl
  · intro before kind multiline separator items d programs pieces between strokes hprograms hpieces
    have hdraft : draft sheet (before ++ listing kind multiline separator items) =
        d.add strokes := by
      rw [draft, actsOfAll_append, actsOfAll_listing, Draft.perform_append]
      exact Draft.perform_listing hprograms hpieces
    refine ⟨hdraft, ?_⟩
    rw [body_replay.1, body_replay.1, hdraft, Draft.strokes_add, layout_append]
    rfl

/-- A sheet without types. -/
def blankSheet : Sheet := ⟨⟨[], .unset, List.nodup_nil⟩, {}, ⟨.root, "index", none⟩⟩

/-- A stray leave, a reference that fails, and the name of a function. -/
def callBefore : List Op := [.leave, .typeRef (.named "Ghost") none, .text "f"]

/-- Arguments that open regions of their own, the last one with a separator at its beginning. -/
def callArguments : List (List Op) :=
  [[.text "a"], [.enter .array false, .separator none, .text "b", .leave],
    [.separator (some "; "), .region .generic true [.text "c"]]]

theorem replay_separators_call :
    (draft blankSheet (callBefore ++ listing .parameters false none callArguments)).strokes.map
        (·.char) = "f(a, [b], ; <\nc\n>)".toList ∧
      ∃ mark marks,
        blankSheet.fresh.marks [] [.text "f", .enter .parameters false] = mark :: marks ∧
        ((blankSheet.fresh.perform [.text "f", .enter .parameters false]).separate none).body =
          "f(" := by
  obtain ⟨-, hopen, hlisting⟩ := replay_separators blankSheet
  constructor
  · have hbracketed : ∀ program ∈ actsOfEach blankSheet (closedAfter blankSheet false callBefore)
        callArguments, Act.Bracketed program := by decide
    have hpieces : (Draft.pieces (draft blankSheet callBefore).regions.length
        ⟨.parameters, false, false⟩ (actsOfEach blankSheet
          (closedAfter blankSheet false callBefore) callArguments)).all (! ·.isEmpty) = true := by
      cbv
    rw [(hlisting callBefore .parameters false none callArguments hbracketed
      (by simpa using hpieces)).1]
    cbv
  · obtain ⟨mark, marks, hmarks, -, hseparate⟩ := hopen [.text "f", .enter .parameters false]
      [.text "f", .enter .parameters false] (List.prefix_refl _) ⟨.parameters, false, false⟩ [] rfl
    have hmark : (blankSheet.fresh.marks [] [.text "f", .enter .parameters false]) = [2] := by cbv
    obtain ⟨rfl, rfl⟩ := List.cons.inj (hmark.symm.trans hmarks)
    refine ⟨2, [], hmarks, ?_⟩
    rw [hseparate none]
    cbv

end Op

end TypedQuery
