-- SUMMARY: Operations that write lines.
import TypedQuery.Proofs.Emit.Writes

/-!
# Lines

What is written without imports is a list of lines, each at a depth of its own. A line break belongs to
no depth: the one behind a line may be asked for by the text of the line or by the region around it.
`Op.WritesLines` says which lines operations write, up to the depth of line breaks, and
`RegionKind.normalize_around` what a region does to the lines inside it.
-/
namespace TypedQuery

/-- A line of text, and how deep it is indented. -/
structure Line where
  depth : Nat
  text : String
  deriving DecidableEq, Repr

/-- The strokes of a line and of the line break behind it. -/
def Line.strokes (l : Line) : List Stroke := Stroke.ofText l.depth l.text ++ [⟨'\n', 0⟩]

/-! ## Line breaks -/

namespace Stroke

/-- The strokes, with no depth at line breaks. -/
def normalize (strokes : List Stroke) : List Stroke :=
  strokes.map fun stroke => if stroke.char = '\n' then ⟨'\n', 0⟩ else stroke

variable {unit : List Char} {begins : Bool} {a b : List Stroke}

@[simp] theorem normalize_append : normalize (a ++ b) = normalize a ++ normalize b :=
  List.map_append

theorem normalize_break {depth : Nat} :
    normalize (⟨'\n', depth⟩ :: a) = ⟨'\n', 0⟩ :: normalize a :=
  rfl

/-- A line break is not indented. -/
theorem layout_normalize : layout unit begins (normalize a) = layout unit begins a := by
  induction a generalizing begins with
  | nil => rfl
  | cons stroke rest ih =>
    unfold normalize at ih
    by_cases h : stroke.char = '\n' <;> simp [normalize, layout, h, ih]

theorem layout_congr (h : normalize a = normalize b) :
    layout unit begins a = layout unit begins b := by
  rw [← layout_normalize, h, layout_normalize]

theorem beginsAfter_normalize : beginsAfter begins (normalize a) = beginsAfter begins a := by
  induction a generalizing begins with
  | nil => rfl
  | cons stroke rest ih =>
    unfold normalize at ih
    by_cases h : stroke.char = '\n' <;> simp [normalize, beginsAfter, h, ih]

/-- The strokes are the lines, but the last line break may be missing. -/
def Fill (strokes : List Stroke) (lines : List Line) : Prop :=
  normalize (strokes ++ if beginsAfter true strokes then [] else [⟨'\n', 0⟩]) =
    normalize (lines.flatMap Line.strokes)

/-- Behind whole lines, a line begins. -/
theorem beginsAfter_lines {lines : List Line}
    (h : normalize a = normalize (lines.flatMap Line.strokes)) : beginsAfter true a = true := by
  have hlines : beginsAfter true (lines.flatMap Line.strokes) = true := by
    clear h
    induction lines with
    | nil => rfl
    | cons l rest ih =>
      rw [List.flatMap_cons, beginsAfter_append, Line.strokes, beginsAfter_append]
      exact ih
  rw [← beginsAfter_normalize, h, beginsAfter_normalize, hlines]

theorem fill_of_normalize {lines : List Line}
    (h : normalize a = normalize (lines.flatMap Line.strokes)) : Fill a lines := by
  rw [Fill, beginsAfter_lines h, if_pos rfl, List.append_nil, h]

/-- Whole lines with more behind them. -/
theorem Fill.append {lines others : List Line}
    (ha : normalize a = normalize (lines.flatMap Line.strokes)) (hb : Fill b others) :
    Fill (a ++ b) (lines ++ others) := by
  rw [Fill, beginsAfter_append, beginsAfter_lines ha, List.append_assoc, normalize_append, ha, hb,
    List.flatMap_append, normalize_append]

/-- A line that does not end yet. -/
theorem fill_ofText {depth : Nat} {s : String} (h : pendingAfter true s.toList = false) :
    Fill (ofText depth s) [⟨depth, s⟩] := by
  simp [Fill, beginsAfter_ofText, h, Line.strokes]

end Stroke

/-- The texts with a bar behind each of them but the last. -/
def barred : List String → List String
  | [] => []
  | [last] => [last]
  | first :: second :: rest => (first ++ " |") :: barred (second :: rest)

/-- Texts with bars between them stand on lines of their own. -/
theorem Stroke.fill_barred {α : Type} {items : List α} {text : α → String} {depth : Nat}
    {first : String} (hfirst : pendingAfter true first.toList = false)
    (htexts : ∀ item ∈ items, pendingAfter true (text item).toList = false) :
    Fill (ofText depth first ++ items.flatMap fun item => ofText depth (" |\n" ++ text item))
      ((barred (first :: items.map text)).map (⟨depth, ·⟩)) := by
  induction items generalizing first with
  | nil =>
    rw [List.flatMap_nil, List.append_nil]
    exact fill_ofText hfirst
  | cons item rest ih =>
    have hrest := ih (htexts item List.mem_cons_self) fun other hother =>
      htexts other (List.mem_cons_of_mem _ hother)
    -- The bar and the line break belong to the text in front.
    have hline : normalize (ofText depth (first ++ " |\n")) =
        normalize ([⟨depth, first ++ " |"⟩].flatMap Line.strokes) := by
      simp [Line.strokes, ofText, normalize]
    have hall := Fill.append hline hrest
    rw [List.flatMap_cons, ofText_append, List.append_assoc, ← List.append_assoc, ← ofText_append]
    exact hall

/-- A region in lines puts its delimiters around the lines inside. -/
theorem RegionKind.normalize_around {kind : RegionKind} {depth : Nat} {inside : List Stroke}
    {lines : List Line} (h : Stroke.Fill inside lines) :
    Stroke.normalize (kind.around true depth inside) =
      Stroke.normalize (Stroke.ofText depth kind.opening) ++
        ⟨'\n', 0⟩ :: Stroke.normalize (lines.flatMap Line.strokes) ++
        Stroke.normalize (Stroke.ofText depth kind.closing) := by
  rw [← h, around]
  cases beginsAfter true inside <;> simp [Stroke.ofText, Stroke.normalize]

/-! ## Operations -/

namespace Op

open Stroke

variable {sheet : Sheet} {depth : Nat} {ops first second : List Op} {lines others : List Line}
  {kind : RegionKind} {s : String}

/-- The operations write the lines, wherever they are carried out at the depth. -/
def WritesLines (sheet : Sheet) (depth : Nat) (ops : List Op) (lines : List Line) : Prop :=
  ∃ strokes, Writes sheet depth ops strokes ∧
    normalize strokes = normalize (lines.flatMap Line.strokes)

/-- In a region of the kind that is opened at the depth and stands on lines of its own, the operations
write the lines, but the last line break may be missing. -/
def FillsRegion (sheet : Sheet) (kind : RegionKind) (depth : Nat) (ops : List Op)
    (lines : List Line) : Prop :=
  ∃ inside, (∀ closed outer strokes, outer.length = depth →
    Adds sheet closed ⟨⟨kind, true, false⟩ :: outer, strokes⟩ ops inside) ∧ Fill inside lines

namespace WritesLines

theorem nil : WritesLines sheet depth [] [] := ⟨[], .nil, rfl⟩

theorem append (ha : WritesLines sheet depth first lines)
    (hb : WritesLines sheet depth second others) :
    WritesLines sheet depth (first ++ second) (lines ++ others) := by
  obtain ⟨a, ha, hlines⟩ := ha
  obtain ⟨b, hb, hothers⟩ := hb
  refine ⟨a ++ b, ha.append hb, ?_⟩
  rw [normalize_append, hlines, hothers, List.flatMap_append, normalize_append]

theorem flatMap {α : Type} {items : List α} {script : α → List Op} {lines : α → List Line}
    (h : ∀ item, WritesLines sheet depth (script item) (lines item)) :
    WritesLines sheet depth (items.flatMap script) (items.flatMap lines) := by
  induction items with
  | nil => exact nil
  | cons item rest ih => exact (h item).append ih

/-- A text that is a line, with more behind it. -/
theorem cons {t : String} (ht : t = s ++ "\n") (h : WritesLines sheet depth ops lines) :
    WritesLines sheet depth (.text t :: ops) (⟨depth, s⟩ :: lines) := by
  have hline : WritesLines sheet depth [.text t] [⟨depth, s⟩] := by
    refine ⟨_, .text, ?_⟩
    rw [ht, ofText_append, normalize_append, List.flatMap_singleton, Line.strokes,
      normalize_append]
    rfl
  exact hline.append h

/-- A region without delimiters that goes on behind a line. -/
theorem blank (h : WritesLines sheet (depth + 1) ops lines) :
    WritesLines sheet depth [.region .blank false ops] lines := by
  obtain ⟨inside, hinside, hlines⟩ := h
  have hregion : Writes sheet depth [.region .blank false ops]
      (RegionKind.blank.around false depth inside ++ []) := by
    refine .ofInside ?_ .nil
    intro closed outer strokes houter
    apply hinside
    rw [List.length_cons, houter]
  have haround : RegionKind.blank.around false depth inside ++ [] = inside := by
    simp [RegionKind.around, RegionKind.opening, RegionKind.closing, ofText]
  exact ⟨inside, haround ▸ hregion, hlines⟩

/-- Lines fill a region. -/
theorem fillsRegion (h : WritesLines sheet (depth + 1) ops lines) :
    FillsRegion sheet kind depth ops lines := by
  obtain ⟨inside, hinside, hlines⟩ := h
  refine ⟨inside, ?_, fill_of_normalize hlines⟩
  intro closed outer strokes houter
  apply hinside
  rw [List.length_cons, houter]

/-- Lines fill a region together with what is written behind them. -/
theorem fillsRegion_append (ha : WritesLines sheet (depth + 1) first lines) {b : List Stroke}
    (hb : Writes sheet (depth + 1) second b) (hothers : Fill b others) :
    FillsRegion sheet kind depth (first ++ second) (lines ++ others) := by
  obtain ⟨a, ha, hlines⟩ := ha
  refine ⟨a ++ b, ?_, Fill.append hlines hothers⟩
  intro closed outer strokes houter
  apply ha.append hb
  rw [List.length_cons, houter]

/-- A text with a region behind it, which stands on lines of its own, and a text behind that. -/
theorem block {t opening closing : String} (last : String)
    (hinside : FillsRegion sheet kind depth ops lines)
    (hopening : opening = s ++ kind.opening) (hclosing : closing = kind.closing ++ last)
    (ht : normalize (ofText depth t) =
      normalize ((⟨depth, last⟩ :: others).flatMap Line.strokes)) :
    WritesLines sheet depth [.text s, .region kind true ops, .text t]
      (⟨depth, opening⟩ :: lines ++ ⟨depth, closing⟩ :: others) := by
  obtain ⟨inside, hadds, hfill⟩ := hinside
  refine ⟨_, .cons (.ofInside hadds .text), ?_⟩
  simp only [normalize_append, ht, RegionKind.normalize_around hfill, List.flatMap_append,
    List.flatMap_cons, Line.strokes, hopening, hclosing, ofText_append, List.cons_append,
    List.nil_append, List.append_assoc, normalize_break]

end WritesLines

/-- A list of texts with bars between them fills a region. -/
theorem fillsRegion_barred {α : Type} {items : List α} {text : α → String} {op : Op}
    (hop : ∀ closed, op.course sheet closed = .doing closed [.text s])
    (hs : pendingAfter true s.toList = false)
    (htexts : ∀ item ∈ items, pendingAfter true (text item).toList = false) :
    FillsRegion sheet kind depth
      (op :: items.flatMap fun item => [.separator (some " | "), .text (text item)])
      ((barred (s :: items.map text)).map (⟨depth + 1, ·⟩)) := by
  have hne : s ≠ "" := by
    rintro rfl
    cases hs
  have hseparation : Region.separation ⟨kind, true, true⟩ (some " | ") = " |\n" := by
    change Text.trimEnd " | " ++ "\n" = " |\n"
    decide
  refine ⟨_, ?_, fill_barred hs htexts⟩
  rintro closed outer strokes rfl
  rw [← hseparation]
  exact Adds.list (hop closed) hne

end Op

end TypedQuery
