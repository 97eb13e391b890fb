-- SUMMARY: A field is read back from what the runtime is told about it.
import TypedQuery.Proofs.Artifact.DescriptorRows
import TypedQuery.Proofs.Artifact.Failures
import TypedQuery.Proofs.Emit.Imports

/-!
# Descriptors

What the runtime is told about a field says everything about it: whatever is written before and however it
is indented, the rows of the field are said, and it is decoded from them. A field that is described by its
name alone is read as a plain scalar of that name (`Builder.descriptor_decodes`).
-/
namespace TypedQuery

/-! ## Operations that come down to one act -/

namespace Op

variable {sheet : Sheet} {closed : Bool} {op : Op} {ops : List Op} {a : Act} {acts : List Act}

/-- The act of an operation that comes down to one. -/
def act? : Op → Option Act
  | text s => some (.text s)
  | enter kind multiline => some (.enter kind multiline)
  | leave => some (.leave "")
  | leaveWith suffix => some (.leave suffix)
  | separator s => some (.separate s)
  | literal s => some (.text ("'" ++ s ++ "'"))
  | _ => none

theorem course_of_act? (h : op.act? = some a) : op.course sheet closed = .doing closed [a] := by
  cases op <;> cases h <;> rfl

theorem courseAll_of_act? (h : ops.map act? = acts.map some) :
    courseAll sheet ops closed = .doing closed acts := by
  induction ops generalizing acts with
  | nil =>
    obtain rfl : acts = [] := by simpa using h.symm
    rfl
  | cons op rest ih =>
    cases acts with
    | nil => cases h
    | cons a others =>
      obtain ⟨hop, hrest⟩ := List.cons.inj h
      rw [courseAll, course_of_act? hop, Course.andThen_of_ok rfl]
      rw [show (Course.doing closed [a]).closed = closed from rfl, ih hrest]
      rfl

end Op

/-! ## Writing -/

namespace Descriptor

/-- What strokes say. -/
def said (strokes : List Stroke) : List Char := gist (strokes.map (·.char))

variable {f : SelectableField} {a b strokes : List Stroke} {depth : Nat}

theorem said_append : said (a ++ b) = said a ++ said b := by
  rw [said, List.map_append, gist_append]
  rfl

theorem said_ofText {s : String} : said (Stroke.ofText depth s) = gist s.toList := by
  rw [said, Stroke.ofText, List.map_map]
  exact congrArg gist (List.map_id _)

theorem said_deeper {n : Nat} : said (strokes.map (.deeper n)) = said strokes := by
  rw [said, List.map_map]
  rfl

theorem said_intercalate {separator : List Stroke} {pieces : List (List Stroke)} :
    said (separator.intercalate pieces) = (said separator).intercalate (pieces.map said) := by
  cases pieces with
  | nil => rfl
  | cons first rest =>
    have hrest : said (rest.flatMap (separator ++ ·)) =
        (rest.map said).flatMap (said separator ++ ·) := by
      induction rest with
      | nil => rfl
      | cons piece rest ih =>
        rw [List.flatMap_cons, said_append, said_append, ih, List.map_cons, List.flatMap_cons]
    rw [Draft.intercalate_cons, said_append, hrest, List.map_cons, Draft.intercalate_cons]

/-- A block says what is written inside. -/
theorem said_around {multiline : Bool} :
    said (RegionKind.block.around multiline depth strokes) = said strokes := by
  have hopening : gist (RegionKind.block.opening ++ if multiline then "\n" else "").toList = [] := by
    cases multiline <;> decide
  have hclosing (breaks : Bool) :
      gist ((if breaks then "\n" else "") ++ RegionKind.block.closing).toList = [] := by
    cases breaks <;> decide
  rw [RegionKind.around, said_append, said_append, said_ofText, said_ofText, hopening, hclosing,
    List.nil_append, List.append_nil]

/-- The layout of strokes says what the strokes say if the unit of indentation is blank. -/
theorem gist_layout {unit : List Char} (hunit : ∀ c ∈ unit, Text.isBlank c = true) {begins : Bool} :
    gist (layout unit begins strokes) = said strokes := by
  have hnothing (n : Nat) : gist (List.replicate n unit).flatten = [] := by
    rw [gist, List.filter_eq_nil_iff]
    intro c hc
    obtain ⟨copy, hcopy, hmem⟩ := List.mem_flatten.1 hc
    rw [List.eq_of_mem_replicate hcopy] at hmem
    simp [isFiller, hunit c hmem]
  induction strokes generalizing begins with
  | nil => rfl
  | cons stroke rest ih =>
    -- Indentation stands only where a line begins, and there too it says nothing.
    have hindentation : gist (if begins && stroke.char ≠ '\n' then
        (List.replicate stroke.depth unit).flatten else []) = [] := by
      split
      · exact hnothing _
      · rfl
    rw [layout, gist_append, hindentation, List.nil_append]
    change gist ([stroke.char] ++ _) = gist ([stroke.char] ++ _)
    rw [gist_append, gist_append, ih]
    rfl

/-- Items that say something say it in a list, with commas between them. -/
theorem exists_listing {α : Type} (items : List α) (acts : α → List Act) (sense : α → List Char)
    (multiline : Bool) (separator : Option String)
    (hbracketed : ∀ item ∈ items, Act.Bracketed (acts item))
    (hsense : ∀ item ∈ items, ∀ depth r, said (Draft.asked depth r (acts item)) = sense item)
    (hne : ∀ item ∈ items, sense item ≠ [])
    (hseparator : gist (Region.separation ⟨.block, multiline, true⟩ separator).toList = [','])
    (d : Draft) : ∃ strokes,
      d.perform (Draft.listing .block multiline separator (items.map acts)) = d.add strokes ∧
      said strokes = [','].intercalate (items.map sense) := by
  -- The first item stands elsewhere than the others, but what an item says does not depend on
  -- that.
  have hpieces : (Draft.pieces d.regions.length ⟨.block, multiline, false⟩ (items.map acts)).map said =
      items.map sense := by
    cases items with
    | nil => rfl
    | cons first rest =>
      rw [List.forall_mem_cons] at hsense
      simp only [List.map_cons, Draft.pieces, List.map_map, hsense.1]
      exact congrArg (sense first :: ·) (List.map_congr_left fun item hitem => hsense.2 item hitem _ _)
  refine ⟨_, Draft.perform_listing ?_ ?_, ?_⟩
  · exact List.forall_mem_map.2 hbracketed
  · intro piece hpiece hempty
    have hmem : said piece ∈ items.map sense := hpieces ▸ List.mem_map_of_mem hpiece
    obtain ⟨item, hitem, hsaid⟩ := List.mem_map.1 hmem
    rw [hempty] at hsaid
    exact hne item hitem hsaid
  · rw [said_around, said_intercalate, said_ofText, hseparator, hpieces]

/-! ### Parts -/

/-- A part of a descriptor: a text, or a table of texts. -/
inductive Part where
  | text (s : String)
  | table (lead : String) (texts : List String)

namespace Part

/-- The operations that write a part. -/
def ops : Part → List Op
  | text s => [.text s]
  | table lead texts => .text lead :: Op.listing .block false (some ", ") (texts.map fun s => [.text s])

/-- The acts that write a part. -/
def acts : Part → List Act
  | text s => [.text s]
  | table lead texts =>
    .text lead :: Draft.listing .block false (some ", ") (texts.map fun s => [.text s])

/-- What a part says, row by row. -/
def groups : Part → List (List Char)
  | text s => [gist s.toList]
  | table _ [] => []
  | table lead (first :: rest) =>
    (gist lead.toList ++ gist first.toList) :: rest.map fun s => gist s.toList

end Part

/-- The table of arguments, if there are any. -/
def argumentParts : List (String × String) → List Part
  | [] => []
  | first :: rest => [.table "argGraphQLTypeMap: " ((first :: rest).map fun (name, type) =>
      name ++ ": '" ++ type ++ "'")]

/-- The parts of a field that is described in full. -/
def parts (f : SelectableField) : List Part :=
  .text ("category: \"" ++ f.category.word ++ "\"") :: .text ("name: \"" ++ f.name ++ "\"") ::
    (argumentParts f.arguments ++
    f.connection.toList.map (fun n => .text ("connectionTypeName: \"" ++ n ++ "\"")) ++
    f.edge.toList.map (fun n => .text ("edgeTypeName: \"" ++ n ++ "\"")) ++
    f.target.toList.map (fun n => .text ("targetTypeName: \"" ++ n ++ "\"")) ++
    if f.undefinable then [.text "undefinable: true"] else [])

theorem descriptorScript_eq (h : f.isShorthand = false) :
    Builder.descriptorScript f = Op.listing .block true (some ",") ((parts f).map Part.ops) := by
  have htable : (argumentParts f.arguments).flatMap
      (fun part => Op.separator (some ",") :: part.ops) =
      if f.arguments.isEmpty then [] else
        [Op.separator (some ","), Op.text "argGraphQLTypeMap: ", Op.enter .block false] ++
          f.arguments.flatMap (fun (name, type) =>
            [Op.separator (some ", "), Op.text (name ++ ": '" ++ type ++ "'")]) ++ [Op.leave] := by
    cases f.arguments with
    | nil => rfl
    | cons first rest => simp [argumentParts, Part.ops, Op.listing, List.flatMap_map]
  have hflag : (if f.undefinable then [Part.text "undefinable: true"] else []).flatMap
      (fun part => Op.separator (some ",") :: part.ops) =
      if f.undefinable then [Op.separator (some ","), Op.text "undefinable: true"] else [] := by
    split <;> rfl
  simp only [Builder.descriptorScript, h, parts, Op.listing, List.flatMap_map, List.flatMap_cons,
    List.flatMap_append, htable, hflag]
  simp [Part.ops]

/-! ### What parts say -/

theorem intercalate_ne_nil {α : Type} {separator first : List α} {rest : List (List α)}
    (h : first ≠ []) : separator.intercalate (first :: rest) ≠ [] := by
  rw [Draft.intercalate_cons]
  exact List.append_ne_nil_of_left_ne_nil h _

theorem intercalate_append {α : Type} {separator : List α} {as bs : List (List α)} (ha : as ≠ [])
    (hb : bs ≠ []) : separator.intercalate (as ++ bs) =
      separator.intercalate as ++ (separator ++ separator.intercalate bs) := by
  obtain ⟨first, rest, rfl⟩ := List.exists_cons_of_ne_nil ha
  obtain ⟨next, others, rfl⟩ := List.exists_cons_of_ne_nil hb
  rw [List.cons_append, Draft.intercalate_cons, Draft.intercalate_cons, Draft.intercalate_cons,
    List.flatMap_append, List.flatMap_cons, List.append_assoc, List.append_assoc]

/-- A list of lists is one list. -/
theorem intercalate_flatMap {α β : Type} {separator : List β} {items : List α}
    {groups : α → List (List β)} (h : ∀ item ∈ items, groups item ≠ []) :
    separator.intercalate (items.map fun item => separator.intercalate (groups item)) =
      separator.intercalate (items.flatMap groups) := by
  induction items with
  | nil => rfl
  | cons item rest ih =>
    obtain ⟨hitem, hrest⟩ := List.forall_mem_cons.1 h
    cases rest with
    | nil => simp
    | cons next others =>
      have hnext : (next :: others).flatMap groups ≠ [] := by
        rw [List.flatMap_cons]
        exact List.append_ne_nil_of_left_ne_nil (hrest next List.mem_cons_self) _
      have hall : (item :: next :: others).flatMap groups =
          groups item ++ (next :: others).flatMap groups := List.flatMap_cons
      rw [hall, intercalate_append hitem hnext, List.map_cons,
        List.intercalate_cons_of_ne_nil (by simp), ih hrest, List.append_assoc]

namespace Part

variable {part : Part}

/-- The part has something to say wherever a separator stands. -/
def Speaks : Part → Prop
  | text s => gist s.toList ≠ []
  | table _ texts => texts ≠ [] ∧ ∀ s ∈ texts, gist s.toList ≠ []

theorem Speaks.groups_ne_nil (h : part.Speaks) : part.groups ≠ [] := by
  cases part with
  | text s => exact List.cons_ne_nil _ _
  | table lead texts =>
    cases texts with
    | nil => exact absurd rfl h.1
    | cons first rest => exact List.cons_ne_nil _ _

theorem Speaks.intercalate_ne_nil (h : part.Speaks) : [','].intercalate part.groups ≠ [] := by
  cases part with
  | text s => exact Descriptor.intercalate_ne_nil h
  | table lead texts =>
    cases texts with
    | nil => exact absurd rfl h.1
    | cons first rest =>
      exact Descriptor.intercalate_ne_nil
        (List.append_ne_nil_of_right_ne_nil _ (h.2 first List.mem_cons_self))

theorem bracketed_text {s : String} : Act.Bracketed [.text s] := rfl

theorem bracketed_acts (part : Part) : Act.Bracketed part.acts := by
  cases part with
  | text s => exact bracketed_text
  | table lead texts =>
    have htexts : ((texts.map fun s => [Act.text s]).flatMap (.separate (some ", ") :: ·) ++
        [Act.leave ""]).foldlM Act.depthBehind 1 = some 0 := by
      induction texts with
      | nil => rfl
      | cons s rest ih => exact ih
    exact htexts

theorem said_asked_text {s : String} {r : Region} :
    said (Draft.asked depth r [.text s]) = gist s.toList := by
  rw [Draft.asked, said_deeper]
  change said ((⟨[r], []⟩ : Draft).write s).strokes = _
  rw [Draft.write, Draft.strokes_add, List.nil_append, said_ofText]

theorem Speaks.said_asked (h : part.Speaks) (depth : Nat) (r : Region) :
    said (Draft.asked depth r part.acts) = [','].intercalate part.groups := by
  cases part with
  | text s =>
    rw [acts, said_asked_text, groups, List.intercalate_singleton]
  | table lead texts =>
    -- A table is a listing behind its lead, and the lead is said with the first text.
    obtain ⟨strokes, hperform, hsaid⟩ := exists_listing texts (fun s => [.text s])
      (fun s => gist s.toList) false (some ", ") (fun _ _ => bracketed_text)
      (fun _ _ _ _ => said_asked_text) h.2 (by decide) ((⟨[r], []⟩ : Draft).write lead)
    have hstrokes : (Draft.perform ⟨[r], []⟩ (table lead texts).acts).strokes =
        Stroke.ofText 1 lead ++ strokes := by
      change (Draft.perform ((⟨[r], []⟩ : Draft).write lead) _).strokes = _
      rw [hperform, Draft.strokes_add, Draft.write, Draft.strokes_add, List.nil_append]
      rfl
    rw [Draft.asked, said_deeper, hstrokes, said_append, said_ofText, hsaid]
    cases texts with
    | nil => exact absurd rfl h.1
    | cons first rest =>
      rw [groups, List.map_cons, Draft.intercalate_cons, Draft.intercalate_cons, List.append_assoc]

end Part

/-! ### Rows of parts -/

theorem gist_entry (lead key : String) {value : String} (hlead : gist lead.toList = key.toList ++ [':', '"'])
    (hvalue : IsWord value.toList) :
    gist (lead ++ value ++ "\"").toList = [':'].intercalate (entryRow key value) := by
  have hquote : gist "\"".toList = ['"'] := by decide
  rw [String.toList_append, String.toList_append, gist_append, gist_append, hlead, hvalue.gist_eq, hquote,
    entryRow, intercalate_pair, quoted]
  simp

theorem gist_argument {name type : String} (hname : IsWord name.toList) (htype : IsWord type.toList) :
    gist (name ++ ": '" ++ type ++ "'").toList = [':'].intercalate (argumentWords (name, type)) := by
  have hcolon : gist ": '".toList = [':', '\''] := by decide
  have hquote : gist "'".toList = ['\''] := by decide
  rw [String.toList_append, String.toList_append, String.toList_append, gist_append, gist_append,
    gist_append, hname.gist_eq, htype.gist_eq, hcolon, hquote, argumentWords, intercalate_pair, quoted]
  simp

theorem groups_entries (lead key : String) {values : Option String}
    (hlead : gist lead.toList = key.toList ++ [':', '"']) (h : ∀ n, values = some n → Sdl.IsName n) :
    (values.toList.map fun n => Part.text (lead ++ n ++ "\"")).flatMap Part.groups =
      (values.toList.map (entryRow key)).map [':'].intercalate := by
  cases values with
  | none => rfl
  | some n => exact congrArg (fun row => [row]) (gist_entry lead key hlead (isWord_of_isName (h n rfl)))

theorem groups_arguments (hf : f.Over Sdl.IsName) :
    (argumentParts f.arguments).flatMap Part.groups =
      (argumentRows f.arguments).map [':'].intercalate := by
  have hlead : gist "argGraphQLTypeMap: ".toList = "argGraphQLTypeMap".toList ++ [':'] := by decide
  have hargument (argument : String × String) (h : argument ∈ f.arguments) :
      gist (argument.1 ++ ": '" ++ argument.2 ++ "'").toList =
        [':'].intercalate (argumentWords argument) :=
    gist_argument (isWord_argument hf h).1 (isWord_argument hf h).2
  cases harguments : f.arguments with
  | nil => rfl
  | cons first rest =>
    rw [harguments, List.forall_mem_cons] at hargument
    simp only [argumentParts, List.map_cons, List.flatMap_singleton, Part.groups, argumentRows, hlead,
      hargument.1]
    refine congrArg₂ List.cons ?_ ?_
    · exact (List.intercalate_cons_of_ne_nil (by simp [argumentWords])).symm
    · rw [List.map_map, List.map_map]
      exact List.map_congr_left hargument.2

theorem groups_flag {flag : Bool} :
    (if flag then [Part.text "undefinable: true"] else []).flatMap Part.groups =
      (if flag then [flagRow] else []).map [':'].intercalate := by
  cases flag <;> decide

/-- The parts say what the rows of the field are. -/
theorem groups_parts (hf : f.Over Sdl.IsName) :
    (parts f).flatMap Part.groups = (fullRows f).map [':'].intercalate := by
  have hcategory := gist_entry "category: \"" "category" (by decide) (isWord_word f.category)
  have hname := gist_entry "name: \"" "name" (by decide) (isWord_of_isName hf.name)
  have hconnection :=
    groups_entries "connectionTypeName: \"" "connectionTypeName" (by decide) hf.connection
  have hedge := groups_entries "edgeTypeName: \"" "edgeTypeName" (by decide) hf.edge
  have htarget := groups_entries "targetTypeName: \"" "targetTypeName" (by decide) hf.target
  rw [parts, fullRows]
  simp only [List.flatMap_cons, List.flatMap_append, List.map_cons, List.map_append, groups_flag,
    groups_arguments hf, hconnection, hedge, htarget]
  rw [Part.groups, Part.groups, hcategory, hname]
  rfl

theorem gist_append_ne_nil {s t : String} (h : gist t.toList ≠ []) : gist (s ++ t).toList ≠ [] := by
  rw [String.toList_append, gist_append]
  exact List.append_ne_nil_of_right_ne_nil _ h

theorem speaks_parts : ∀ part ∈ parts f, part.Speaks := by
  have hquoted (s : String) : Part.Speaks (.text (s ++ "\"")) := gist_append_ne_nil (by decide)
  have hentries (values : Option String) (lead : String) :
      ∀ part ∈ values.toList.map fun n => Part.text (lead ++ n ++ "\""), part.Speaks :=
    List.forall_mem_map.2 fun n _ => hquoted (lead ++ n)
  have htable : ∀ part ∈ argumentParts f.arguments, part.Speaks := by
    cases f.arguments with
    | nil => exact nofun
    | cons first rest =>
      rw [argumentParts, List.forall_mem_singleton]
      refine ⟨List.cons_ne_nil _ _, List.forall_mem_map.2 fun argument _ => ?_⟩
      exact gist_append_ne_nil (by decide)
  have hflag : ∀ part ∈ (if f.undefinable then [Part.text "undefinable: true"] else []),
      part.Speaks := by
    split
    · exact List.forall_mem_singleton.2 (by decide : gist "undefinable: true".toList ≠ [])
    · exact nofun
  simp only [parts, List.forall_mem_cons, List.forall_mem_append]
  exact ⟨hquoted _, hquoted _, ⟨⟨⟨htable, hentries _ _⟩, hentries _ _⟩, hentries _ _⟩, hflag⟩

/-! ### Courses -/

theorem map_act?_listing {α : Type} {items : List α} {kind : RegionKind} {multiline : Bool}
    {separator : Option String} {ops : α → List Op} {acts : α → List Act}
    (h : ∀ item, (ops item).map Op.act? = (acts item).map some) :
    (Op.listing kind multiline separator (items.map ops)).map Op.act? =
      (Draft.listing kind multiline separator (items.map acts)).map some := by
  have hitems : ((items.map ops).flatMap (.separator separator :: ·)).map Op.act? =
      ((items.map acts).flatMap (.separate separator :: ·)).map some := by
    induction items with
    | nil => rfl
    | cons item rest ih =>
      simp only [List.map_cons, List.flatMap_cons, List.map_append, ih, h]
      rfl
  rw [Op.listing, Draft.listing, List.map_append, List.map_append, List.map_cons, List.map_cons, hitems]
  rfl

theorem map_act?_ops (part : Part) : part.ops.map Op.act? = part.acts.map some := by
  cases part with
  | text s => rfl
  | table lead texts =>
    have htexts : (Op.listing .block false (some ", ") (texts.map fun s => [.text s])).map Op.act? =
        (Draft.listing .block false (some ", ") (texts.map fun s => [.text s])).map some :=
      map_act?_listing fun _ => rfl
    exact congrArg (some (.text lead) :: ·) htexts

/-- The descriptor of a field adds strokes that say its rows, wherever it is written. -/
theorem exists_adds_descriptorScript (hf : f.Over Sdl.IsName) (sheet : Sheet) (closed : Bool)
    (d : Draft) : ∃ strokes, Op.Adds sheet closed d (Builder.descriptorScript f) strokes ∧
      said strokes = [','].intercalate ((rows f).map [':'].intercalate) := by
  by_cases h : f.isShorthand = true
  · refine ⟨Stroke.ofText d.regions.length ("\"" ++ f.name ++ "\""), ?_, ?_⟩
    · rw [Builder.descriptorScript, if_pos h]
      exact .ofCourse rfl
    · have hname : IsWord ("\"" ++ f.name ++ "\"").toList := by
        rw [String.toList_append, String.toList_append]
        exact ((by decide : IsWord "\"".toList).append (isWord_of_isName hf.name)).append (by decide)
      rw [said_ofText, hname.gist_eq, rows, if_pos h]
      simp [quoted]
  · -- In full, the descriptor is a listing of parts, and one of the parts can say several rows.
    have hfull : f.isShorthand = false := by simpa using h
    obtain ⟨strokes, hperform, hsaid⟩ := exists_listing (parts f) Part.acts
      (fun part => [','].intercalate part.groups) true (some ",") (fun part _ => part.bracketed_acts)
      (fun part hpart => (speaks_parts part hpart).said_asked)
      (fun part hpart => (speaks_parts part hpart).intercalate_ne_nil) (by decide) d
    have hcourse : Op.courseAll sheet (Builder.descriptorScript f) closed = .doing closed
        (Draft.listing .block true (some ",") ((parts f).map Part.acts)) := by
      apply Op.courseAll_of_act?
      rw [descriptorScript_eq hfull, map_act?_listing map_act?_ops]
    refine ⟨strokes, ⟨?_, ?_, Op.isImport_courseAll _ Builder.isBodyAll_descriptorScript, ?_⟩, ?_⟩
    · rw [hcourse]
      rfl
    · rw [hcourse]
      rfl
    · rw [hcourse]
      exact hperform
    · rw [hsaid, intercalate_flatMap fun part hpart => (speaks_parts part hpart).groups_ne_nil,
        groups_parts hf, rows, if_neg h]

end Descriptor

/-! ## Pages -/

/-- Operations that add strokes to a draft append the layout of those to a page that holds it. -/
theorem Page.Lays.runAll {p : Page} {d : Draft} (h : p.Lays d) {ops : List Op} {strokes : List Stroke}
    (hadds : Op.Adds p.sheet p.importsClosed d ops strokes) :
    (Op.runAll ops p).1 = .ok () ∧ (Op.runAll ops p).2.body =
      p.body ++ String.ofList (layout p.settings.indent.toList d.endsLine strokes) := by
  have hrun : Writing.Leads (Op.courseAll p.sheet ops p.importsClosed) p (Op.runAll ops p).1
    (Op.runAll ops p).2 := Op.follows_runAll ops p
  have hlays := hrun.lays h
  refine ⟨?_, ?_⟩
  · rw [Op.runAll_eq]
    exact hadds.ok
  · have hsettings : (Op.runAll ops p).2.settings = p.settings := congrArg Sheet.settings hrun.sheet
    rw [← String.toList_inj, hlays.body, hsettings, hadds.draft, Draft.strokes_add, layout_append,
      ← h.body, String.toList_append, String.toList_ofList]
    rfl

namespace Builder

variable {f g : SelectableField}

theorem descriptor_congr (hf : f.isShorthand = true) (hg : g.isShorthand = true)
    (hname : f.name = g.name) : descriptor f = descriptor g := by
  rw [descriptor, descriptor, if_pos hf, if_pos hg, hname]

/-- What the runtime is told about a field says everything about it, wherever that is written and however
it is indented: the field is decoded from the text that is appended. Only of a scalar that is described by
its name alone, no more than the name is told. So the same text is appended for two fields if and only if
they are one, or are both described by one name alone. -/
theorem descriptor_decodes (hf : f.Over Sdl.IsName) (hg : g.Over Sdl.IsName) {sheet : Sheet}
    (hindent : Text.allBlank sheet.settings.indent = true) (ops : List Op) :
    let p := (Op.replay sheet.fresh ops).2
    (∃ text, (descriptor f p).1 = .ok () ∧ (descriptor f p).2.body = p.body ++ text ∧
      Descriptor.decode text = if f.isShorthand then { name := f.name } else f) ∧
    ((descriptor f p).2.body = (descriptor g p).2.body ↔
      f = g ∨ f.isShorthand = true ∧ g.isShorthand = true ∧ f.name = g.name) := by
  intro p
  -- The page lays out some draft, and a descriptor adds the same strokes to every draft.
  obtain ⟨hsheet, hlays⟩ : p.sheet = sheet ∧ p.Lays _ := Op.lays_replay ops sheet.lays_fresh
  have happends (f : SelectableField) (hf : f.Over Sdl.IsName) :
      ∃ text, (descriptor f p).1 = .ok () ∧ (descriptor f p).2.body = p.body ++ text ∧
        Descriptor.decode text = Descriptor.meant f := by
    obtain ⟨strokes, hadds, hsaid⟩ :=
      Descriptor.exists_adds_descriptorScript hf p.sheet p.importsClosed _
    obtain ⟨hok, hbody⟩ := hlays.runAll hadds
    rw [descriptor_eq]
    refine ⟨_, hok, hbody, Descriptor.decode_eq hf ?_⟩
    have hblank : ∀ c ∈ p.settings.indent.toList, Text.isBlank c = true := by
      rw [show p.settings = sheet.settings from congrArg Sheet.settings hsheet]
      simpa [Text.allBlank] using hindent
    rw [String.toList_ofList, Descriptor.gist_layout hblank, hsaid]
  refine ⟨happends f hf, ?_⟩
  obtain ⟨text, -, hbody, hdecode⟩ := happends f hf
  obtain ⟨other, -, hother, hdecodeOther⟩ := happends g hg
  constructor
  · intro hsame
    have htext : text = other := by
      rw [hbody, hother, ← String.toList_inj, String.toList_append, String.toList_append] at hsame
      exact String.toList_inj.1 (List.append_cancel_left hsame)
    apply Descriptor.meant_eq_iff.1
    rw [← hdecode, htext, hdecodeOther]
  · rintro (rfl | ⟨hf, hg, hname⟩)
    · rfl
    · rw [descriptor_congr hf hg hname]

/-- A field of which everything is told but that a value can be missing. -/
def searchField : SelectableField where
  name := "search"
  category := .connection
  arguments := [("first", "Int"), ("ids", "[ID!]!")]
  target := some "Book"
  connection := some "BookConnection"
  edge := some "BookEdge"

/-- The same field with its arguments in the other order. -/
def swappedField : SelectableField :=
  { searchField with arguments := searchField.arguments.reverse }

/-- A page on which a list in lines is open, and in that a block. -/
def openPage : Page :=
  (Op.replay Op.blankSheet.fresh [.enter .array true, .text "a,", .enter .block false]).2

theorem descriptor_decodes_searchField :
    (∃ text, (descriptor searchField openPage).2.body = "[\n\ta,\x7b" ++ text ∧
      Descriptor.decode text = searchField) ∧
    (descriptor searchField openPage).2.body ≠ (descriptor swappedField openPage).2.body := by
  have harguments : ∀ a ∈ searchField.arguments,
      Sdl.IsName a.1 ∧ ∃ type : TypeRef, Sdl.IsName type.base ∧ a.2 = type.spelling := by
    refine List.forall_mem_cons.2 ⟨⟨by decide, .named "Int", by decide, rfl⟩, ?_⟩
    refine List.forall_mem_singleton.2 ⟨by decide, ?_⟩
    exact ⟨.nonNull (.list (.nonNull (.named "ID"))), by decide, by decide⟩
  have hsearch : searchField.Over Sdl.IsName := by
    refine ⟨by decide, harguments, ?_, ?_, ?_⟩ <;> rintro _ ⟨⟩ <;> decide
  have hswapped : swappedField.Over Sdl.IsName :=
    ⟨hsearch.name, fun a ha => harguments a (List.mem_reverse.1 ha), hsearch.connection, hsearch.edge,
      hsearch.target⟩
  have hindent : Text.allBlank Op.blankSheet.settings.indent = true := by decide
  obtain ⟨⟨text, -, hbody, hdecode⟩, hsame⟩ := descriptor_decodes hsearch hswapped hindent
    [.enter .array true, .text "a,", .enter .block false]
  refine ⟨⟨text, ?_, hdecode⟩, fun h => ?_⟩
  · have hbefore : openPage.body = "[\n\ta,\x7b" := by decide
    rw [← hbefore]
    exact hbody
  · rcases hsame.1 h with hfields | ⟨hshorthand, -⟩
    · exact absurd hfields (by decide)
    · exact absurd hshorthand (by decide)

/-- A scalar that leads to a type. -/
def leadingScalar : SelectableField := { name := "a", target := some "B" }

/-- What a scalar leads to is lost, since its name is all that is told of it. -/
theorem descriptor_loses_target : leadingScalar.Over Sdl.IsName ∧
    ({ name := "a" } : SelectableField).Over Sdl.IsName ∧
    Text.allBlank Op.blankSheet.settings.indent = true ∧
    leadingScalar ≠ { name := "a" } ∧
    (descriptor leadingScalar Op.blankSheet.fresh).2.body =
      (descriptor { name := "a" } Op.blankSheet.fresh).2.body := by
  have hleading : leadingScalar.Over Sdl.IsName := by
    refine ⟨by decide, nofun, nofun, nofun, ?_⟩
    rintro _ ⟨⟩
    decide
  have hsame : descriptor leadingScalar = descriptor { name := "a" } := descriptor_congr rfl rfl rfl
  refine ⟨hleading, ⟨by decide, nofun, nofun, nofun, nofun⟩, by decide, by decide, ?_⟩
  rw [hsame]

end Builder

end TypedQuery
