-- SUMMARY: The text of a reference to a type does not depend on where it is written.
import TypedQuery.Proofs.Artifact.Failures
import TypedQuery.Proofs.Emit.Regions
import TypedQuery.Proofs.Schema.Regular
import TypedQuery.Proofs.Sdl.Names

/-!
# Texts of references

A reference to a type is written in pieces, with a region for every list and one around the members of a
union. On a page where no line break is pending the pieces amount to one text, which is defined by
recursion on the reference and does not depend on the page: `Sheet.typeText`. This takes that no piece
holds a line break, because what comes behind one is indented by the regions that are open there.
-/
namespace TypedQuery

/-! ## Lines -/

namespace Text

/-- The text stays on one line. -/
def IsLine (s : String) : Prop := '\n' ∉ s.toList

instance (s : String) : Decidable (IsLine s) := inferInstanceAs (Decidable ('\n' ∉ s.toList))

variable {s t : String}

theorem IsLine.append (hs : IsLine s) (ht : IsLine t) : IsLine (s ++ t) := by
  intro h
  rw [String.toList_append] at h
  exact (List.mem_append.1 h).elim hs ht

theorem IsLine.join {texts : List String} (h : ∀ s ∈ texts, IsLine s) : IsLine (String.join texts) := by
  induction texts with
  | nil => exact nofun
  | cons s rest ih =>
    obtain ⟨hs, hrest⟩ := List.forall_mem_cons.1 h
    rw [String.join_cons]
    exact hs.append (ih hrest)

/-- Texts with a separator between them are the first one and the others, each behind the separator. -/
theorem intercalate_cons_eq {separator : String} {others : List String} :
    separator.intercalate (s :: others) = s ++ String.join (others.map (separator ++ ·)) := by
  induction others generalizing s with
  | nil => simp
  | cons t rest ih => simp [String.intercalate_cons_cons, ih, String.append_assoc]

theorem IsLine.intercalate {separator : String} {texts : List String} (hs : IsLine separator)
    (h : ∀ t ∈ texts, IsLine t) : IsLine (separator.intercalate texts) := by
  cases texts with
  | nil => exact nofun
  | cons t rest =>
    obtain ⟨ht, hrest⟩ := List.forall_mem_cons.1 h
    rw [intercalate_cons_eq]
    exact ht.append (.join (List.forall_mem_map.2 fun u hu => hs.append (hrest u hu)))

theorem isLine_of_isName (h : Sdl.IsName s) : IsLine s := fun hbreak => by
  have hchar := h.2 _ hbreak
  revert hchar
  decide

end Text

open Text

/-! ## Lines on pages -/

namespace Page

variable {p : Page} {s : String} {kind : RegionKind}

theorem indentLines_line {indentation cs : List Char} (h : '\n' ∉ cs) :
    indentLines indentation false cs = cs ∧ pendingAfter false cs = false := by
  induction cs with
  | nil => exact ⟨rfl, rfl⟩
  | cons c rest ih =>
    obtain ⟨hc, hrest⟩ := not_or.1 (mt List.mem_cons.2 h)
    obtain ⟨hlines, hpending⟩ := ih hrest
    simp [indentLines, pendingAfter, Ne.symm hc, hlines, hpending]

/-- Text on a line that has begun is written as it is. -/
theorem text_line (hp : p.pending = false) (hs : IsLine s) : p.text s =
    { p with regions := if s = "" then p.regions else markWritten p.regions, body := p.body ++ s } := by
  obtain ⟨hlines, hpending⟩ : indentLines p.indentation false s.toList = s.toList ∧
    pendingAfter false s.toList = false := indentLines_line hs
  unfold text
  by_cases hempty : s = ""
  · simp [hempty]
  · simp [hempty, hp, hlines, hpending]

theorem isLine_opening : IsLine kind.opening := by cases kind <;> decide

theorem isLine_closing : IsLine kind.closing := by cases kind <;> decide

theorem pending_text_line (hp : p.pending = false) (hs : IsLine s) : (p.text s).pending = false := by
  rw [text_line hp hs]
  exact hp

theorem pending_enter_line (hp : p.pending = false) : (p.enter kind false).pending = false := by
  rw [enter_eq]
  exact pending_text_line hp (isLine_opening.append (by decide))

/-- On one line a region is its tokens around what is written into it. -/
theorem region_line (hp : p.pending = false) (hs : IsLine s) :
    ((p.enter kind false).text s).leave = p.text (kind.opening ++ s ++ kind.closing) := by
  have hentered : (p.enter kind false).text s =
      { p with
        regions := ⟨kind, false, s ≠ ""⟩ :: (p.text kind.opening).regions
        body := p.body ++ kind.opening ++ s } := by
    rw [text_line (pending_enter_line hp) hs, enter_eq]
    by_cases hempty : s = "" <;>
      simp [hempty, markWritten, text_line hp isLine_opening]
  have hwhole : IsLine (kind.opening ++ s ++ kind.closing) :=
    (isLine_opening.append hs).append isLine_closing
  rw [hentered, leave, leaveWith_eq rfl, text_line hp hwhole]
  simp only [Bool.false_and, Bool.false_eq_true, if_false, String.empty_append, String.append_empty]
  rw [text_line ?_ isLine_closing, text_line hp isLine_opening]
  · cases kind <;> by_cases hempty : s = "" <;>
      simp [hempty, RegionKind.opening, RegionKind.closing, String.append_assoc]
  · exact hp

/-- Once a region that adds nothing is written into, every name in it follows a bar. -/
theorem foldl_members {q : Page} {outer : List Region} {members : List String}
    (hregions : q.regions = ⟨.blank, false, true⟩ :: outer) :
    members.foldl (fun q m => (q.separate (some " | ")).text m) q =
      q.text (String.join (members.map (" | " ++ ·))) := by
  induction members generalizing q with
  | nil => rfl
  | cons m rest ih =>
    have hbar : q.separate (some " | ") = q.text " | " := separate_eq hregions
    have hmarked : ((q.text " | ").text m).regions = ⟨.blank, false, true⟩ :: outer := by
      have happend : " | " ++ m ≠ "" := by simp
      rw [text_text, regions_text happend, hregions]
      rfl
    rw [List.foldl_cons, hbar, ih hmarked, text_text, text_text, List.map_cons, String.join_cons,
      String.append_assoc]

/-- The members of a union, written in a region that adds nothing, have bars between them. -/
theorem members_line {members : List String} (hp : p.pending = false)
    (h : ∀ m ∈ members, m ≠ "" ∧ IsLine m) :
    (members.foldl (fun q m => (q.separate (some " | ")).text m) (p.enter .blank false)).leave =
      p.text (" | ".intercalate members) := by
  cases members with
  | nil =>
    have hempty : ((p.enter .blank false).text "").leave = p.text "" := region_line hp (by decide)
    exact hempty
  | cons first others =>
    obtain ⟨⟨hfirst, hline⟩, hothers⟩ := List.forall_mem_cons.1 h
    have hentered : (p.enter .blank false).regions = ⟨.blank, false, false⟩ :: p.regions := rfl
    have hseparate : (p.enter .blank false).separate (some " | ") = p.enter .blank false :=
      separate_eq hentered
    have hmarked : ((p.enter .blank false).text first).regions =
        ⟨.blank, false, true⟩ :: p.regions := by
      rw [regions_text hfirst, hentered]
      rfl
    have hall : IsLine (first ++ String.join (others.map (" | " ++ ·))) :=
      hline.append (.join (List.forall_mem_map.2 fun m hm =>
        IsLine.append (by decide) (hothers m hm).2))
    -- No bar stands before the first name: the region has not been written into by then.
    rw [List.foldl_cons, hseparate, foldl_members hmarked, text_text, region_line hp hall,
      intercalate_cons_eq]
    simp [RegionKind.opening, RegionKind.closing]

end Page

/-! ## References -/

namespace Sheet

/-- The text of a named type: of a scalar what is configured for it or usual, of an enum or an input
object its name, and of a composite type what stands in for it or its name or, of a union, its members. -/
def nameText (sheet : Sheet) (standIn : Option String) (name : String) : String :=
  match sheet.schema.get? name with
  | some (.scalar _) => sheet.scalarText name
  | some (.object _) | some (.interface _) => standIn.getD name
  | some (.union u) => standIn.getD (" | ".intercalate u.members)
  | some (.enum _) | some (.input _) => name
  | none => ""

/-- The text of a reference to a type. -/
def typeText (sheet : Sheet) (standIn : Option String) : TypeRef → String
  | .nonNull inner => sheet.typeText standIn inner
  | .list item =>
    (if sheet.settings.arraysEditable then "Array" else "ReadonlyArray") ++ "<" ++
      sheet.typeText standIn item ++ (if item.isNullable then " | undefined" else "") ++ ">"
  | .named name => sheet.nameText standIn name

/-- Nothing that references are written with holds a line break, and members of unions have names. -/
structure Lines (sheet : Sheet) (standIn : Option String) : Prop where
  names : ∀ d ∈ sheet.schema.types, IsLine d.name
  members : ∀ u, .union u ∈ sheet.schema.types → ∀ m ∈ u.members, m ≠ "" ∧ IsLine m
  scalars : ∀ scalar target, sheet.settings.scalarTypes.get? scalar = some target → IsLine target
  standIn : ∀ s, standIn = some s → IsLine s

variable {sheet : Sheet} {standIn : Option String} {name : String} {type : TypeRef}

/-- In a schema that is read from a text, all names are lines. -/
theorem Lines.ofParse {text : String} (h : Schema.parse text = .ok sheet.schema)
    (hscalars : ∀ scalar target, sheet.settings.scalarTypes.get? scalar = some target → IsLine target)
    (hstandIn : ∀ s, standIn = some s → IsLine s) : sheet.Lines standIn := by
  have hnamed := Schema.named_of_parse h
  refine ⟨fun d hd => isLine_of_isName (Schema.isName_of_parse h d hd), fun u hu m hm => ?_, hscalars,
    hstandIn⟩
  have hname : Sdl.IsName m :=
    hnamed m (List.mem_flatMap.2 ⟨.union u, hu, List.mem_cons_of_mem _ hm⟩)
  exact ⟨hname.1, isLine_of_isName hname⟩

namespace Lines

theorem scalarText (h : sheet.Lines standIn) : IsLine (sheet.scalarText name) := by
  unfold Sheet.scalarText
  split
  · next target hconfigured => exact h.scalars name target hconfigured
  · cases husual : Writing.usualScalarTypes.lookup name with
    | none => exact nofun
    | some target =>
      obtain ⟨before, behind, hall, _⟩ := List.lookup_eq_some_iff.1 husual
      have hlines : ∀ e ∈ Writing.usualScalarTypes, IsLine e.2 := by decide
      exact hlines (name, target) (by rw [hall]; simp)

theorem nameText (h : sheet.Lines standIn) : IsLine (sheet.nameText standIn name) := by
  have hcomposite {s : String} (hs : IsLine s) : IsLine (standIn.getD s) := by
    cases hstandIn : standIn with
    | none => exact hs
    | some t => exact h.standIn t hstandIn
  unfold Sheet.nameText
  cases hget : sheet.schema.get? name with
  | none => exact nofun
  | some d =>
    obtain ⟨hd, hname⟩ := Schema.get?_eq_some_iff.1 hget
    have hline : IsLine name := hname ▸ h.names d hd
    cases d with
    | scalar _ => exact h.scalarText
    | object _ | interface _ => exact hcomposite hline
    | union u => exact hcomposite (.intercalate (by decide) fun m hm => (h.members u hd m hm).2)
    | enum _ | input _ => exact hline

theorem typeText (h : sheet.Lines standIn) : IsLine (sheet.typeText standIn type) := by
  induction type with
  | named name => exact h.nameText
  | nonNull inner ih => exact ih
  | list item ih =>
    rw [Sheet.typeText]
    refine (((IsLine.append ?_ (by decide)).append ih).append ?_).append (by decide)
    · split <;> decide
    · split <;> decide

end Lines

end Sheet

namespace Writing

variable {p : Page} {type : TypeRef} {standIn : Option String} {name : String}

theorem namedType_eq (h : p.sheet.Lines standIn) (hp : p.pending = false)
    (hok : p.sheet.check name = .ok ()) :
    namedType name standIn p = (.ok (), p.text (p.sheet.nameText standIn name)) := by
  unfold Sheet.check at hok
  unfold namedType Sheet.nameText
  simp only [Page.sheet] at hok ⊢
  cases hget : p.schema.get? name with
  | none => simp [hget] at hok
  | some d =>
    rw [hget] at hok
    cases d with
    | scalar _ =>
      cases htarget : scalarType? p.settings name with
      | none => simp [htarget] at hok
      | some target =>
        have htext : p.sheet.scalarText name = target := Sheet.scalarText_of_scalarType? htarget
        exact congrArg (fun s => (Except.ok (), p.text s)) htext.symm
    | union u =>
      cases standIn with
      | some s => rfl
      | none =>
        have hmembers := h.members u (Schema.get?_eq_some_iff.1 hget).1
        exact congrArg (Prod.mk _) (Page.members_line hp hmembers)
    | object _ | interface _ | enum _ | input _ => rfl

/-- A reference that is not refused writes its text, and nothing else happens. -/
theorem typeRef_eq (h : p.sheet.Lines standIn) (hp : p.pending = false)
    (hok : p.sheet.check type.base = .ok ()) :
    typeRef type standIn p = (.ok (), p.text (p.sheet.typeText standIn type)) := by
  induction type generalizing p with
  | named name => exact namedType_eq h hp hok
  | nonNull inner ih => exact ih h hp hok
  | list item ih =>
    have hword : Text.IsLine (if p.settings.arraysEditable then "Array" else "ReadonlyArray") := by
      split <;> decide
    generalize hopened : (p.text
      (if p.settings.arraysEditable then "Array" else "ReadonlyArray")) = opened
    have hopenedPending : opened.pending = false := hopened ▸ Page.pending_text_line hp hword
    have hsheet : (opened.enter .generic false).sheet = p.sheet := by
      rw [Page.sheet_enter, ← hopened, Page.sheet_text]
    have hitem := ih (hsheet ▸ h) (Page.pending_enter_line hopenedPending) (hsheet ▸ hok)
    have hline : Text.IsLine (p.sheet.typeText standIn item ++
        if item.isNullable then " | undefined" else "") :=
      h.typeText.append (by split <;> decide)
    have hinside : (if item.isNullable then
          ((opened.enter .generic false).text (p.sheet.typeText standIn item)).text " | undefined"
        else (opened.enter .generic false).text (p.sheet.typeText standIn item)) =
        (opened.enter .generic false).text (p.sheet.typeText standIn item ++
          if item.isNullable then " | undefined" else "") := by
      rw [← Page.text_text]
      split <;> rfl
    rw [typeRef_list, hopened, hitem, hsheet]
    dsimp only
    rw [hinside, Page.region_line hopenedPending hline, ← hopened, Page.text_text, Sheet.typeText]
    simp only [RegionKind.opening, RegionKind.closing, String.append_assoc]
    rfl

/-- On a page where no line break is pending, a reference is refused if its name is not known or is an
unmapped scalar, and only then. Any other adds its text to the body, whatever stands there and whatever
regions are open, and as many regions are open behind it as before. -/
theorem typeRef_writes (h : p.sheet.Lines standIn) (hp : p.pending = false) :
    (∀ failure, (typeRef type standIn p).1 = .error failure ↔
      p.schema.get? type.base = none ∧ failure = .unknownType type.base (.file p.location.path) ∨
      p.schema.Unmapped p.settings type ∧ failure = .unknownScalar type.base) ∧
    ((typeRef type standIn p).1 = .ok () →
      (typeRef type standIn p).2 = p.text (p.sheet.typeText standIn type) ∧
      (typeRef type standIn p).2.body = p.body ++ p.sheet.typeText standIn type ∧
      (typeRef type standIn p).2.regions.length = p.regions.length) := by
  rw [result_typeRef]
  refine ⟨fun failure => ?_, fun hok => ?_⟩
  · cases hget : p.schema.get? type.base with
    | none =>
      have hmapped : ¬ p.schema.Unmapped p.settings type := fun hscalar => by
        simpa [hget] using hscalar.scalar
      have hcheck : p.sheet.check type.base =
          .error (.unknownType type.base (.file p.location.path)) := by
        unfold Sheet.check
        simp only [Page.sheet, hget]
      simp [hcheck, hmapped, eq_comm]
    | some d =>
      have hknown : (p.sheet.schema.get? type.base).isSome := Option.isSome_of_eq_some hget
      rw [Sheet.check_eq_error_iff hknown, and_comm]
      simp [Page.sheet]
  · have hpage := typeRef_eq h hp hok
    rw [hpage]
    refine ⟨rfl, ?_, Page.Touched.text.length_eq⟩
    dsimp only
    rw [Page.text_line hp h.typeText]

/-! ## A shelf -/

/-- A schema of books and films, either of which may be lent. -/
def shelf : Schema where
  types := [.object ⟨"Book", [], []⟩, .object ⟨"Film", [], []⟩, .union ⟨"Item", ["Book", "Film"]⟩,
    .scalar "Isbn", .scalar "String", .scalar "Int", .scalar "Float", .scalar "Boolean", .scalar "ID"]
  roots := .unset
  distinct := by decide

/-- Identifiers have a type of their own in generated code. -/
def branded : Settings := { scalarTypes := (∅ : NameMap String).insert "ID" "Brand" }

/-- A page on which the parameters of a function have been begun. -/
def shelfPage : Page :=
  ((Sheet.fresh ⟨shelf, branded, ⟨.root, "index", none⟩⟩).enter .parameters false).text "item: "

theorem parse_shelf :
    Schema.parse "type Book type Film union Item = Book | Film scalar Isbn" = .ok shelf := by
  cbv

theorem lines_shelf : shelfPage.sheet.Lines none := by
  refine .ofParse parse_shelf (fun scalar target hconfigured => ?_) nofun
  have hmem : (scalar, target) ∈ [("ID", "Brand")] := NameMap.get?_eq_some_iff.1 hconfigured
  cases List.mem_singleton.1 hmem
  decide

/-- A list of lists of a union, a scalar that is configured although there is a usual type for it, one
that is not, and two references that are refused. -/
theorem typeRef_writes_items : shelfPage.sheet.Lines none ∧ shelfPage.pending = false ∧
    (typeRef (.nonNull (.list (.list (.named "Item")))) none shelfPage).2.body =
      "(item: ReadonlyArray<ReadonlyArray<Book | Film | undefined> | undefined>" ∧
    (typeRef (.list (.named "ID")) none shelfPage).2.body =
      "(item: ReadonlyArray<Brand | undefined>" ∧
    (typeRef (.list (.nonNull (.named "Int"))) none shelfPage).2.body =
      "(item: ReadonlyArray<number>" ∧
    (typeRef (.list (.named "Isbn")) none shelfPage).1 = .error (.unknownScalar "Isbn") ∧
    (typeRef (.list (.named "Disc")) none shelfPage).1 =
      .error (.unknownType "Disc" (.file "index.ts")) := by
  have hpending : shelfPage.pending = false := by decide
  have hbody {type : TypeRef} (hok : (typeRef type none shelfPage).1 = .ok ()) :=
    ((typeRef_writes lines_shelf hpending).2 hok).2.1
  have hrefused {type : TypeRef} {failure : Error} :
      (typeRef type none shelfPage).1 = .error failure ↔ _ :=
    (typeRef_writes lines_shelf hpending).1 failure
  refine ⟨lines_shelf, hpending, ?_, ?_, ?_, hrefused.2 (.inr ⟨?_, rfl⟩),
    hrefused.2 (.inl ⟨by decide, ?_⟩)⟩
  · rw [hbody (by decide)]
    decide
  · rw [hbody (by decide)]
    decide
  · rw [hbody (by decide)]
    decide
  · exact ⟨by decide, by decide, by decide⟩
  · cbv

end Writing

end TypedQuery
