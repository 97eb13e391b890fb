-- SUMMARY: Which regions writing leaves open, whether it succeeds or fails.
import TypedQuery.Proofs.Emit.References
import TypedQuery.Proofs.Emit.Separators

/-!
# Open regions

Writing that opens regions and leaves them again gives back the open regions that it found, but that
the innermost of them may have been written into: `Page.Touched`. A reference to a type opens a region
for every list, and does not leave it when it fails inside. The regions around it are left all the same,
one region for another, so that as many stay open as there are lists around the name that was refused
(`Op.opens_runAll`).
-/
namespace TypedQuery

/-! ## Regions before and after -/

namespace Page

/-- The same regions are open, and the innermost may have been written into. -/
def Touched (before after : List Region) : Prop := after = before ∨ after = markWritten before

/-- The second page has the open regions of the first, and so many more inside of these. -/
def Opens (p : Page) (count : Nat) (q : Page) : Prop :=
  ∃ inner outer, q.regions = inner ++ outer ∧ inner.length = count ∧ Touched p.regions outer

variable {p q r : Page} {a b c : List Region} {count : Nat} {kind : RegionKind} {multiline : Bool}
  {s : String}

namespace Touched

theorem refl : Touched a a := .inl rfl

theorem trans (h : Touched a b) (hnext : Touched b c) : Touched a c := by
  rcases h with rfl | rfl
  · exact hnext
  · rcases hnext with rfl | rfl
    · exact .inr rfl
    · exact .inr markWritten_markWritten

theorem length_eq (h : Touched a b) : b.length = a.length := by
  rcases h with rfl | rfl
  · rfl
  · exact length_markWritten

theorem text : Touched p.regions (p.text s).regions := by
  by_cases hs : s = ""
  · rw [hs, text_empty]
    exact refl
  · exact .inr (regions_text hs)

/-- Of some regions and more around them, those around are not touched. -/
theorem exists_append (h : Touched (a ++ b) c) (ha : a ≠ []) :
    ∃ inner, c = inner ++ b ∧ inner.length = a.length := by
  rcases h with rfl | rfl
  · exact ⟨a, rfl, rfl⟩
  · obtain ⟨first, rest, rfl⟩ := List.exists_cons_of_ne_nil ha
    exact ⟨{ first with written := true } :: rest, rfl, rfl⟩

/-- The innermost region is left, and the others stay. -/
theorem leaveWith {region : Region} (h : p.regions = region :: a) :
    Touched a (p.leaveWith s).regions := by
  rw [leaveWith_eq h]
  refine trans ?_ text
  dsimp only
  split
  · exact .inr rfl
  · exact refl

theorem separate {separator : Option String} : Touched p.regions (p.separate separator).regions := by
  cases hregions : p.regions with
  | nil => simp [Page.separate, hregions, refl]
  | cons region outer =>
    rw [separate_eq hregions]
    split
    · exact hregions ▸ text
    · exact hregions ▸ refl

end Touched

@[simp] theorem sheet_enter : (p.enter kind multiline).sheet = p.sheet :=
  (sheet_act (a := .enter kind multiline)).1

/-- Behind the opening of a region, it is open inside of the others. -/
theorem exists_regions_enter (p : Page) (kind : RegionKind) (multiline : Bool) :
    ∃ outer, (p.enter kind multiline).regions = ⟨kind, multiline, false⟩ :: outer ∧
      Touched p.regions outer := by
  rw [enter_eq]
  exact ⟨_, rfl, .text⟩

namespace Opens

theorem ofTouched (h : Touched p.regions q.regions) : p.Opens 0 q := ⟨[], q.regions, rfl, rfl, h⟩

theorem touched (h : p.Opens 0 q) : Touched p.regions q.regions := by
  obtain ⟨inner, outer, hregions, hlength, htouched⟩ := h
  rwa [hregions, List.eq_nil_of_length_eq_zero hlength]

theorem length_eq (h : p.Opens count q) : q.regions.length = p.regions.length + count := by
  obtain ⟨inner, outer, hregions, hlength, htouched⟩ := h
  rw [hregions, List.length_append, hlength, htouched.length_eq, Nat.add_comm]

/-- No more regions are open if and only if those are open that were. -/
theorem touched_iff (h : p.Opens count q) : Touched p.regions q.regions ↔ count = 0 := by
  constructor
  · intro htouched
    have hlength := h.length_eq
    rw [htouched.length_eq] at hlength
    omega
  · rintro rfl
    exact h.touched

theorem trans (h : Touched p.regions q.regions) (hnext : q.Opens count r) : p.Opens count r := by
  obtain ⟨inner, outer, hregions, hlength, htouched⟩ := hnext
  exact ⟨inner, outer, hregions, hlength, h.trans htouched⟩

/-- From inside of a region, one more region is open. -/
theorem exists_cons (h : (p.enter kind multiline).Opens count q) :
    ∃ inner region outer, q.regions = inner ++ region :: outer ∧ inner.length = count ∧
      Touched p.regions outer := by
  obtain ⟨inner, after, hregions, hlength, htouched⟩ := h
  obtain ⟨outer, henter, houter⟩ := exists_regions_enter p kind multiline
  rw [henter] at htouched
  rcases htouched with rfl | rfl
  · exact ⟨inner, _, outer, hregions, hlength, houter⟩
  · exact ⟨inner, _, outer, hregions, hlength, houter⟩

theorem enter (h : (p.enter kind multiline).Opens count q) : p.Opens (count + 1) q := by
  obtain ⟨inner, region, outer, hregions, hlength, houter⟩ := h.exists_cons
  refine ⟨inner ++ [region], outer, ?_, ?_, houter⟩
  · rw [hregions, List.append_assoc, List.singleton_append]
  · rw [List.length_append, hlength, List.length_singleton]

/-- Leaving makes up for entering, whichever region it is that is left. -/
theorem leave (h : (p.enter kind multiline).Opens count q) : p.Opens count q.leave := by
  obtain ⟨inner, region, outer, hregions, rfl, houter⟩ := h.exists_cons
  cases inner with
  | nil => exact ofTouched (houter.trans (.leaveWith hregions))
  | cons first rest =>
    have htouched : Touched ((rest ++ [region]) ++ outer) q.leave.regions := by
      rw [List.append_assoc]
      exact .leaveWith hregions
    obtain ⟨inner, hleave, hlength⟩ := htouched.exists_append (by simp)
    exact ⟨inner, outer, hleave, by simpa using hlength, houter⟩

end Opens

end Page

/-! ## References to types -/

/-- The number of lists around the name. -/
def TypeRef.lists : TypeRef → Nat
  | named _ => 0
  | list item => item.lists + 1
  | nonNull inner => inner.lists

/-- How many regions stay open behind some references: one for every list around the first name that is
refused. -/
def Sheet.leftOpen (sheet : Sheet) : List (TypeRef × Option String) → Nat
  | [] => 0
  | (type, _) :: rest =>
    match sheet.check type.base with
    | .ok _ => sheet.leftOpen rest
    | .error _ => type.lists

namespace Sheet

variable {sheet : Sheet} {first second : List (TypeRef × Option String)}

theorem leftOpen_of_ok (h : (first.map (·.1.base)).forM sheet.check = .ok ()) :
    sheet.leftOpen (first ++ second) = sheet.leftOpen second := by
  induction first with
  | nil => rfl
  | cons ref rest ih =>
    obtain ⟨_, hname, hrest⟩ := bind_eq_ok_iff.1 h
    rw [List.cons_append, leftOpen, hname]
    exact ih hrest

theorem leftOpen_eq_zero (h : (first.map (·.1.base)).forM sheet.check = .ok ()) :
    sheet.leftOpen first = 0 := by
  have happend : sheet.leftOpen (first ++ []) = sheet.leftOpen [] := leftOpen_of_ok h
  rwa [List.append_nil] at happend

theorem leftOpen_of_error {failure : Error}
    (h : (first.map (·.1.base)).forM sheet.check = .error failure) :
    sheet.leftOpen (first ++ second) = sheet.leftOpen first := by
  induction first with
  | nil => cases h
  | cons ref rest ih =>
    rw [List.cons_append, leftOpen, leftOpen]
    rcases bind_eq_error_iff.1 h with hname | ⟨_, hname, hrest⟩
    · rw [hname]
    · rw [hname]
      exact ih hrest

end Sheet

namespace Writing

variable {p : Page} {type item : TypeRef} {standIn : Option String} {name : String}

/-- A reference fails if its name is refused, and for no other reason. -/
theorem result_typeRef : (typeRef type standIn p).1 = p.sheet.check type.base := by
  have hcourse := (follows_typeRef type standIn p).result
  rw [map_unit] at hcourse
  rw [hcourse, Course.Checks.ofRef.result, Sheet.forM_check_singleton]

/-- A list is a region around its item, which is not left if the item fails. -/
theorem typeRef_list : typeRef (.list item) standIn p =
    match typeRef item standIn ((p.text
      (if p.settings.arraysEditable then "Array" else "ReadonlyArray")).enter .generic false) with
    | (.ok (), q) => (.ok (), (if item.isNullable then q.text " | undefined" else q).leave)
    | (.error failure, q) => (.error failure, q) := by
  rw [typeRef]
  change (typeRef item standIn >>= _) ((p.text
    (if p.settings.arraysEditable then "Array" else "ReadonlyArray")).enter .generic false) = _
  rw [bind_run]
  rcases typeRef item standIn _ with ⟨_ | _, q⟩
  · rfl
  · cases item.isNullable <;> rfl

/-- A member is a reference to its type behind a text. -/
theorem property_eq : property name type standIn p = typeRef type standIn
    (p.text (readonlyWord p.settings ++ name ++ (if type.isNullable then "?" else "") ++ ": ")) := by
  rw [← Page.text_text, ← Page.text_text, ← Page.text_text, property]
  cases type.isNullable <;> rfl

theorem touched_namedType : Page.Touched p.regions (namedType name standIn p).2.regions := by
  unfold namedType
  split
  · exact .refl
  · split
    · exact .text
    · exact .refl
  · exact .text
  · exact .text
  · next u _ =>
    split
    · exact .text
    · have hmembers (members : List String) (q : Page) : Page.Touched q.regions
          (members.foldl (fun q m => (q.separate (some " | ")).text m) q).regions := by
        induction members generalizing q with
        | nil => exact .refl
        | cons m rest ih => exact (Page.Touched.separate.trans .text).trans (ih _)
      exact (Page.Opens.leave (.ofTouched (hmembers u.members _))).touched
  · exact .text
  · exact .text

/-- A reference leaves no region open if its name is written, and one for every list if it is refused.
-/
theorem opens_typeRef : p.Opens (p.sheet.leftOpen [(type, standIn)]) (typeRef type standIn p).2 := by
  induction type generalizing p with
  | named name =>
    have htouched : Page.Touched p.regions (namedType name standIn p).2.regions := touched_namedType
    have hnone : p.sheet.leftOpen [(.named name, standIn)] = 0 := by
      rw [Sheet.leftOpen]
      split <;> rfl
    exact hnone ▸ .ofTouched htouched
  | nonNull inner ih => exact ih
  | list item ih =>
    rw [typeRef_list]
    generalize hopened : p.text (if p.settings.arraysEditable then "Array" else "ReadonlyArray") =
      opened
    have htext : Page.Touched p.regions opened.regions := hopened ▸ .text
    have hsheet : (opened.enter .generic false).sheet = p.sheet := by
      rw [Page.sheet_enter, ← hopened, Page.sheet_text]
    have hitem := ih (p := opened.enter .generic false)
    have hresult : (typeRef item standIn (opened.enter .generic false)).1 =
        (opened.enter .generic false).sheet.check item.base := result_typeRef
    rw [hsheet, Sheet.leftOpen] at hitem
    rw [hsheet] at hresult
    rw [Sheet.leftOpen, TypeRef.base, TypeRef.lists]
    rcases hrun : typeRef item standIn (opened.enter .generic false) with ⟨failure | _, q⟩ <;>
      rw [hrun] at hitem hresult <;> rw [← hresult] at hitem ⊢
    · -- The item was refused. The region of the list has been entered by then, and is not left.
      exact .trans htext hitem.enter
    · refine .trans htext (.leave (.ofTouched (hitem.touched.trans ?_)))
      split
      · exact .text
      · exact .refl

theorem opens_property :
    p.Opens (p.sheet.leftOpen [(type, standIn)]) (property name type standIn p).2 := by
  rw [property_eq]
  have hsheet : (p.text (readonlyWord p.settings ++ name ++ (if type.isNullable then "?" else "") ++
      ": ")).sheet = p.sheet := Page.sheet_text
  exact .trans .text (hsheet ▸ opens_typeRef)

/-- A result that is given afterwards changes nothing on the page. -/
theorem snd_andReturn {α β : Type} {x : Writing α} {b : β} :
    ((x >>= fun _ => pure b) p).2 = (x p).2 := by
  rw [bind_run]
  rcases x p with ⟨_ | _, _⟩ <;> rfl

/-- What is written inside of a region may leave regions open; the region itself is left. -/
theorem opens_region {kind : RegionKind} {multiline : Bool} {inside : Writing Unit} {count : Nat}
    (h : (p.enter kind multiline).Opens count (inside (p.enter kind multiline)).2) :
    p.Opens count (region kind multiline inside p).2 :=
  h.leave

end Writing

/-! ## Operations -/

namespace Op

mutual

/-- The operation writes text, separators and references to types, and opens regions only around others
of its kind. -/
def isScoped : Op → Bool
  | text _ | separator _ | literal _ | property _ _ _ | typeRef _ _ => true
  | region _ _ inside => isScopedAll inside
  | enter _ _ | leave | leaveWith _ | importStatement _ | importType _ | importField _ | closeImports
  | readonlyWord => false

def isScopedAll : List Op → Bool
  | [] => true
  | op :: rest => op.isScoped && isScopedAll rest

end

mutual

theorem isBody_of_isScoped : (op : Op) → op.isScoped = true → op.isBody = true
  | text _, _ | separator _, _ | literal _, _ | property _ _ _, _ | typeRef _ _, _ => rfl
  | region _ _ inside, h => isBodyAll_of_isScopedAll inside h

theorem isBodyAll_of_isScopedAll : (ops : List Op) → isScopedAll ops = true → isBodyAll ops = true
  | [], _ => rfl
  | op :: rest, h =>
    have hboth := Bool.and_eq_true_iff.1 h
    Bool.and_eq_true_iff.2
      ⟨isBody_of_isScoped op hboth.1, isBodyAll_of_isScopedAll rest hboth.2⟩

end

variable {p : Page} {ops : List Op}

/-- An operation on the body ends as the check of its references does. -/
theorem result_run {op : Op} (h : op.isBody = true) :
    (op.run p).1.map (fun _ => ()) = (op.typeRefs.map (·.1.base)).forM p.sheet.check := by
  rw [(follows_run op p).result, (checks_course op h).result, references_eq_map]

theorem result_runAll (h : isBodyAll ops = true) :
    (runAll ops p).1 = ((typeRefsAll ops).map (·.1.base)).forM p.sheet.check := by
  rw [← referencesAll_eq_map, runAll_eq]
  exact (checks_courseAll ops h).result

mutual

/-- Scoped operations leave open what the first reference that is refused does. -/
theorem opens_run : (op : Op) → op.isScoped = true → ∀ p : Page,
    p.Opens (p.sheet.leftOpen op.typeRefs) (op.run p).2
  | text s, _, p => .ofTouched (.text (s := s))
  | separator s, _, p => .ofTouched (.separate : Page.Touched p.regions (p.separate s).regions)
  | literal s, _, p => .ofTouched (.text (s := "'" ++ s ++ "'"))
  | property _ _ _, _, p => by
    rw [run, Writing.snd_andReturn]
    exact Writing.opens_property
  | typeRef _ _, _, p => by
    rw [run, Writing.snd_andReturn]
    exact Writing.opens_typeRef
  | region kind multiline inside, h, p => by
    have hinside := opens_runAll inside h (p.enter kind multiline)
    rw [Page.sheet_enter] at hinside
    rw [run, Writing.snd_andReturn]
    exact Writing.opens_region hinside

theorem opens_runAll : (ops : List Op) → isScopedAll ops = true → ∀ p : Page,
    p.Opens (p.sheet.leftOpen (typeRefsAll ops)) (runAll ops p).2
  | [], _, _ => .ofTouched .refl
  | op :: rest, h, p => by
    obtain ⟨hop, hrest⟩ := Bool.and_eq_true_iff.1 h
    have hfirst := opens_run op hop p
    have hresult := result_run (p := p) (isBody_of_isScoped op hop)
    have hsheet := (follows_run op p).sheet
    rw [runAll, Writing.bind_run, typeRefsAll]
    rcases hrun : op.run p with ⟨failure | a, q⟩ <;> rw [hrun] at hfirst hresult hsheet
    · -- The operation was refused something, and the others are not carried out.
      rw [Sheet.leftOpen_of_error hresult.symm]
      exact hfirst
    · rw [Sheet.leftOpen_of_ok hresult.symm]
      rw [Sheet.leftOpen_eq_zero hresult.symm] at hfirst
      rw [← hsheet]
      exact .trans hfirst.touched (opens_runAll rest hrest q)

end

/-- A region around scoped operations ends as these do. Behind it the same regions are open as before if
and only if the operations succeed or no list is around the name that is refused; else there are as many
more as there are lists. A reference and a member leave as many open. -/
theorem region_restored_iff {inside : List Op} (h : isScopedAll inside = true) (p : Page)
    (kind : RegionKind) (multiline : Bool) :
    (Writing.region kind multiline (runAll inside) p).1 = (runAll inside (p.enter kind multiline)).1 ∧
    p.Opens (p.sheet.leftOpen (typeRefsAll inside))
      (Writing.region kind multiline (runAll inside) p).2 ∧
    (Page.Touched p.regions (Writing.region kind multiline (runAll inside) p).2.regions ↔
      (runAll inside (p.enter kind multiline)).1 = .ok () ∨
        p.sheet.leftOpen (typeRefsAll inside) = 0) ∧
    ∀ type standIn,
      (Writing.typeRef type standIn p).2.regions.length =
        p.regions.length + p.sheet.leftOpen [(type, standIn)] ∧
      ∀ name, (Writing.property name type standIn p).2.regions.length =
        p.regions.length + p.sheet.leftOpen [(type, standIn)] := by
  have hinside := opens_runAll inside h (p.enter kind multiline)
  rw [Page.sheet_enter] at hinside
  have hregion := Writing.opens_region hinside
  have hresult : (runAll inside (p.enter kind multiline)).1 =
      ((typeRefsAll inside).map (·.1.base)).forM (p.enter kind multiline).sheet.check :=
    result_runAll (isBodyAll_of_isScopedAll inside h)
  rw [Page.sheet_enter] at hresult
  refine ⟨rfl, hregion, ?_, fun type standIn =>
    ⟨Writing.opens_typeRef.length_eq, fun name => Writing.opens_property.length_eq⟩⟩
  rw [hregion.touched_iff]
  constructor
  · exact .inr
  · rintro (hok | hnone)
    · exact Sheet.leftOpen_eq_zero (hresult ▸ hok)
    · exact hnone

/-- Arguments that name a type that does not exist, with a region around the name. -/
def ghostArguments : List Op :=
  [.text "a", .separator none, .region .array false [.typeRef (.nonNull (.named "Ghost")) none]]

theorem region_restored_ghostArguments : isScopedAll ghostArguments = true ∧
    Page.Touched [⟨.block, true, false⟩] (Writing.region .parameters false (runAll ghostArguments)
      (blankSheet.fresh.enter .block true)).2.regions := by
  have hscoped : isScopedAll ghostArguments = true := rfl
  obtain ⟨-, -, hrestored, -⟩ := region_restored_iff hscoped (blankSheet.fresh.enter .block true)
    .parameters false
  exact ⟨hscoped, hrestored.2 (.inr rfl)⟩

/-- A list of a type that does not exist stays open in the place of the region around it. -/
theorem not_restored_ghostList :
    isScopedAll [.typeRef (.list (.named "Ghost")) none] = true ∧
      ¬ Page.Touched blankSheet.fresh.regions (Writing.region .block false
        (runAll [.typeRef (.list (.named "Ghost")) none]) blankSheet.fresh).2.regions ∧
      (Writing.typeRef (.list (.named "Ghost")) none blankSheet.fresh).2.regions.length ≠
        blankSheet.fresh.regions.length := by
  refine ⟨rfl, ?_, by decide⟩
  have hopen : (Writing.region .block false (runAll [.typeRef (.list (.named "Ghost")) none])
      blankSheet.fresh).2.regions = [⟨.block, false, true⟩] := by decide
  rw [hopen]
  rintro (h | h) <;> cases h

end Op

end TypedQuery
