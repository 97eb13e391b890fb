-- SUMMARY: Pages whose regions are all left and whose brackets are balanced.
import TypedQuery.Proofs.Emit.References
import TypedQuery.Proofs.Text.Brackets

/-!
# Nesting

Some brackets are written as texts, others by entering and leaving regions, and either kind can
stand around the other. What is due behind an operation, the closing brackets and the open regions,
depends on the operations alone, as long as they succeed: references to types are balanced by
themselves. `Op.nested_runAll` says that a page keeps to what its operations are due.
-/
namespace TypedQuery

/-- What is due on a page: the closing brackets and the regions to be left, innermost first. -/
structure Nesting where
  due : List Char := []
  kinds : List RegionKind := []
  deriving DecidableEq

namespace Nesting

/-- What is due behind a text. -/
def write (n : Nesting) (s : String) : Option Nesting :=
  (nest n.due s.toList).map fun due => { n with due }

/-- What is due inside a region. -/
def enter (n : Nesting) (kind : RegionKind) : Option Nesting :=
  (n.write kind.opening).map fun opened => { opened with kinds := kind :: opened.kinds }

/-- What is due behind a region, if one is open. -/
def leave (n : Nesting) (suffix : String) : Option Nesting :=
  match n.kinds with
  | [] => none
  | kind :: outer => write { n with kinds := outer } (kind.closing ++ suffix)

/-- A text that may be written or not must not make a difference. -/
def pass (n : Nesting) (s : String) : Option Nesting := if Plain s then some n else none

/-- What is due behind an act. -/
def act (n : Nesting) : Act → Option Nesting
  | .text s => n.write s
  | .enter kind _ => n.enter kind
  | .leave suffix => n.leave suffix
  | .separate separator => n.pass (separator.getD "")
  | .addStatement _ | .addType _ => some n

/-- What is due behind acts. -/
def perform (n : Nesting) (acts : List Act) : Option Nesting := acts.foldlM act n

variable {n m : Nesting} {s t : String} {acts others : List Act}

theorem write_append : n.write (s ++ t) = (n.write s).bind (·.write t) := by
  rw [write, String.toList_append, nest_append, write]
  cases nest n.due s.toList <;> rfl

theorem write_of_balanced (h : Balanced s) : n.write s = some n := by
  rw [write, h.nest_eq]
  rfl

theorem write_eq_some (h : n.write s = some m) :
    ∃ due, nest n.due s.toList = some due ∧ m = { n with due } := by
  obtain ⟨due, hdue, rfl⟩ := Option.map_eq_some_iff.1 h
  exact ⟨due, hdue, rfl⟩

theorem pass_eq_some (h : n.pass s = some m) : Plain s ∧ m = n := by
  unfold pass at h
  split at h
  · next hplain => exact ⟨hplain, (Option.some.inj h).symm⟩
  · cases h

theorem perform_append : n.perform (acts ++ others) = (n.perform acts).bind (·.perform others) :=
  List.foldlM_append

theorem perform_singleton {a : Act} : n.perform [a] = n.act a := by
  simp [perform]

theorem perform_text (h : Balanced s) : n.perform [.text s] = some n := by
  rw [perform_singleton]
  exact write_of_balanced h

/-- Acts that follow each other, none of which makes a difference. -/
theorem perform_flatMap {α : Type} {items : List α} {each : α → List Act}
    (h : ∀ a ∈ items, n.perform (each a) = some n) : n.perform (items.flatMap each) = some n := by
  induction items with
  | nil => rfl
  | cons a rest ih =>
    rw [List.flatMap_cons, perform_append, h a List.mem_cons_self]
    exact ih fun b hb => h b (List.mem_cons_of_mem _ hb)

/-- Leaving a region makes up for entering it. -/
theorem exists_enter (n : Nesting) (kind : RegionKind) :
    ∃ m, n.enter kind = some m ∧ m.leave "" = some n := by
  cases kind <;> exact ⟨_, rfl, rfl⟩

/-- A region around acts that make no difference makes none. -/
theorem perform_region {kind : RegionKind} {multiline : Bool} (h : ∀ m, perform m acts = some m) :
    n.perform (.enter kind multiline :: acts ++ [.leave ""]) = some n := by
  obtain ⟨m, henter, hleave⟩ := n.exists_enter kind
  rw [List.cons_append, perform, List.foldlM_cons, act, henter]
  change m.perform (acts ++ [.leave ""]) = _
  rw [perform_append, h m, Option.bind_some, perform_singleton]
  exact hleave

theorem perform_addTypes {types : List TypeRef} : n.perform (types.map .addType) = some n := by
  induction types with
  | nil => rfl
  | cons type rest ih => exact ih

end Nesting

/-! ## Pages -/

namespace Page

variable {p : Page} {n m : Nesting} {s : String} {a : Act} {acts : List Act}

/-- The page has the open regions and the brackets that are due, and no region was left that was not
open. -/
structure Nested (p : Page) (n : Nesting) : Prop where
  kinds : p.regions.map (·.kind) = n.kinds
  due : nest [] p.body.toList = some n.due
  strayLeaves : p.strayLeaves = 0

@[simp] theorem map_kind_markWritten {regions : List Region} :
    (markWritten regions).map (·.kind) = regions.map (·.kind) := by
  cases regions <;> rfl

namespace Nested

theorem text (h : p.Nested n) (hindent : Plain p.settings.indent) (hs : n.write s = some m) :
    (p.text s).Nested m := by
  obtain ⟨due, hdue, rfl⟩ := Nesting.write_eq_some hs
  have hblank : ∀ c ∈ p.indentation, isBracket c = false := by
    intro c hc
    obtain ⟨unit, hunit, hc⟩ := List.mem_flatten.1 hc
    exact hindent c (List.eq_of_mem_replicate hunit ▸ hc)
  have hbody : nest [] (p.text s).body.toList = some due := by
    rw [body_text, nest_append, h.due, Option.bind_some, nest_indentLines hblank, hdue]
  refine ⟨?_, hbody, ?_⟩
  · by_cases hempty : s = ""
    · rw [hempty, text_empty, h.kinds]
    · rw [regions_text hempty, map_kind_markWritten, h.kinds]
  · have hsame : (p.text s).strayLeaves = p.strayLeaves := by
      unfold Page.text
      split <;> rfl
    rw [hsame, h.strayLeaves]

theorem enter {kind : RegionKind} {multiline : Bool} (h : p.Nested n)
    (hindent : Plain p.settings.indent) (hm : n.enter kind = some m) :
    (p.enter kind multiline).Nested m := by
  obtain ⟨opened, hopened, rfl⟩ := Option.map_eq_some_iff.1 hm
  have hbreak : n.write (kind.opening ++ if multiline then "\n" else "") = some opened := by
    rw [Nesting.write_append, hopened]
    exact Nesting.write_of_balanced (by cases multiline <;> decide)
  obtain ⟨hkinds, hdue, hstray⟩ := h.text hindent hbreak
  rw [enter_eq]
  exact ⟨congrArg (kind :: ·) hkinds, hdue, hstray⟩

theorem leaveWith (h : p.Nested n) (hindent : Plain p.settings.indent) (hm : n.leave s = some m) :
    (p.leaveWith s).Nested m := by
  cases hregions : p.regions with
  | nil => simp [Nesting.leave, ← h.kinds, hregions] at hm
  | cons r outer =>
    simp only [Nesting.leave, ← h.kinds, hregions, List.map_cons] at hm
    rw [leaveWith_eq hregions]
    have hleft : ({ p with regions := if r.written then markWritten outer else outer } : Page).Nested
        { n with kinds := outer.map (·.kind) } :=
      ⟨by dsimp only; split <;> simp, h.due, h.strayLeaves⟩
    refine hleft.text hindent ?_
    have hbreak : Balanced (if r.multiline && !p.pending then "\n" else "") := by
      split <;> decide
    rw [String.append_assoc, Nesting.write_append, Nesting.write_of_balanced hbreak]
    exact hm

theorem plain_separation {r : Region} {separator : Option String}
    (h : Plain (separator.getD "")) : Plain (r.separation separator) := by
  have hchosen : Plain (separator.getD r.kind.separator) := by
    cases separator with
    | none => cases r.kind <;> decide
    | some s => exact h
  unfold Region.separation
  dsimp only
  split
  · exact hchosen.trimEnd.append (by decide)
  · split
    · exact hchosen.append (by decide)
    · exact hchosen

/-- What is due on a page behind an act. -/
theorem act (h : p.Nested n) (hindent : Plain p.settings.indent) (hm : n.act a = some m) :
    (p.act a).Nested m := by
  cases a with
  | text s => exact h.text hindent hm
  | enter kind multiline => exact h.enter hindent hm
  | leave suffix => exact h.leaveWith hindent hm
  | separate separator =>
    obtain ⟨hplain, rfl⟩ := Nesting.pass_eq_some hm
    cases hregions : p.regions with
    | nil => simpa [Page.act, Page.separate, hregions] using h
    | cons r outer =>
      rw [Page.act, separate_eq hregions]
      split
      · exact h.text hindent (Nesting.write_of_balanced (plain_separation hplain).balanced)
      · exact h
  | addStatement statement =>
    obtain rfl : n = m := Option.some.inj hm
    exact ⟨h.kinds, h.due, h.strayLeaves⟩
  | addType type =>
    obtain rfl : n = m := Option.some.inj hm
    rw [Page.act, addType]
    split
    · exact ⟨h.kinds, h.due, h.strayLeaves⟩
    · exact h

/-- What is due on a page behind acts. -/
theorem perform (h : p.Nested n) (hindent : Plain p.settings.indent)
    (hm : n.perform acts = some m) : (p.perform acts).Nested m := by
  induction acts generalizing p n with
  | nil =>
    obtain rfl : n = m := Option.some.inj hm
    exact h
  | cons a rest ih =>
    obtain ⟨next, hnext, hrest⟩ := Option.bind_eq_some_iff.1 hm
    have hsettings : (p.act a).settings = p.settings := congrArg Sheet.settings sheet_act.1
    exact ih (h.act hindent hnext) (hsettings ▸ hindent) hrest

end Nested

end Page

/-! ## Operations -/

namespace Op

mutual

/-- What is due behind an operation that succeeds. -/
def nest : Op → Nesting → Option Nesting
  | text s, n => n.write s
  | enter kind _, n => n.enter kind
  | leave, n => n.leave ""
  | leaveWith suffix, n => n.leave suffix
  | separator s, n => n.pass (s.getD "")
  | literal s, n => n.write ("'" ++ s ++ "'")
  | property name _ standIn, n => (n.write name).bind (·.pass (standIn.getD ""))
  | typeRef _ standIn, n => n.pass (standIn.getD "")
  | region kind _ inside, n => ((n.enter kind).bind (nestAll inside)).bind (·.leave "")
  | importStatement _, n | importType _, n | importField _, n | closeImports, n
  | readonlyWord, n => some n

/-- What is due behind operations that all succeed. -/
def nestAll : List Op → Nesting → Option Nesting
  | [], n => some n
  | op :: rest, n => (op.nest n).bind (nestAll rest)

end

variable {first second : List Op} {n m : Nesting}

theorem nestAll_append : nestAll (first ++ second) n = (nestAll first n).bind (nestAll second) := by
  induction first generalizing n with
  | nil => rfl
  | cons op rest ih =>
    rw [List.cons_append, nestAll, nestAll]
    cases op.nest n with
    | none => rfl
    | some next => exact ih

end Op

/-! ## Courses -/

/-- What a sheet has to write where a type is referred to is balanced. -/
structure Sheet.Tidy (sheet : Sheet) : Prop where
  indent : Plain sheet.settings.indent
  names : ∀ name d, sheet.schema.get? name = some d → Plain name
  members : ∀ name u, sheet.schema.get? name = some (.union u) → ∀ m ∈ u.members, Plain m
  targets : ∀ scalar target, Writing.scalarType? sheet.settings scalar = some target →
    Balanced target

variable {sheet : Sheet} {closed : Bool} {n m : Nesting}

namespace Course

variable {standIn : Option String} {type : TypeRef}

/-- A named type leaves what is due as it was. -/
theorem perform_ofNamed {name : String} (hs : sheet.Tidy) (hstandIn : Plain (standIn.getD "")) :
    n.perform (ofNamed sheet name standIn closed).acts = some n := by
  have hchosen (hname : Plain name) : Balanced (standIn.getD name) := by
    cases standIn with
    | none => exact hname.balanced
    | some s => exact hstandIn.balanced
  unfold ofNamed
  cases hget : sheet.schema.get? name with
  | none => rfl
  | some found =>
    cases found with
    | scalar _ =>
      dsimp only
      cases htarget : Writing.scalarType? sheet.settings name with
      | none => rfl
      | some target => exact Nesting.perform_text (hs.targets name target htarget)
    | object _ | interface _ => exact Nesting.perform_text (hchosen (hs.names name _ hget))
    | enum _ | input _ => exact Nesting.perform_text (hs.names name _ hget).balanced
    | union u =>
      cases standIn with
      | some s => exact Nesting.perform_text hstandIn.balanced
      | none =>
        have hmembers (n : Nesting) :
            n.perform (u.members.flatMap fun m => [.separate (some " | "), .text m]) = some n :=
          Nesting.perform_flatMap fun m hm =>
            Nesting.perform_text (hs.members name u hget m hm).balanced
        exact Nesting.perform_region hmembers

/-- A reference that can be written leaves what is due as it was. -/
theorem perform_ofRef (hs : sheet.Tidy) (hstandIn : Plain (standIn.getD ""))
    (hok : (ofRef sheet standIn type closed).result = .ok ()) :
    n.perform (ofRef sheet standIn type closed).acts = some n := by
  induction type generalizing closed n with
  | named name => exact perform_ofNamed hs hstandIn
  | nonNull inner ih => exact ih hok
  | list item ih =>
    rw [ofRef, andThen_of_ok rfl] at hok ⊢
    change ((ofRef sheet standIn item closed).andThen _).result = _ at hok
    change n.perform ([.text _, .enter .generic false] ++
      ((ofRef sheet standIn item closed).andThen _).acts) = _
    obtain ⟨hitem, _, hacts⟩ := Course.ok_of_andThen hok
    have harray : Balanced (if sheet.settings.arraysEditable then "Array" else "ReadonlyArray") := by
      split <;> decide
    -- A list is a name and a region around its item. Neither the item nor the mark behind it makes
    -- a difference.
    have hinside (m : Nesting) : m.perform ((ofRef sheet standIn item closed).acts ++
        if item.isNullable then [.text " | undefined"] else []) = some m := by
      rw [Nesting.perform_append, ih hitem]
      split
      · exact Nesting.perform_text (by decide)
      · rfl
    have hregion : n.perform (.enter .generic false :: (_ ++ _) ++ [.leave ""]) = some n :=
      Nesting.perform_region hinside
    rw [hacts]
    change n.perform ([.text _] ++ (.enter .generic false :: _)) = _
    rw [Nesting.perform_append, Nesting.perform_text harray]
    simpa [doing] using hregion

end Course

namespace Op

variable {acts : List Act}

theorem perform_ofImport (hok : (Course.ofImport acts closed).result = .ok ())
    (hacts : n.perform acts = some n) : n.perform (Course.ofImport acts closed).acts = some n := by
  cases closed with
  | true => cases hok
  | false => exact hacts

mutual

/-- An operation that succeeds leaves due what it says. -/
theorem perform_course {closed : Bool} {n m : Nesting} (hs : sheet.Tidy) : (op : Op) →
    (op.course sheet closed).result = .ok () → op.nest n = some m →
      n.perform (op.course sheet closed).acts = some m
  | text _, _, hm | enter _ _, _, hm | leave, _, hm | leaveWith _, _, hm | separator _, _, hm
  | literal _, _, hm => Nesting.perform_singleton.trans hm
  | property name type standIn, hok, hm => by
    obtain ⟨named, hname, hpass⟩ := Option.bind_eq_some_iff.1 hm
    obtain ⟨hstandIn, rfl⟩ := Nesting.pass_eq_some hpass
    obtain ⟨_, href, hacts⟩ := Course.ok_of_andThen hok
    -- Of a member, only the name is not known to be balanced, and what is due behind it is what
    -- `hname` says.
    have hword : Balanced (Writing.readonlyWord sheet.settings) := by
      unfold Writing.readonlyWord
      split <;> decide
    have hbehind : m.perform ((if type.isNullable then [.text "?"] else []) ++ [.text ": "]) =
        some m := by
      cases type.isNullable <;> rfl
    rw [course, hacts, Nesting.perform_append]
    change Option.bind (n.perform (([.text _] ++ [.text name]) ++ _ ++ _)) _ = _
    rw [List.append_assoc, Nesting.perform_append, Nesting.perform_append,
      Nesting.perform_text hword, Option.bind_some, Nesting.perform_singleton, Nesting.act, hname,
      Option.bind_some, hbehind]
    exact Course.perform_ofRef hs hstandIn href
  | typeRef type standIn, hok, hm => by
    obtain ⟨hstandIn, rfl⟩ := Nesting.pass_eq_some hm
    exact Course.perform_ofRef hs hstandIn hok
  | region kind multiline inside, hok, hm => by
    obtain ⟨inner, hinner, hleave⟩ := Option.bind_eq_some_iff.1 hm
    obtain ⟨opened, henter, hinside⟩ := Option.bind_eq_some_iff.1 hinner
    have hacts := perform_courseAll hs inside hok hinside
    change n.perform ([.enter kind multiline] ++ _ ++ [.leave ""]) = _
    rw [Nesting.perform_append, Nesting.perform_append, Nesting.perform_singleton, Nesting.act,
      henter, Option.bind_some, hacts, Option.bind_some, Nesting.perform_singleton]
    exact hleave
  | importStatement _, hok, hm | importType _, hok, hm => (perform_ofImport hok rfl).trans hm
  | importField f, hok, hm => by
    have htypes : n.perform (.addType f.type :: f.arguments.map fun a => .addType a.type) =
        some n := by
      have hall : n.perform ((f.type :: f.arguments.map (·.type)).map .addType) = some n :=
        Nesting.perform_addTypes
      rwa [List.map_cons, List.map_map] at hall
    exact (perform_ofImport hok htypes).trans hm
  | closeImports, _, hm | readonlyWord, _, hm => hm

theorem perform_courseAll {closed : Bool} {n m : Nesting} (hs : sheet.Tidy) : (ops : List Op) →
    (courseAll sheet ops closed).result = .ok () → nestAll ops n = some m →
      n.perform (courseAll sheet ops closed).acts = some m
  | [], _, hm => hm
  | op :: rest, hok, hm => by
    obtain ⟨hop, hrest, hacts⟩ := Course.ok_of_andThen hok
    obtain ⟨next, hnext, hm⟩ := Option.bind_eq_some_iff.1 hm
    rw [courseAll, hacts, Nesting.perform_append, perform_course hs op hop hnext]
    exact perform_courseAll hs rest hrest hm

end

/-! ## Neutral operations -/

/-- The operations make up for all that they open, and for nothing else. -/
def Neutral (ops : List Op) : Prop := ∀ n, nestAll ops n = some n

variable {ops : List Op} {s t : String}

namespace Neutral

theorem nil : Neutral [] := fun _ => rfl

theorem append (h : Neutral first) (hsecond : Neutral second) : Neutral (first ++ second) := by
  intro n
  rw [nestAll_append, h n]
  exact hsecond n

theorem flatMap {α : Type} {items : List α} {each : α → List Op}
    (h : ∀ a ∈ items, Neutral (each a)) : Neutral (items.flatMap each) := by
  induction items with
  | nil => exact nil
  | cons a rest ih =>
    obtain ⟨ha, hrest⟩ := List.forall_mem_cons.1 h
    rw [List.flatMap_cons]
    exact ha.append (ih hrest)

theorem ite {c : Prop} [Decidable c] (h : Neutral first) (hsecond : Neutral second) :
    Neutral (if c then first else second) := by
  split
  · exact h
  · exact hsecond

theorem text (hs : Balanced s) (h : Neutral ops) : Neutral (.text s :: ops) := by
  intro n
  rw [nestAll, nest, Nesting.write_of_balanced hs]
  exact h n

theorem literal (hs : Plain s) (h : Neutral ops) : Neutral (.literal s :: ops) := by
  have hquote : Plain "'" := by decide
  exact text ((hquote.append hs).append hquote).balanced h

theorem separator {separator : Option String} (hs : Plain (separator.getD "")) (h : Neutral ops) :
    Neutral (.separator separator :: ops) := by
  intro n
  rw [nestAll, nest, Nesting.pass, if_pos hs]
  exact h n

theorem typeRef {type : TypeRef} {standIn : Option String} (hs : Plain (standIn.getD ""))
    (h : Neutral ops) : Neutral (.typeRef type standIn :: ops) := by
  intro n
  rw [nestAll, nest, Nesting.pass, if_pos hs]
  exact h n

theorem property {type : TypeRef} (hs : Plain s) (h : Neutral ops) :
    Neutral (.property s type none :: ops) := by
  intro n
  rw [nestAll, nest, Nesting.write_of_balanced hs.balanced]
  exact h n

theorem region {kind : RegionKind} {multiline : Bool} {inside : List Op} (hinside : Neutral inside)
    (h : Neutral ops) : Neutral (.region kind multiline inside :: ops) := by
  intro n
  obtain ⟨m, henter, hleave⟩ := n.exists_enter kind
  rw [nestAll, nest, henter, Option.bind_some, hinside m, Option.bind_some, hleave]
  exact h n

/-- A region that is entered and left by operations of its own. -/
theorem between {kind : RegionKind} {multiline : Bool} {inside : List Op}
    (hinside : Neutral inside) (h : Neutral ops) :
    Neutral (.enter kind multiline :: inside ++ .leave :: ops) := by
  intro n
  obtain ⟨m, henter, hleave⟩ := n.exists_enter kind
  rw [List.cons_append, nestAll, nest, henter, Option.bind_some, nestAll_append, hinside m,
    Option.bind_some, nestAll, nest, hleave]
  exact h n

/-- What two texts open and close between them. -/
theorem around {inside : List Op} (hinside : Neutral inside) (h : Neutral ops)
    (hs : ∀ n : Nesting, ∃ m, n.write s = some m ∧ m.write t = some n) :
    Neutral (.text s :: inside ++ .text t :: ops) := by
  intro n
  obtain ⟨m, hopen, hclose⟩ := hs n
  rw [List.cons_append, nestAll, nest, hopen, Option.bind_some, nestAll_append, hinside m,
    Option.bind_some, nestAll, nest, hclose]
  exact h n

end Neutral

/-- Operations that make up for all that they open leave nothing due on a fresh page. -/
theorem nested_runAll {ops : List Op} (hs : sheet.Tidy)
    (hok : (runAll ops sheet.fresh).1 = .ok ()) (hops : Neutral ops) :
    (runAll ops sheet.fresh).2.Nested {} := by
  rw [runAll_eq] at hok ⊢
  have hfresh : sheet.fresh.Nested {} := ⟨rfl, rfl, rfl⟩
  obtain ⟨hkinds, hdue, hstray⟩ := hfresh.perform hs.indent (perform_courseAll hs ops hok (hops {}))
  exact ⟨hkinds, hdue, hstray⟩

end Op

end TypedQuery
