-- SUMMARY: Brackets in texts: which are due, and texts in which they are balanced.
import TypedQuery.Emit.Page

/-!
# Brackets

Reading a text from left to right, `nest` keeps a stack of the closing brackets that are due. A text
is balanced if every bracket in it is closed by its counterpart before any that was opened earlier.
What is balanced can stand anywhere: it leaves the stack as it is (`Balanced.nest_eq`).
-/
namespace TypedQuery

/-- The bracket that closes one that opens. -/
def closing? : Char → Option Char
  | '\x7b' => some '\x7d'
  | '(' => some ')'
  | '[' => some ']'
  | '<' => some '>'
  | _ => none

def isClosing (c : Char) : Bool := c = '\x7d' || c = ')' || c = ']' || c = '>'

def isBracket (c : Char) : Bool := (closing? c).isSome || isClosing c

def brackets : List Char := ['\x7b', '\x7d', '(', ')', '[', ']', '<', '>']

/-! ## Nesting -/

/-- The closing brackets that are due behind a character, innermost first. There are none to tell of
if the character closes what is not the innermost bracket. -/
def dueBehind (due : List Char) (c : Char) : Option (List Char) :=
  match closing? c with
  | some closing => some (closing :: due)
  | none =>
    if isClosing c then
      match due with
      | [] => none
      | innermost :: outer => if innermost = c then some outer else none
    else some due

/-- The closing brackets that are due behind a text. -/
def nest (due cs : List Char) : Option (List Char) := cs.foldlM dueBehind due

/-- Every bracket is closed, by its counterpart and after those that were opened later. -/
def Balanced (s : String) : Prop := nest [] s.toList = some []

instance {s : String} : Decidable (Balanced s) := inferInstanceAs (Decidable (_ = _))

/-- The text has no bracket. -/
def Plain (s : String) : Prop := ∀ c ∈ s.toList, isBracket c = false

instance {s : String} : Decidable (Plain s) :=
  List.decidableBAll (fun c => isBracket c = false) s.toList

variable {due behind a b cs : List Char} {c : Char} {s t : String}

theorem nest_append : nest due (a ++ b) = (nest due a).bind (nest · b) :=
  List.foldlM_append

theorem dueBehind_of_not_bracket (h : isBracket c = false) : dueBehind due c = some due := by
  simp only [isBracket, Bool.or_eq_false_iff, Option.isSome_eq_false_iff,
    Option.isNone_iff_eq_none] at h
  simp [dueBehind, h.1, h.2]

theorem nest_of_not_brackets (h : ∀ c ∈ cs, isBracket c = false) : nest due cs = some due := by
  induction cs with
  | nil => rfl
  | cons c rest ih =>
    rw [nest, List.foldlM_cons, dueBehind_of_not_bracket (h c List.mem_cons_self)]
    exact ih fun d hd => h d (List.mem_cons_of_mem _ hd)

/-- Brackets that are due around a text do not matter inside. -/
theorem nest_around (outer : List Char) (h : nest due cs = some behind) :
    nest (due ++ outer) cs = some (behind ++ outer) := by
  induction cs generalizing due with
  | nil =>
    obtain rfl : due = behind := Option.some.inj h
    rfl
  | cons c rest ih =>
    obtain ⟨next, hnext, hrest⟩ := Option.bind_eq_some_iff.1 h
    -- A closing bracket is compared with the innermost one that is due, and there is one inside:
    -- otherwise the text would not have got past it.
    have hstep : dueBehind (due ++ outer) c = some (next ++ outer) := by
      unfold dueBehind at hnext ⊢
      split at hnext
      · cases hnext
        rfl
      · split at hnext
        · next hclosing =>
          rw [if_pos hclosing]
          cases due with
          | nil => cases hnext
          | cons innermost others =>
            dsimp only [List.cons_append] at hnext ⊢
            split at hnext
            · next hsame =>
              cases hnext
              rw [if_pos hsame]
            · cases hnext
        · next hclosing =>
          cases hnext
          rw [if_neg hclosing]
    rw [nest, List.foldlM_cons, hstep]
    exact ih hrest

/-! ## Balanced texts -/

theorem Balanced.nest_eq (h : Balanced s) : nest due s.toList = some due :=
  nest_around due h

theorem Balanced.append (hs : Balanced s) (ht : Balanced t) : Balanced (s ++ t) := by
  rw [Balanced, String.toList_append, nest_append, hs.nest_eq]
  exact ht

theorem Balanced.join {texts : List String} (h : ∀ s ∈ texts, Balanced s) :
    Balanced (String.join texts) := by
  induction texts with
  | nil => rfl
  | cons s rest ih =>
    rw [String.join_cons]
    exact (h s List.mem_cons_self).append (ih fun t ht => h t (List.mem_cons_of_mem _ ht))

theorem Plain.balanced (h : Plain s) : Balanced s :=
  nest_of_not_brackets h

theorem Plain.nest_eq (h : Plain s) : nest due s.toList = some due :=
  nest_of_not_brackets h

/-- A text without brackets between two others. -/
theorem Plain.between {before after : String} (h : Plain s) (hbefore : Balanced before)
    (hafter : Balanced after) : Balanced (before ++ s ++ after) :=
  (hbefore.append h.balanced).append hafter

theorem Plain.append (hs : Plain s) (ht : Plain t) : Plain (s ++ t) := by
  intro c hc
  rw [String.toList_append] at hc
  exact (List.mem_append.1 hc).elim (hs c) (ht c)

theorem Plain.trimEnd (h : Plain s) : Plain (Text.trimEnd s) := by
  intro c hc
  refine h c ?_
  rw [Text.trimEnd, String.toList_ofList, List.mem_reverse] at hc
  exact List.mem_reverse.1 ((List.dropWhile_sublist _).mem hc)

theorem Plain.intercalate {texts : List String} (hs : Plain s) (h : ∀ t ∈ texts, Plain t) :
    Plain (s.intercalate texts) := by
  induction texts with
  | nil => exact fun c hc => nomatch hc
  | cons t rest ih =>
    have hrest := ih fun u hu => h u (List.mem_cons_of_mem _ hu)
    cases rest with
    | nil => exact h t List.mem_cons_self
    | cons u others =>
      rw [String.intercalate_cons_cons]
      exact ((h t List.mem_cons_self).append hs).append hrest

theorem mem_brackets (h : isBracket c = true) : c ∈ brackets := by
  rcases Bool.or_eq_true_iff.1 h with hopening | hclosing
  · unfold closing? at hopening
    split at hopening <;> first | decide | cases hopening
  · simp only [isClosing, Bool.or_eq_true, decide_eq_true_eq] at hclosing
    rcases hclosing with ((rfl | rfl) | rfl) | rfl <;> decide

/-- Characters of a kind that no bracket is of. -/
theorem plain_of_all {p : Char → Bool} (h : s.toList.all p = true)
    (hp : brackets.all (! p ·) = true) : Plain s := by
  intro c hc
  rw [Bool.eq_false_iff]
  intro hbracket
  have hother := List.all_eq_true.1 hp c (mem_brackets hbracket)
  rw [List.all_eq_true.1 h c hc] at hother
  cases hother

/-- Indentation without brackets makes no difference. -/
theorem nest_indentLines {indentation : List Char} {pending : Bool}
    (h : ∀ c ∈ indentation, isBracket c = false) :
    nest due (indentLines indentation pending cs) = nest due cs := by
  induction cs generalizing due pending with
  | nil => rfl
  | cons c rest ih =>
    have hrest (c : Char) (pending : Bool) :
        nest due (c :: indentLines indentation pending rest) = nest due (c :: rest) := by
      simp only [nest, List.foldlM_cons]
      cases dueBehind due c with
      | none => rfl
      | some behind => exact ih
    rw [indentLines]
    split
    · next hc => rw [hrest, hc]
    · cases pending with
      | false => exact hrest _ _
      | true =>
        rw [if_pos rfl, nest_append, nest_of_not_brackets h]
        exact hrest _ _

end TypedQuery
