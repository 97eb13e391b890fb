-- SUMMARY: The streams that texts are scanned to.
import TypedQuery.Proofs.Sdl.Names

/-!
# Scanning

`Scanned` says what stream some tokens are scanned to when there is room for so many brackets: up to the
first bracket that there is no room for, it is made of the tokens. `Lexes` says that a text is scanned to
some tokens wherever it stands. Texts that are put together lex to the tokens of their parts, so long as
no name runs on into the next part.
-/
namespace TypedQuery.Sdl

/-! ## Streams of tokens -/

/-- The room for brackets behind a token, unless it is a bracket itself and there is no room for it. -/
def Token.roomAfter? : Token → Nat → Option Nat
  | mark c, room =>
    if isOpening c then
      match room with
      | 0 => none
      | left + 1 => some left
    else if isClosing c then some (room + 1)
    else some room
  | spread, room | name _, room | number, room | string, room => some room

/-- The token is no bracket. -/
def Token.IsPlain (t : Token) : Prop := ∀ room, t.roomAfter? room = some room

theorem not_bracket_of_isPlainMark {c : Char} (hc : isPlainMark c = true) :
    isOpening c = false ∧ isClosing c = false := by
  simp only [isPlainMark, List.mem_cons, List.not_mem_nil, or_false, decide_eq_true_iff] at hc
  rcases hc with rfl | rfl | rfl | rfl | rfl | rfl | rfl <;> decide

namespace Token

variable {c : Char} {room : Nat}

theorem isPlain_mark (hc : isPlainMark c = true) : (mark c).IsPlain := by
  obtain ⟨hopening, hclosing⟩ := not_bracket_of_isPlainMark hc
  intro room
  simp [roomAfter?, hopening, hclosing]

theorem roomAfter?_opening_zero (hc : isOpening c = true) : (mark c).roomAfter? 0 = none := by
  simp [roomAfter?, hc]

theorem roomAfter?_opening (hc : isOpening c = true) :
    (mark c).roomAfter? (room + 1) = some room := by
  simp [roomAfter?, hc]

theorem roomAfter?_closing (hc : isClosing c = true) :
    (mark c).roomAfter? room = some (room + 1) := by
  simp only [isClosing, List.mem_cons, List.not_mem_nil, or_false, decide_eq_true_iff] at hc
  rcases hc with rfl | rfl | rfl <;> rfl

end Token

/-- The token that comes next. -/
def Stream.next? : Stream → Option Token
  | token t _ _ _ => some t
  | finish _ | fault _ => none

@[simp] theorem Stream.next?_cons {t : Token} {p : Position} {rest : Stream} :
    (Stream.cons t p rest).next? = some t := rfl

/-- A stream of some tokens, with room for so many brackets, and of what comes after them. A bracket that
there is no room for is a fault. -/
def Scanned : List Token → (Nat → Stream → Prop) → Nat → Stream → Prop
  | [], after, room, s => after room s
  | t :: ts, after, room, s =>
    match t.roomAfter? room with
    | none => ∃ p, s = .fault p
    | some left => ∃ p rest, s = .cons t p rest ∧ Scanned ts after left rest

namespace Scanned

variable {ts us : List Token} {t : Token} {after other : Nat → Stream → Prop} {room left : Nat}
  {s : Stream}

theorem fault_iff (ht : t.roomAfter? room = none) :
    Scanned (t :: ts) after room s ↔ ∃ p, s = .fault p := by
  rw [Scanned, ht]

theorem cons_iff (ht : t.roomAfter? room = some left) :
    Scanned (t :: ts) after room s ↔ ∃ p rest, s = .cons t p rest ∧ Scanned ts after left rest := by
  rw [Scanned, ht]

theorem append : Scanned (ts ++ us) after room s ↔ Scanned ts (Scanned us after) room s := by
  induction ts generalizing room s with
  | nil => rfl
  | cons t rest ih => cases ht : t.roomAfter? room <;> simp only [List.cons_append, Scanned, ht, ih]

theorem mono (h : Scanned ts after room s) (hsub : ∀ room s, after room s → other room s) :
    Scanned ts other room s := by
  induction ts generalizing room s with
  | nil => exact hsub room s h
  | cons t rest ih =>
    cases ht : t.roomAfter? room with
    | none => exact (fault_iff ht).2 ((fault_iff ht).1 h)
    | some left =>
      obtain ⟨p, tail, rfl, htail⟩ := (cons_iff ht).1 h
      exact (cons_iff ht).2 ⟨p, tail, rfl, ih htail⟩

/-- What comes next is the first token, unless there is no room for it. -/
theorem next (h : Scanned (t :: ts) after room s) : s.next? = none ∨ s.next? = some t := by
  cases ht : t.roomAfter? room with
  | none =>
    obtain ⟨p, rfl⟩ := (fault_iff ht).1 h
    exact .inl rfl
  | some left =>
    obtain ⟨p, rest, rfl, _⟩ := (cons_iff ht).1 h
    exact .inr rfl

/-- What comes after the tokens is smaller by as many. -/
theorem size (h : Scanned ts after room s) :
    Scanned ts (fun room rest => after room rest ∧ rest.size + ts.length = s.size) room s := by
  induction ts generalizing room s with
  | nil => exact ⟨h, rfl⟩
  | cons t rest ih =>
    cases ht : t.roomAfter? room with
    | none => exact (fault_iff ht).2 ((fault_iff ht).1 h)
    | some left =>
      obtain ⟨p, tail, rfl, htail⟩ := (cons_iff ht).1 h
      refine (cons_iff ht).2 ⟨p, tail, rfl, (ih htail).mono ?_⟩
      exact fun _ _ h => ⟨h.1, congrArg (· + 1) h.2⟩

end Scanned

/-! ## Texts of tokens -/

/-- A text that does not go on with a name. -/
def Apart (cs : List Char) : Prop := cs.head?.all (!isNameChar ·) = true

/-- A text is scanned to some tokens, in whatever text it stands, unless a name goes on behind it. -/
def Lexes (text : String) (ts : List Token) : Prop :=
  ∀ (rest : List Char) (after : Nat → Stream → Prop), Apart rest →
    (∀ room p, after room (scan room p rest)) →
    ∀ room p, Scanned ts after room (scan room p (text.toList ++ rest))

/-- Names that the language has. -/
def IsIdentifier (name : String) : Prop :=
  IsName name ∧ name.toList.head?.all isNameStart = true

instance {name : String} : Decidable (IsIdentifier name) := inferInstanceAs (Decidable (_ ∧ _))

def isMark (c : Char) : Bool := isPlainMark c || isOpening c || isClosing c

/-- Blanks between tokens. -/
def isBlank (c : Char) : Bool := c = ' ' || c = '\n'

/-- A text of blanks and of these marks, with something in it. -/
def Punctuates (text : String) (ts : List Token) : Prop :=
  text ≠ "" ∧ (text.toList.all fun c => isBlank c || isMark c) = true ∧
    (text.toList.filter isMark).map .mark = ts

instance {text : String} {ts : List Token} : Decidable (Punctuates text ts) :=
  inferInstanceAs (Decidable (_ ∧ _ ∧ _))

/-! ## Single tokens -/

section

variable {room : Nat} {p : Position} {c : Char} {cs rest : List Char}
  {after : Nat → Stream → Prop} {ts : List Token} {name : String}

theorem eq_false_of_mem {f : Char → Bool} (hcs : (cs.all fun d => !f d) = true) (hc : c ∈ cs) :
    f c = false := by
  simpa using List.all_eq_true.1 hcs c hc

theorem scan_blank (room : Nat) (p : Position) (cs : List Char) (hc : isBlank c = true) :
    ∃ q, scan room p (c :: cs) = scan room q cs := by
  simp only [isBlank, Bool.or_eq_true, decide_eq_true_iff] at hc
  rcases hc with rfl | rfl
  · exact ⟨p.advance 1, by rw [scan.eq_def]; simp⟩
  · exact ⟨p.nextLine, by rw [scan.eq_def]; simp⟩

theorem scanned_plain (hc : isPlainMark c = true)
    (h : ∀ room p, Scanned ts after room (scan room p cs)) :
    Scanned (.mark c :: ts) after room (scan room p (c :: cs)) := by
  refine (Scanned.cons_iff (Token.isPlain_mark hc room)).2
    ⟨p, scan room (p.advance 1) cs, ?_, h _ _⟩
  simp only [isPlainMark, List.mem_cons, List.not_mem_nil, or_false, decide_eq_true_iff] at hc
  rcases hc with rfl | rfl | rfl | rfl | rfl | rfl | rfl
  all_goals
    rw [scan.eq_def]
    simp [isPlainMark]

theorem scanned_closing (hc : isClosing c = true)
    (h : ∀ room p, Scanned ts after room (scan room p cs)) :
    Scanned (.mark c :: ts) after room (scan room p (c :: cs)) := by
  refine (Scanned.cons_iff (Token.roomAfter?_closing hc)).2
    ⟨p, scan (room + 1) (p.advance 1) cs, ?_, h _ _⟩
  simp only [isClosing, List.mem_cons, List.not_mem_nil, or_false, decide_eq_true_iff] at hc
  rcases hc with rfl | rfl | rfl
  all_goals
    rw [scan.eq_def]
    simp [isPlainMark, isOpening, isClosing]

theorem scanned_opening (hc : isOpening c = true)
    (h : ∀ room p, Scanned ts after room (scan room p cs)) :
    Scanned (.mark c :: ts) after room (scan room p (c :: cs)) := by
  cases room with
  | zero =>
    refine (Scanned.fault_iff (Token.roomAfter?_opening_zero hc)).2 ⟨p, ?_⟩
    simp only [isOpening, List.mem_cons, List.not_mem_nil, or_false, decide_eq_true_iff] at hc
    rcases hc with rfl | rfl | rfl
    all_goals
      rw [scan.eq_def]
      simp [isPlainMark, isOpening]
  | succ left =>
    refine (Scanned.cons_iff (Token.roomAfter?_opening hc)).2 ⟨p, scan left (p.advance 1) cs, ?_, h _ _⟩
    simp only [isOpening, List.mem_cons, List.not_mem_nil, or_false, decide_eq_true_iff] at hc
    rcases hc with rfl | rfl | rfl
    all_goals
      rw [scan.eq_def]
      simp [isPlainMark, isOpening]

theorem scanned_name (hname : IsIdentifier name) (hrest : Apart rest)
    (h : ∀ room p, Scanned ts after room (scan room p rest)) :
    Scanned (.name name :: ts) after room (scan room p (name.toList ++ rest)) := by
  obtain ⟨⟨hne, hall⟩, hstart⟩ := hname
  obtain ⟨c, more, hcs⟩ := List.exists_cons_of_ne_nil (String.toList_eq_nil_iff.not.2 hne)
  rw [hcs, List.head?_cons, Option.all_some] at hstart
  rw [hcs] at hall
  have hne {d : Char} (hd : isNameStart d = false) : c ≠ d := by
    rintro rfl
    rw [hd] at hstart
    cases hstart
  -- `scan` tells characters apart one after the other, and comes to names last. None of the others
  -- begins a name.
  have hnot (ds : List Char) (hds : (ds.all fun d => !isNameStart d) = true) :
      decide (c ∈ ds) = false :=
    decide_eq_false fun hc => hne (eq_false_of_mem hds hc) rfl
  have hplain : isPlainMark c = false := hnot _ (by decide)
  have hopening : isOpening c = false := hnot _ (by decide)
  have hclosing : isClosing c = false := hnot _ (by decide)
  have hmore : ∀ d ∈ more, isNameChar d = true := fun d hd => hall d (List.mem_cons_of_mem _ hd)
  -- The name ends where it should, because what comes behind it stands apart.
  have hstop : rest.takeWhile isNameChar = [] ∧ rest.dropWhile isNameChar = rest := by
    cases rest with
    | nil => exact ⟨rfl, rfl⟩
    | cons d _ =>
      have hd : ¬ isNameChar d = true := by simpa [Apart] using hrest
      exact ⟨List.takeWhile_cons_of_neg hd, List.dropWhile_cons_of_neg hd⟩
  have htake : (more ++ rest).takeWhile isNameChar = more := by
    rw [List.takeWhile_append_of_pos hmore, hstop.1, List.append_nil]
  have hdrop : (more ++ rest).dropWhile isNameChar = rest := by
    rw [List.dropWhile_append_of_pos hmore, hstop.2]
  have hread : String.ofList (c :: more) = name := by rw [← hcs, String.ofList_toList]
  have hstream : scan room p (name.toList ++ rest) =
      .cons (.name name) p (scan room (p.advance (more.length + 1)) rest) := by
    rw [hcs, List.cons_append, scan.eq_def]
    simp [-String.ofList_cons, hne (d := ' ') rfl, hne (d := ',') rfl, hne (d := '\t') rfl,
      hne (d := '\n') rfl, hne (d := '\r') rfl, hne (d := '\ufeff') rfl, hne (d := '#') rfl,
      hne (d := '.') rfl, hplain, hopening, hclosing, hstart, htake, hdrop, hread]
  exact (Scanned.cons_iff rfl).2 ⟨_, _, hstream, h _ _⟩

theorem scanned_punctuation (hcs : (cs.all fun c => isBlank c || isMark c) = true)
    (h : ∀ room p, Scanned ts after room (scan room p rest)) :
    Scanned ((cs.filter isMark).map .mark ++ ts) after room (scan room p (cs ++ rest)) := by
  induction cs generalizing room p with
  | nil => exact h room p
  | cons c others ih =>
    rw [List.all_cons, Bool.and_eq_true, Bool.or_eq_true] at hcs
    obtain ⟨hc, hothers⟩ := hcs
    by_cases hmark : isMark c = true
    · rw [List.filter_cons_of_pos hmark, List.map_cons, List.cons_append, List.cons_append]
      rw [isMark, Bool.or_eq_true, Bool.or_eq_true] at hmark
      rcases hmark with (hplain | hopening) | hclosing
      · exact scanned_plain hplain fun _ _ => ih hothers
      · exact scanned_opening hopening fun _ _ => ih hothers
      · exact scanned_closing hclosing fun _ _ => ih hothers
    · obtain ⟨q, hscan⟩ := scan_blank room p (others ++ rest) (hc.resolve_right hmark)
      rw [List.cons_append, hscan, List.filter_cons_of_neg hmark]
      exact ih hothers

end

/-! ## Texts that are put together -/

section

variable {α : Type} {text other mark name : String} {ts us : List Token} {cs rest : List Char}

theorem apart_append (hcs : Apart cs) (hrest : Apart rest) : Apart (cs ++ rest) := by
  cases cs with
  | nil => exact hrest
  | cons c _ => exact hcs

theorem lexes_empty : Lexes "" [] := fun _ _ _ h room p => h room p

theorem lexes_name (h : IsIdentifier name) : Lexes name [.name name] :=
  fun _ _ hrest hafter _ _ => scanned_name h hrest hafter

theorem Lexes.append (h : Lexes text ts) (hother : Lexes other us) (hapart : Apart other.toList) :
    Lexes (text ++ other) (ts ++ us) := by
  intro rest after hrest hafter room p
  rw [String.toList_append, List.append_assoc, Scanned.append]
  exact h _ _ (apart_append hapart hrest) (hother rest after hrest hafter) room p

/-- No name goes on with a mark or a blank. -/
theorem Punctuates.apart (h : Punctuates mark us) : Apart (mark.toList ++ rest) := by
  obtain ⟨c, cs, hcs⟩ := List.exists_cons_of_ne_nil (String.toList_eq_nil_iff.not.2 h.1)
  have hc := List.all_eq_true.1 h.2.1 c (hcs ▸ List.mem_cons_self)
  have hnot (ds : List Char) (hds : (ds.all fun d => !isNameChar d) = true)
      (h : decide (c ∈ ds) = true) : isNameChar c = false :=
    eq_false_of_mem hds (of_decide_eq_true h)
  simp only [isMark, Bool.or_eq_true] at hc
  have hname : isNameChar c = false := by
    rcases hc with hblank | (hplain | hopening) | hclosing
    · simp only [isBlank, Bool.or_eq_true, decide_eq_true_iff] at hblank
      rcases hblank with rfl | rfl <;> rfl
    · exact hnot _ (by decide) hplain
    · exact hnot _ (by decide) hopening
    · exact hnot _ (by decide) hclosing
  rw [hcs, Apart, List.cons_append, List.head?_cons, Option.all_some, hname]
  rfl

/-- Marks and blanks can stand in front of any text. -/
theorem Punctuates.lead (hmark : Punctuates mark us) (h : Lexes text ts) :
    Lexes (mark ++ text) (us ++ ts) := by
  intro rest after hrest hafter room p
  rw [String.toList_append, List.append_assoc, ← hmark.2.2]
  exact scanned_punctuation hmark.2.1 (h rest after hrest hafter)

theorem Punctuates.lexes (h : Punctuates mark us) : Lexes mark us := by
  simpa using h.lead lexes_empty

/-- Marks and blanks can stand behind any text. -/
theorem Lexes.end (h : Lexes text ts) (hmark : Punctuates mark us) :
    Lexes (text ++ mark) (ts ++ us) :=
  h.append hmark.lexes (List.append_nil mark.toList ▸ hmark.apart)

/-- Marks and blanks can stand between two texts. -/
theorem Lexes.between {vs : List Token} (h : Lexes text ts) (hmark : Punctuates mark us)
    (hother : Lexes other vs) : Lexes (text ++ mark ++ other) (ts ++ (us ++ vs)) := by
  rw [String.append_assoc]
  refine h.append (hmark.lead hother) ?_
  rw [String.toList_append]
  exact hmark.apart

/-- A list of texts that each begin apart. -/
theorem lexes_join {text : α → String} {tokens : α → List Token} {xs : List α}
    (h : ∀ x ∈ xs, Lexes (text x) (tokens x)) (hapart : ∀ x ∈ xs, Apart (text x).toList) :
    Lexes (String.join (xs.map text)) (xs.flatMap tokens) ∧
      Apart (String.join (xs.map text)).toList := by
  induction xs with
  | nil => exact ⟨lexes_empty, rfl⟩
  | cons x others ih =>
    obtain ⟨hx, hothers⟩ := List.forall_mem_cons.1 h
    obtain ⟨hfirst, hrest⟩ := List.forall_mem_cons.1 hapart
    obtain ⟨hjoin, hstart⟩ := ih hothers hrest
    rw [List.map_cons, String.join_cons, List.flatMap_cons, String.toList_append]
    exact ⟨hx.append hjoin hstart, apart_append hfirst hstart⟩

end

end TypedQuery.Sdl
