-- SUMMARY: What readers read from the tokens of types and definitions.
import TypedQuery.Proofs.Sdl.Scanning

/-!
# Phrases

The tokens of a type, of a field and of a definition are read as what they are the tokens of, if there is
room for the brackets in them; if there is not, reading fails. `Reads` says so of a reader. A reader that
goes on with another one reads the tokens of both, so long as the token that comes next does not make the
first one read on.
-/
namespace TypedQuery

/-! ## Types -/

namespace TypeRef

/-- Nothing that is non-null is made non-null again. -/
def MarkedOnce : TypeRef → Prop
  | named _ => True
  | list item => item.MarkedOnce
  | nonNull inner => inner.isNullable = true ∧ inner.MarkedOnce

instance decidableMarkedOnce : DecidablePred MarkedOnce
  | named _ => .isTrue trivial
  | list item => decidableMarkedOnce item
  | nonNull inner =>
    have := decidableMarkedOnce inner
    inferInstanceAs (Decidable (_ ∧ _))

/-- The number of lists inside each other. -/
def depth : TypeRef → Nat
  | named _ => 0
  | list item => item.depth + 1
  | nonNull inner => inner.depth

def tokens : TypeRef → List Sdl.Token
  | named name => [.name name]
  | list item => .mark '[' :: (item.tokens ++ [.mark ']'])
  | nonNull inner => inner.tokens ++ [.mark '!']

end TypeRef

namespace Sdl

/-- Phrases between two brackets, if there are any phrases. -/
def enclosedTokens {α : Type} (opening closing : Char) (tokens : α → List Token) : List α → List Token
  | [] => []
  | first :: others => .mark opening :: ((first :: others).flatMap tokens ++ [.mark closing])

/-- Names with a mark between them after some token, if there are any names. -/
def separatedTokens (lead : Token) (separator : Char) : List String → List Token
  | [] => []
  | first :: others => lead :: .name first :: others.flatMap fun n => [.mark separator, .name n]

end Sdl

def InputValue.tokens (v : InputValue) : List Sdl.Token := .name v.name :: .mark ':' :: v.type.tokens

def FieldDef.tokens (f : FieldDef) : List Sdl.Token :=
  .name f.name :: (Sdl.enclosedTokens '(' ')' InputValue.tokens f.arguments ++
    .mark ':' :: f.type.tokens)

/-- The tokens after the name of a definition. -/
def TypeDef.bodyTokens : TypeDef → List Sdl.Token
  | scalar _ => []
  | object d | interface d =>
    Sdl.separatedTokens (.name "implements") '&' d.interfaces ++
      Sdl.enclosedTokens '\x7b' '\x7d' FieldDef.tokens d.fields
  | union d => Sdl.separatedTokens (.mark '=') '|' d.members
  | enum d => Sdl.enclosedTokens '\x7b' '\x7d' (fun value => [.name value]) d.values
  | input d => Sdl.enclosedTokens '\x7b' '\x7d' InputValue.tokens d.fields

def TypeDef.tokens (d : TypeDef) : List Sdl.Token :=
  .name d.kind.keyword :: .name d.name :: d.bodyTokens

namespace Sdl

/-! ## Readers -/

namespace Reader

variable {α β : Type} {r : Reader α} {f : α → Reader β} {a : α} {b : β} {t : Token}
  {ts us : List Token} {fits fits' : Nat → Prop} {may may' : Token → Prop} {least : Nat}
  {after : Nat → Stream → Prop} {room : Nat} {s : Stream}

/-- Some tokens are read as something, if there is room for the brackets in them; otherwise reading
fails. This is to hold where there is room for the least number of brackets, and where what comes next is
a token that may do so, if any. -/
def Reads (least : Nat) (r : Reader α) (ts : List Token) (a : α) (fits : Nat → Prop)
    (may : Token → Prop) : Prop :=
  ∀ (after : Nat → Stream → Prop) (room : Nat) (s : Stream), least ≤ room →
    (∀ room s t, after room s → s.next? = some t → may t) → Scanned ts after room s →
    (fits room → ∃ rest, r s = .ok (a, rest) ∧ after room rest) ∧
      (¬ fits room → ∃ p, r s = .error p)

/-- The tokens that may come next, where some tokens stand and others may come after them. -/
def Follows (us : List Token) (may : Token → Prop) (t : Token) : Prop :=
  match us with
  | [] => may t
  | u :: _ => t = u

theorem follows_of_scanned (hafter : ∀ room s t, after room s → s.next? = some t → may t)
    (h : Scanned us after room s) (hnext : s.next? = some t) : Follows us may t := by
  cases us with
  | nil => exact hafter room s t h hnext
  | cons u rest =>
    rcases h.next with hnone | hsome
    · rw [hnone] at hnext
      cases hnext
    · exact Option.some.inj (hnext.symm.trans hsome)

namespace Reads

theorem congr (h : Reads least r ts a fits may) (hts : ts = us)
    (hfits : ∀ room, least ≤ room → (fits room ↔ fits' room)) : Reads least r us a fits' may := by
  subst hts
  intro after room s hroom hafter hs
  rw [← hfits room hroom]
  exact h after room s hroom hafter hs

theorem weaken (h : Reads least r ts a fits may) (hmay : ∀ t, may' t → may t) :
    Reads least r ts a fits may' :=
  fun after room s hroom hafter =>
    h after room s hroom fun room s t hs hnext => hmay t (hafter room s t hs hnext)

theorem mono (h : Reads least r ts a fits may) {more : Nat} (hmore : least ≤ more) :
    Reads more r ts a fits may :=
  fun after room s hroom => h after room s (Nat.le_trans hmore hroom)

theorem pure : Reads least (Pure.pure a) [] a (fun _ => True) may :=
  fun _ _ s _ _ hs => ⟨fun _ => ⟨s, rfl, hs⟩, fun h => absurd trivial h⟩

/-- One reader after another. -/
theorem bind (h : Reads least r ts a fits may) (hf : Reads least (f a) us b fits' may')
    (hnext : ∀ t, Follows us may' t → may t) :
    Reads least (r >>= f) (ts ++ us) b (fun room => fits room ∧ fits' room) may' := by
  intro after room s hroom hafter hs
  obtain ⟨hok, hfail⟩ := h _ room s hroom
    (fun _ _ t hs hn => hnext t (follows_of_scanned hafter hs hn)) (Scanned.append.1 hs)
  -- If there is no room for the first part, reading has failed before the second reader is asked.
  by_cases hfits : fits room
  · obtain ⟨rest, hread, hrest⟩ := hok hfits
    have hbind : (r >>= f) s = f a rest := by
      simp only [Bind.bind, StateT.bind, hread, Except.bind]
    simp only [hbind, hfits, true_and]
    exact hf after room rest hroom hafter hrest
  · obtain ⟨p, hread⟩ := hfail hfits
    refine ⟨fun h => absurd h.1 hfits, fun _ => ⟨p, ?_⟩⟩
    simp only [Bind.bind, StateT.bind, hread, Except.bind]

end Reads

/-- A reader that reads one token, which is no bracket. -/
theorem reads_token (ht : t.IsPlain)
    (h : ∀ p rest, r (.cons t p rest) = .ok (a, rest)) :
    Reads least r [t] a (fun _ => True) (fun _ => True) := by
  intro after room s _ _ hs
  obtain ⟨p, rest, rfl, hrest⟩ := (Scanned.cons_iff (ht room)).1 hs
  exact ⟨fun _ => ⟨rest, h p rest, hrest⟩, fun hnot => absurd trivial hnot⟩

theorem reads_name {n : String} :
    Reads least name [.name n] n (fun _ => True) (fun _ => True) :=
  reads_token (fun _ => rfl) fun _ _ => rfl

theorem reads_expect (ht : t.IsPlain) :
    Reads least (expect t) [t] () (fun _ => True) (fun _ => True) :=
  reads_token ht fun _ _ => if_pos rfl

theorem reads_accept (ht : t.IsPlain) :
    Reads least (accept t) [t] true (fun _ => True) (fun _ => True) :=
  reads_token ht fun _ _ => if_pos rfl

theorem accept_of_next (h : ∀ u, s.next? = some u → u ≠ t) : accept t s = .ok (false, s) := by
  cases s with
  | finish | fault => rfl
  | token u _ _ _ => exact if_neg (h u rfl)

/-- A token that is not there. -/
theorem reads_absent : Reads least (accept t) [] false (fun _ => True) (· ≠ t) :=
  fun _ room s _ hafter hs => ⟨fun _ => ⟨s, accept_of_next fun u hu => hafter room s u hs hu, hs⟩,
    fun h => absurd trivial h⟩

theorem many_of_next {starts : Token → Bool} (h : ∀ u, s.next? = some u → starts u = false) :
    many starts r s = .ok ([], s) := by
  rw [many.eq_def]
  cases s with
  | finish | fault => rfl
  | token u _ _ _ => exact if_neg (by simp [h u rfl])

theorem many_of_ok {starts : Token → Bool} {rest : Stream} (ht : s.next? = some t)
    (hstarts : starts t = true) (hread : r s = .ok (a, rest)) (hless : rest.size < s.size) :
    many starts r s = (many starts r rest).map fun p => (a :: p.1, p.2) := by
  cases s with
  | finish | fault => cases ht
  | token u p n tail =>
    obtain rfl : u = t := Option.some.inj ht
    rw [many.eq_def]
    simp only [hstarts, hread, hless, if_true, dif_pos]
    cases many starts r rest <;> rfl

theorem many_of_error {starts : Token → Bool} {p : Position} (ht : s.next? = some t)
    (hstarts : starts t = true) (hread : r s = .error p) : many starts r s = .error p := by
  cases s with
  | finish | fault => cases ht
  | token u q n tail =>
    obtain rfl : u = t := Option.some.inj ht
    rw [many.eq_def]
    simp only [hstarts, hread, if_true]

section

variable {x : α} {xs : List α} {tokens : α → List Token} {starts : Token → Bool}
  {fitsIn : α → Nat → Prop} {opening closing : Char}

/-- The first token shows that there is a phrase, and is no bracket. -/
def Begins (starts : Token → Bool) (ts : List Token) : Prop :=
  ∃ t rest, ts = t :: rest ∧ starts t = true ∧ t.IsPlain

theorem follows_flatMap (hbegins : ∀ x ∈ xs, Begins starts (tokens x))
    (hstarts : ∀ t, starts t = true → may t)
    (h : Follows (xs.flatMap tokens) (fun t => starts t = false ∧ may t) t) : may t := by
  cases xs with
  | nil => exact h.2
  | cons x others =>
    obtain ⟨⟨u, _, hu, hustarts, _⟩, _⟩ := List.forall_mem_cons.1 hbegins
    rw [List.flatMap_cons, hu] at h
    exact hstarts t (h ▸ hustarts)

/-- As many phrases as there are, one after the other. -/
theorem reads_many (h : ∀ x ∈ xs, Reads least r (tokens x) x (fitsIn x) may)
    (hbegins : ∀ x ∈ xs, Begins starts (tokens x)) (hstarts : ∀ t, starts t = true → may t) :
    Reads least (many starts r) (xs.flatMap tokens) xs (fun room => ∀ x ∈ xs, fitsIn x room)
      (fun t => starts t = false ∧ may t) := by
  induction xs with
  | nil =>
    intro after room s _ hafter hs
    have hnone : many starts r s = .ok ([], s) :=
      many_of_next fun u hu => (hafter room s u hs hu).1
    exact ⟨fun _ => ⟨s, hnone, hs⟩, fun hnot => absurd (fun _ hx => nomatch hx) hnot⟩
  | cons x others ih =>
    obtain ⟨hx, hothers⟩ := List.forall_mem_cons.1 h
    obtain ⟨⟨t, rest, htokens, ht, hplain⟩, hbegins⟩ := List.forall_mem_cons.1 hbegins
    intro after room s hroom hafter hs
    obtain ⟨p, tail, rfl, -⟩ : ∃ p tail, s = .cons t p tail ∧ _ := by
      rw [List.flatMap_cons, htokens, List.cons_append] at hs
      exact (Scanned.cons_iff (hplain room)).1 hs
    rw [List.flatMap_cons, Scanned.append] at hs
    obtain ⟨hok, hfail⟩ := hx _ room _ hroom (fun _ _ u hu hn =>
      follows_flatMap hbegins hstarts (follows_of_scanned hafter hu.1 hn)) hs.size
    simp only [List.forall_mem_cons]
    by_cases hfits : fitsIn x room
    · obtain ⟨middle, hread, hmiddle, hsize⟩ := hok hfits
      -- `many` goes on only if the stream has become smaller; at least the first token of the
      -- phrase was taken from it.
      have hless : middle.size < (Stream.cons t p tail).size := by
        rw [htokens, List.length_cons] at hsize
        omega
      obtain ⟨hmore, hstop⟩ := ih hothers hbegins after room middle hroom hafter hmiddle
      rw [many_of_ok rfl ht hread hless]
      constructor
      · rintro ⟨_, hall⟩
        obtain ⟨last, hmany, hlast⟩ := hmore hall
        exact ⟨last, by rw [hmany]; rfl, hlast⟩
      · intro hnot
        obtain ⟨q, hmany⟩ := hstop fun hall => hnot ⟨hfits, hall⟩
        exact ⟨q, by rw [hmany]; rfl⟩
    · obtain ⟨q, hread⟩ := hfail hfits
      exact ⟨fun hall => absurd hall.1 hfits, fun _ => ⟨q, many_of_error rfl ht hread⟩⟩

/-- Phrases between brackets, if there are any. There has to be room for these two brackets. -/
theorem reads_enclosed (h : ∀ x ∈ xs, Reads least r (tokens x) x (fitsIn x) may)
    (hbegins : ∀ x ∈ xs, Begins starts (tokens x)) (hstarts : ∀ t, starts t = true → may t)
    (hopening : isOpening opening = true) (hclosing : isClosing closing = true)
    (hend : starts (.mark closing) = false ∧ may (.mark closing)) :
    Reads (least + 1) (enclosed opening closing starts r) (enclosedTokens opening closing tokens xs) xs
      (fun room => ∀ x ∈ xs, fitsIn x (room - 1)) (· ≠ .mark opening) := by
  cases xs with
  | nil => exact Reads.congr (Reads.bind reads_absent .pure fun _ => id) rfl fun _ _ => by simp
  | cons x others =>
    have hitems : Reads least (many1 starts r) ((x :: others).flatMap tokens) (x :: others)
        (fun room => ∀ y ∈ x :: others, fitsIn y room) (fun t => starts t = false ∧ may t) := by
      obtain ⟨hx, hothers⟩ := List.forall_mem_cons.1 h
      have hmore := (List.forall_mem_cons.1 hbegins).2
      refine Reads.congr (Reads.bind hx (Reads.bind (reads_many hothers hmore hstarts) .pure
        fun _ => id) fun t ht => ?_) ?_ fun room _ => ?_
      · rw [List.append_nil] at ht
        exact follows_flatMap hmore hstarts ht
      · rw [List.append_nil, List.flatMap_cons]
      · simp
    intro after room s hroom hafter hs
    -- The opening bracket takes the room of one, the phrases are read in what is left, and the
    -- closing bracket gives it back.
    obtain ⟨left, rfl⟩ := Nat.exists_eq_add_of_le' (Nat.le_trans (Nat.le_add_left 1 least) hroom)
    obtain ⟨p, inside, rfl, hinside⟩ := (Scanned.cons_iff (Token.roomAfter?_opening hopening)).1 hs
    have hnext (room : Nat) (s : Stream) (u : Token) (h : Scanned [.mark closing] after room s)
        (hu : s.next? = some u) : starts u = false ∧ may u := by
      obtain rfl : u = .mark closing := follows_of_scanned hafter h hu
      exact hend
    obtain ⟨hok, hfail⟩ := hitems _ left inside (Nat.le_of_succ_le_succ hroom) hnext
      (Scanned.append.1 hinside)
    have hread : enclosed opening closing starts r (.cons (.mark opening) p inside) =
        (do
          let items ← many1 starts r
          expect (.mark closing)
          return items : Reader (List α)) inside := by
      simp [enclosed, accept, Stream.cons, Bind.bind, StateT.bind, Except.bind]
    rw [hread]
    constructor
    · intro hfits
      obtain ⟨end_, hmany, hend_⟩ := hok hfits
      obtain ⟨q, rest, rfl, hrest⟩ := (Scanned.cons_iff (Token.roomAfter?_closing hclosing)).1 hend_
      refine ⟨rest, ?_, hrest⟩
      simp only [Bind.bind, StateT.bind, hmany, Except.bind, Stream.cons, expect, if_true]
      rfl
    · intro hnot
      obtain ⟨q, hmany⟩ := hfail hnot
      exact ⟨q, by simp only [Bind.bind, StateT.bind, hmany, Except.bind]⟩

end

/-! ## Types -/

theorem nonNullIfMarked_of_next {type : TypeRef} (h : ∀ t, s.next? = some t → t ≠ .mark '!') :
    nonNullIfMarked type s = (type, s) := by
  unfold nonNullIfMarked
  split
  · exact absurd rfl (h (.mark '!') rfl)
  · rfl

/-- The tokens of a type that is nullable are read as the type, which a mark behind them makes
non-null. -/
def ReadsMarked (type : TypeRef) : Prop :=
  ∀ (after : Nat → Stream → Prop) (room : Nat) (s : Stream), Scanned type.tokens after room s →
    (type.depth ≤ room →
      ∃ rest, typeRef s = .ok (nonNullIfMarked type rest) ∧ after room rest) ∧
    (¬ type.depth ≤ room → ∃ p, typeRef s = .error p)

theorem ReadsMarked.reads {type : TypeRef} (h : ReadsMarked type) :
    Reads least typeRef type.tokens type (type.depth ≤ ·) (· ≠ .mark '!') := by
  intro after room s _ hafter hs
  obtain ⟨hok, hfail⟩ := h after room s hs
  refine ⟨fun hfits => ?_, hfail⟩
  obtain ⟨rest, hread, hrest⟩ := hok hfits
  rw [nonNullIfMarked_of_next fun t ht => hafter room rest t hrest ht] at hread
  exact ⟨rest, hread, hrest⟩

theorem readsMarked_named {n : String} : ReadsMarked (.named n) := by
  intro after room s hs
  obtain ⟨p, rest, rfl, hrest⟩ := (Scanned.cons_iff rfl).1 hs
  refine ⟨fun _ => ⟨rest, ?_, hrest⟩, fun hnot => absurd (Nat.zero_le room) hnot⟩
  rw [Stream.cons, typeRef]

theorem readsMarked_list {item : TypeRef}
    (h : Reads 0 typeRef item.tokens item (item.depth ≤ ·) (· ≠ .mark '!')) :
    ReadsMarked (.list item) := by
  intro after room s hs
  cases room with
  | zero =>
    obtain ⟨p, rfl⟩ := (Scanned.fault_iff rfl).1 hs
    refine ⟨fun hfits => absurd hfits (Nat.not_succ_le_zero _), fun _ => ⟨p, ?_⟩⟩
    rw [typeRef.eq_def]
    rfl
  | succ left =>
    obtain ⟨p, inside, rfl, hinside⟩ := (Scanned.cons_iff rfl).1 hs
    -- Inside the brackets the closing one comes next, so that no mark is taken for the item.
    have hnext (room : Nat) (s : Stream) (t : Token) (h : Scanned [.mark ']'] after room s)
        (ht : s.next? = some t) : t ≠ .mark '!' := by
      rcases h.next with hnone | hsome
      · rw [hnone] at ht
        cases ht
      · obtain rfl := Option.some.inj (hsome.symm.trans ht)
        decide
    obtain ⟨hok, hfail⟩ := h _ left inside (Nat.zero_le _) hnext (Scanned.append.1 hinside)
    constructor
    · intro hfits
      obtain ⟨end_, hread, hend⟩ := hok (Nat.le_of_succ_le_succ hfits)
      obtain ⟨q, rest, rfl, hrest⟩ := (Scanned.cons_iff rfl).1 hend
      exact ⟨rest, by rw [Stream.cons, typeRef, hread]; rfl, hrest⟩
    · intro hnot
      obtain ⟨q, hread⟩ := hfail fun hfits => hnot (Nat.succ_le_succ hfits)
      exact ⟨q, by rw [Stream.cons, typeRef, hread]⟩

theorem reads_nonNull {inner : TypeRef} (h : ReadsMarked inner) :
    Reads least typeRef (TypeRef.nonNull inner).tokens (.nonNull inner) (inner.depth ≤ ·)
      (· ≠ .mark '!') := by
  intro after room s _ _ hs
  obtain ⟨hok, hfail⟩ := h _ room s (Scanned.append.1 hs)
  refine ⟨fun hfits => ?_, hfail⟩
  obtain ⟨marked, hread, hmarked⟩ := hok hfits
  obtain ⟨p, rest, rfl, hrest⟩ := (Scanned.cons_iff rfl).1 hmarked
  exact ⟨rest, hread, hrest⟩

/-- The tokens of a type that is marked once are read as the type. -/
theorem reads_typeRef {type : TypeRef} (h : type.MarkedOnce) :
    Reads least typeRef type.tokens type (type.depth ≤ ·) (· ≠ .mark '!') := by
  -- A mark has to be read together with the type before it, so this type is not read by itself.
  have hboth : (type.isNullable = true → ReadsMarked type) ∧
      Reads 0 typeRef type.tokens type (type.depth ≤ ·) (· ≠ .mark '!') := by
    induction type with
    | named n => exact ⟨fun _ => readsMarked_named, readsMarked_named.reads⟩
    | list item ih =>
      have hlist := readsMarked_list (ih h).2
      exact ⟨fun _ => hlist, hlist.reads⟩
    | nonNull inner ih =>
      obtain ⟨hnullable, hinner⟩ := h
      exact ⟨nofun, reads_nonNull ((ih hinner).1 hnullable)⟩
  exact hboth.2.mono (Nat.zero_le _)

/-! ## Parts of definitions -/

/-- There is no description. -/
theorem reads_description :
    Reads least description [] () (fun _ => True) (· ≠ .string) :=
  Reads.congr (Reads.bind reads_absent .pure fun _ => id) rfl fun _ _ => by simp

/-- There are no directives. -/
theorem reads_directives :
    Reads least directives [] false (fun _ => True) (· ≠ .mark '@') := by
  have hnone : Reads least (many (· = .mark '@') directive) [] [] (fun _ => True)
      (· ≠ .mark '@') := by
    intro after room s _ hafter hs
    exact ⟨fun _ => ⟨s, many_of_next fun u hu => decide_eq_false (hafter room s u hs hu), hs⟩,
      fun hnot => absurd trivial hnot⟩
  exact Reads.congr (Reads.bind hnone .pure fun _ => id) rfl fun _ _ => by simp

theorem reads_inputValue {v : InputValue} (h : v.type.MarkedOnce) :
    Reads least inputValue v.tokens v (v.type.depth ≤ ·)
      (fun t => t ≠ .mark '!' ∧ t ≠ .mark '=' ∧ t ≠ .mark '@') := by
  refine Reads.congr (Reads.bind reads_description (Reads.bind reads_name
    (Reads.bind (reads_expect fun _ => rfl) (Reads.bind (reads_typeRef h)
      (Reads.bind reads_absent (Reads.bind reads_directives .pure ?_) ?_) ?_) ?_) ?_) ?_) ?_ ?_
  all_goals simp +contextual [Follows, InputValue.tokens]

theorem begins_name {n : String} {rest : List Token} : Begins isNameOrString (.name n :: rest) :=
  ⟨_, _, rfl, rfl, fun _ => rfl⟩

theorem ne_mark_of_isNameOrString {c : Char} (h : isNameOrString t = true) : t ≠ .mark c := by
  rintro rfl
  cases h

theorem reads_inputValues {vs : List InputValue} {opening closing : Char}
    (h : ∀ v ∈ vs, v.type.MarkedOnce) (hopening : isOpening opening = true)
    (hclosing : isClosing closing = true) :
    Reads (least + 1) (enclosed opening closing isNameOrString inputValue)
      (enclosedTokens opening closing InputValue.tokens vs) vs
      (fun room => ∀ v ∈ vs, v.type.depth ≤ room - 1) (· ≠ .mark opening) := by
  have hends (c : Char) (hc : isPlainMark c = true) : Token.mark closing ≠ .mark c := by
    rintro ⟨⟩
    rw [(not_bracket_of_isPlainMark hc).2] at hclosing
    cases hclosing
  refine reads_enclosed (fun v hv => reads_inputValue (h v hv)) (fun _ _ => begins_name)
    (fun t ht => ?_) hopening hclosing ⟨rfl, hends _ rfl, hends _ rfl, hends _ rfl⟩
  exact ⟨ne_mark_of_isNameOrString ht, ne_mark_of_isNameOrString ht, ne_mark_of_isNameOrString ht⟩

theorem reads_field {d : FieldDef} (h : d.type.MarkedOnce) (ha : ∀ v ∈ d.arguments, v.type.MarkedOnce) :
    Reads (least + 1) field d.tokens d
      (fun room => d.type.depth ≤ room ∧ ∀ v ∈ d.arguments, v.type.depth ≤ room - 1)
      (fun t => t ≠ .mark '!' ∧ t ≠ .mark '@') := by
  refine Reads.congr (Reads.bind reads_description (Reads.bind reads_name
    (Reads.bind (reads_inputValues ha rfl rfl) (Reads.bind (reads_expect fun _ => rfl)
      (Reads.bind (reads_typeRef h) (Reads.bind reads_directives .pure ?_) ?_) ?_) ?_) ?_) ?_) ?_ ?_
  all_goals simp +contextual [Follows, FieldDef.tokens, and_comm]

theorem reads_fields {ds : List FieldDef}
    (h : ∀ d ∈ ds, d.type.MarkedOnce ∧ ∀ v ∈ d.arguments, v.type.MarkedOnce) :
    Reads (least + 2) fields (enclosedTokens '\x7b' '\x7d' FieldDef.tokens ds) ds
      (fun room => ∀ d ∈ ds, d.type.depth ≤ room - 1 ∧ ∀ v ∈ d.arguments, v.type.depth ≤ room - 2)
      (· ≠ .mark '\x7b') :=
  reads_enclosed (fun d hd => reads_field (h d hd).1 (h d hd).2) (fun _ _ => begins_name)
    (fun _ ht => ⟨ne_mark_of_isNameOrString ht, ne_mark_of_isNameOrString ht⟩) rfl rfl
    ⟨rfl, by decide⟩

theorem reads_enumValues {names : List String} :
    Reads (least + 1) enumValues (enclosedTokens '\x7b' '\x7d' (fun n => [.name n]) names) names
      (fun _ => True) (· ≠ .mark '\x7b') := by
  have hvalue (n : String) : Reads least
      (do
        description
        let text ← name
        let _ ← directives
        return text : Reader String)
      [.name n] n (fun _ => True) (· ≠ .mark '@') := by
    refine Reads.congr (Reads.bind reads_description
      (Reads.bind reads_name (Reads.bind reads_directives .pure ?_) ?_) ?_) ?_ ?_
    all_goals simp +contextual [Follows]
  refine Reads.congr (reads_enclosed (fun n _ => hvalue n) (fun _ _ => begins_name)
    (fun _ ht => ne_mark_of_isNameOrString ht) rfl rfl ⟨rfl, by decide⟩) rfl ?_
  simp

/-- Names with a mark between them. -/
theorem reads_separated {separator : Char} {first : String} {others : List String}
    (hplain : isPlainMark separator = true) : Reads least (separated separator)
      (.name first :: others.flatMap fun n => [.mark separator, .name n]) (first :: others)
      (fun _ => True) (· ≠ .mark separator) := by
  have hmark := Token.isPlain_mark hplain
  have hmore (n : String) : Reads least
      (do
        expect (.mark separator)
        name : Reader String)
      [.mark separator, .name n] n (fun _ => True) (fun _ => True) :=
    Reads.congr (Reads.bind (reads_expect hmark) reads_name fun _ _ => trivial) rfl fun _ _ => by simp
  have hbegins (n : String) : Begins (· = .mark separator) [.mark separator, .name n] :=
    ⟨_, _, rfl, by simp, hmark⟩
  have hothers := reads_many (fun n (_ : n ∈ others) => hmore n) (fun n _ => hbegins n)
    fun _ _ => trivial
  refine Reads.congr (Reads.bind reads_absent (Reads.bind reads_name
    (Reads.bind hothers .pure ?_) ?_) ?_) ?_ ?_
  all_goals simp +contextual [Follows]

theorem reads_interfaces {names : List String} :
    Reads least interfaces (separatedTokens (.name "implements") '&' names) names (fun _ => True)
      (fun t => t ≠ .name "implements" ∧ t ≠ .mark '&') := by
  cases names with
  | nil => exact Reads.congr (Reads.bind reads_absent .pure fun _ h => h.1) rfl fun _ _ => by simp
  | cons first others =>
    exact Reads.congr (Reads.bind (reads_accept fun _ => rfl)
      ((reads_separated rfl).weaken fun _ h => h.2) fun _ _ => trivial) rfl fun _ _ => by simp

theorem reads_members {names : List String} :
    Reads least members (separatedTokens (.mark '=') '|' names) names (fun _ => True)
      (fun t => t ≠ .mark '=' ∧ t ≠ .mark '|') := by
  cases names with
  | nil => exact Reads.congr (Reads.bind reads_absent .pure fun _ h => h.1) rfl fun _ _ => by simp
  | cons first others =>
    exact Reads.congr (Reads.bind (reads_accept fun _ => rfl)
      ((reads_separated rfl).weaken fun _ h => h.2) fun _ _ => trivial) rfl fun _ _ => by simp

/-! ## Definitions -/

theorem reads_position {f : Position → Reader β} (h : ∀ p, Reads least (f p) ts b fits may) :
    Reads least (position >>= f) ts b fits may :=
  fun after room s => h s.position after room s

theorem reads_require {condition : Bool} {p : Position} (h : condition = true) :
    Reads least (require condition p) [] () (fun _ => True) (fun _ => True) :=
  fun _ _ s _ _ hs => ⟨fun _ => ⟨s, by rw [require, h]; rfl, hs⟩, fun hnot => absurd trivial hnot⟩

/-- A token that a definition begins with. -/
def StartsDefinition (t : Token) : Prop := ∃ kind : TypeKind, t = .name kind.keyword

theorem StartsDefinition.ne_mark {c : Char} (h : StartsDefinition t) : t ≠ .mark c := by
  obtain ⟨kind, rfl⟩ := h
  exact nofun

theorem StartsDefinition.ne_implements (h : StartsDefinition t) : t ≠ .name "implements" := by
  obtain ⟨kind, rfl⟩ := h
  cases kind <;> decide

theorem follows_enclosed {xs : List α} {tokens : α → List Token} {opening closing : Char}
    (h : Follows (enclosedTokens opening closing tokens xs ++ us) may t) :
    t = .mark opening ∨ Follows us may t := by
  cases xs with
  | nil => exact .inr h
  | cons => exact .inl h

/-- No directive stands between a block and the next definition. -/
theorem ne_directive_of_follows_block {xs : List α} {tokens : α → List Token} (t : Token)
    (h : Follows (enclosedTokens '\x7b' '\x7d' tokens xs ++ []) StartsDefinition t) :
    t ≠ .mark '@' := by
  rcases follows_enclosed h with rfl | h
  · decide
  · exact StartsDefinition.ne_mark h

theorem follows_separated {lead : Token} {separator : Char} {names : List String}
    (h : Follows (separatedTokens lead separator names ++ us) may t) : t = lead ∨ Follows us may t := by
  cases names with
  | nil => exact .inr h
  | cons => exact .inl h

end Reader

end Sdl

namespace TypeDef

/-- The types of the fields that a definition lists, be they for output or input. -/
def fieldTypes : TypeDef → List TypeRef
  | object d | interface d => d.fields.map (·.type)
  | input d => d.fields.map (·.type)
  | union _ | enum _ | scalar _ => []

/-- The types of the arguments of these fields. -/
def argumentTypes : TypeDef → List TypeRef
  | object d | interface d => d.fields.flatMap fun f => f.arguments.map (·.type)
  | union _ | enum _ | input _ | scalar _ => []

/-- There is room for the lists in the types of fields, which are inside one bracket, and of arguments,
which are inside two. -/
def Fits (d : TypeDef) (room : Nat) : Prop :=
  (∀ type ∈ d.fieldTypes, type.depth + 1 ≤ room) ∧ ∀ type ∈ d.argumentTypes, type.depth + 2 ≤ room

/-- All types are marked once. -/
def MarkedOnce (d : TypeDef) : Prop := ∀ type ∈ d.fieldTypes ++ d.argumentTypes, type.MarkedOnce

instance {d : TypeDef} {room : Nat} : Decidable (d.Fits room) := inferInstanceAs (Decidable (_ ∧ _))

instance {d : TypeDef} : Decidable d.MarkedOnce := List.decidableBAll _ _

end TypeDef

namespace Sdl.Reader

section

variable {d : ObjectDef} {n : String} {start : Position}

/-- The part of a definition of an object or interface behind the keyword. -/
theorem reads_objectDef {condition : List String → Bool → List FieldDef → Bool}
    {make : ObjectDef → TypeDef}
    (hfields : ∀ f ∈ d.fields, f.type.MarkedOnce ∧ ∀ v ∈ f.arguments, v.type.MarkedOnce)
    (hcondition : condition d.interfaces false d.fields = true) :
    Reads 2
      (do
        let text ← name
        let ifaces ← interfaces
        let directed ← directives
        let listed ← fields
        require (condition ifaces directed listed) start
        return make ⟨text, ifaces, listed⟩)
      (.name d.name :: (separatedTokens (.name "implements") '&' d.interfaces ++
        enclosedTokens '\x7b' '\x7d' FieldDef.tokens d.fields))
      (make d)
      (fun room => ∀ f ∈ d.fields, f.type.depth ≤ room - 1 ∧ ∀ v ∈ f.arguments, v.type.depth ≤ room - 2)
      StartsDefinition := by
  refine Reads.congr (Reads.bind reads_name (Reads.bind reads_interfaces (Reads.bind reads_directives
    (Reads.bind (reads_fields hfields) (Reads.bind (reads_require hcondition) .pure
      fun _ _ => trivial) fun t ht => ?_) fun t ht => ?_) fun t ht => ?_) fun _ _ => trivial) ?_ ?_
  · exact StartsDefinition.ne_mark ht
  · exact ne_directive_of_follows_block t ht
  · -- Behind the interfaces stands the block, or, if no field is listed, the next definition.
    rcases follows_enclosed ht with rfl | ht
    · decide
    · exact ⟨StartsDefinition.ne_implements ht, StartsDefinition.ne_mark ht⟩
  · simp
  · simp

/-- The part of a definition that lists something behind the keyword. -/
theorem reads_listing {γ : Type} {listing : Reader (List γ)} {condition : Bool → List γ → Bool}
    {make : String → List γ → TypeDef} {xs : List γ}
    (h : Reads 2 listing ts xs fits may) (hmay : ∀ t, StartsDefinition t → may t)
    (hdirectives : ∀ t, Follows (ts ++ []) StartsDefinition t → t ≠ .mark '@')
    (hcondition : condition false xs = true) :
    Reads 2
      (do
        let text ← name
        let directed ← directives
        let listed ← listing
        require (condition directed listed) start
        return make text listed)
      (.name n :: ts) (make n xs) fits StartsDefinition := by
  refine Reads.congr (Reads.bind reads_name (Reads.bind reads_directives
    (Reads.bind h (Reads.bind (reads_require hcondition) .pure
      fun _ _ => trivial) hmay) hdirectives) fun _ _ => trivial) ?_ ?_
  · simp
  · simp

theorem markedOnce_of_object (h : TypeDef.MarkedOnce (.object d)) :
    ∀ f ∈ d.fields, f.type.MarkedOnce ∧ ∀ v ∈ f.arguments, v.type.MarkedOnce := by
  obtain ⟨hfields, harguments⟩ := List.forall_mem_append.1 h
  refine fun f hf => ⟨hfields _ (List.mem_map_of_mem hf), fun v hv => harguments _ ?_⟩
  exact List.mem_flatMap.2 ⟨f, hf, List.mem_map_of_mem hv⟩

theorem fits_object_iff {room : Nat} (hroom : 2 ≤ room) : (∀ f ∈ d.fields, f.type.depth ≤ room - 1 ∧
    ∀ v ∈ f.arguments, v.type.depth ≤ room - 2) ↔ TypeDef.Fits (.object d) room := by
  have hone (depth : Nat) : depth ≤ room - 1 ↔ depth + 1 ≤ room := by omega
  have htwo (depth : Nat) : depth ≤ room - 2 ↔ depth + 2 ≤ room := by omega
  simp only [TypeDef.Fits, TypeDef.fieldTypes, TypeDef.argumentTypes, List.forall_mem_map,
    List.forall_mem_flatMap, hone, htwo, forall_and]

end

theorem reads_typeDef {d : TypeDef} (h : d.MarkedOnce) :
    Reads 2 (typeDef false) d.tokens d d.Fits StartsDefinition := by
  refine reads_position fun start => ?_
  cases d with
  | scalar n =>
    refine Reads.congr (Reads.bind (reads_name (n := "scalar")) (Reads.bind reads_name
      (Reads.bind reads_directives (Reads.bind (reads_require rfl) .pure fun _ _ => trivial)
        fun _ ht => StartsDefinition.ne_mark ht) fun _ _ => trivial) fun _ _ => trivial) rfl ?_
    simp [TypeDef.Fits, TypeDef.fieldTypes, TypeDef.argumentTypes]
  | object d =>
    refine Reads.congr (Reads.bind (reads_name (n := "type"))
      (reads_objectDef (markedOnce_of_object h) rfl) fun _ _ => trivial) rfl fun room hroom => ?_
    rw [true_and, fits_object_iff hroom]
  | interface d =>
    refine Reads.congr (Reads.bind (reads_name (n := "interface"))
      (reads_objectDef (markedOnce_of_object h) rfl) fun _ _ => trivial) rfl fun room hroom => ?_
    rw [true_and, fits_object_iff hroom]
    rfl
  | union d =>
    refine Reads.congr (Reads.bind (reads_name (n := "union")) (reads_listing reads_members
      (fun _ ht => ⟨ht.ne_mark, ht.ne_mark⟩) (fun t ht => ?_) rfl) fun _ _ => trivial) rfl ?_
    · rcases follows_separated ht with rfl | ht
      · decide
      · exact StartsDefinition.ne_mark ht
    · simp [TypeDef.Fits, TypeDef.fieldTypes, TypeDef.argumentTypes]
  | enum d =>
    refine Reads.congr (Reads.bind (reads_name (n := "enum")) (reads_listing reads_enumValues
      (fun _ ht => ht.ne_mark) ne_directive_of_follows_block rfl) fun _ _ => trivial) rfl ?_
    simp [TypeDef.Fits, TypeDef.fieldTypes, TypeDef.argumentTypes]
  | input d =>
    have hvalues : ∀ v ∈ d.fields, v.type.MarkedOnce := fun v hv =>
      h _ (List.mem_append_left _ (List.mem_map_of_mem hv))
    refine Reads.congr (Reads.bind (reads_name (n := "input")) (reads_listing
      (reads_inputValues hvalues rfl rfl) (fun _ ht => ht.ne_mark) ne_directive_of_follows_block rfl)
        fun _ _ => trivial) rfl fun room hroom => ?_
    have hone (depth : Nat) : depth ≤ room - 1 ↔ depth + 1 ≤ room := by omega
    simp [TypeDef.Fits, TypeDef.fieldTypes, TypeDef.argumentTypes, hone]

/-- A keyword other than those of schemas, extensions and directives begins a type definition. -/
theorem definition_of_keyword {kind : TypeKind} {p : Position} {rest : Stream} :
    definition (.cons (.name kind.keyword) p rest) =
      (do description; return .type (← typeDef false) : Reader Definition)
        (.cons (.name kind.keyword) p rest) := by
  cases kind <;> rfl

theorem reads_definition {d : TypeDef} (h : d.MarkedOnce) :
    Reads 2 definition d.tokens (.type d) d.Fits StartsDefinition := by
  have hread : Reads 2 (do description; return .type (← typeDef false) : Reader Definition) d.tokens
      (.type d) d.Fits StartsDefinition := by
    refine Reads.congr (Reads.bind reads_description (Reads.bind (reads_typeDef h) .pure
      fun _ => id) ?_) ?_ ?_
    · rintro _ rfl
      exact nofun
    · simp
    · simp
  intro after room s hroom hafter hs
  obtain ⟨p, rest, rfl, -⟩ := (Scanned.cons_iff rfl).1 hs
  rw [definition_of_keyword]
  exact hread after room _ hroom hafter hs

theorem definitions_of_finish {first : Definition} {p : Position}
    (h : definition s = .ok (first, .finish p)) : definitions s = .ok [first] := by
  rw [definitions.eq_def, h]

theorem definitions_of_token {first : Definition} {rest : Stream} (h : definition s = .ok (first, rest))
    (ht : rest.next? = some t) (hless : rest.size < s.size) :
    definitions s = (definitions rest).map (first :: ·) := by
  cases rest with
  | finish | fault => cases ht
  | token u p n tail =>
    rw [definitions.eq_def, h]
    simp only [hless, dif_pos]
    cases definitions (.token u p n tail) <;> rfl

theorem definitions_of_error {p : Position} (h : definition s = .error p) :
    definitions s = .error p := by
  rw [definitions.eq_def, h]

/-- The tokens of a document are read as its definitions. -/
theorem definitions_of_scanned {types : List TypeDef} (hne : types ≠ [])
    (h : ∀ d ∈ types, d.MarkedOnce) (hroom : 2 ≤ room)
    (hs : Scanned (types.flatMap TypeDef.tokens) (fun _ s => ∃ p, s = .finish p) room s) :
    ((∀ d ∈ types, d.Fits room) → definitions s = .ok (types.map .type)) ∧
      (¬ (∀ d ∈ types, d.Fits room) → ∃ p, definitions s = .error p) := by
  induction types generalizing room s with
  | nil => exact absurd rfl hne
  | cons d others ih =>
    obtain ⟨hd, hothers⟩ := List.forall_mem_cons.1 h
    rw [List.flatMap_cons, Scanned.append] at hs
    -- Behind a definition the document ends or the next definition begins.
    have hnext (room : Nat) (s : Stream) (t : Token)
        (hs : Scanned (others.flatMap TypeDef.tokens) (fun _ s => ∃ p, s = .finish p) room s)
        (ht : s.next? = some t) : StartsDefinition t := by
      cases others with
      | nil =>
        obtain ⟨p, rfl⟩ := hs
        cases ht
      | cons e _ =>
        rcases hs.next with hnone | hsome
        · rw [hnone] at ht
          cases ht
        · exact ⟨e.kind, Option.some.inj (ht.symm.trans hsome)⟩
    obtain ⟨hok, hfail⟩ := reads_definition hd _ room s hroom (fun room s t hs => hnext room s t hs.1)
      hs.size
    simp only [List.forall_mem_cons]
    by_cases hfits : d.Fits room
    · obtain ⟨rest, hread, hrest, hsize⟩ := hok hfits
      cases others with
      | nil =>
        obtain ⟨p, rfl⟩ := hrest
        rw [definitions_of_finish hread]
        exact ⟨fun _ => rfl, fun hnot => absurd ⟨hfits, fun _ hd => nomatch hd⟩ hnot⟩
      | cons e more =>
        obtain ⟨p, tail, rfl, -⟩ := (Scanned.cons_iff rfl).1 hrest
        have hless : (Stream.cons (.name e.kind.keyword) p tail).size < s.size := by
          rw [TypeDef.tokens, List.length_cons] at hsize
          omega
        obtain ⟨hmore, hstop⟩ := ih (List.cons_ne_nil _ _) hothers hroom hrest
        rw [definitions_of_token hread rfl hless]
        constructor
        · rintro ⟨_, hall⟩
          rw [hmore hall]
          rfl
        · intro hnot
          obtain ⟨q, hq⟩ := hstop fun hall => hnot ⟨hfits, hall⟩
          exact ⟨q, by rw [hq]; rfl⟩
    · obtain ⟨q, hread⟩ := hfail hfits
      exact ⟨fun hall => absurd hall.1 hfits, fun _ => ⟨q, definitions_of_error hread⟩⟩

end Sdl.Reader

end TypedQuery
