-- SUMMARY: A type is known by its spelling, and is what a schema text with that spelling declares.
import TypedQuery.Proofs.Schema.Extensions
import TypedQuery.Proofs.Sdl.Texts

/-!
# Spellings of types

Marks stand behind what they mark and brackets on both sides, so the last character of a spelling tells
how the type is made, and what is left of the text without it is the spelling of a smaller type. The
reader of schema texts takes a spelling for its type, wherever the spelling stands, if no type in it is
marked twice. A document that is written for some definitions defines these.
-/
namespace TypedQuery

/-! ## Equal spellings -/

namespace TypeRef

variable {type other item inner : TypeRef} {n : String}

theorem toList_spelling_list :
    (list item).spelling.toList = '[' :: item.spelling.toList ++ [']'] := by
  simp [spelling]

theorem toList_spelling_nonNull :
    (nonNull inner).spelling.toList = inner.spelling.toList ++ ['!'] := by
  simp [spelling]

/-- A name ends with a character of names. -/
theorem spelling_ne_of_isName {cs : List Char} {c : Char} (h : Sdl.IsName n)
    (htype : type.spelling.toList = cs ++ [c]) (hc : Sdl.isNameChar c = false) :
    n ≠ type.spelling := by
  rintro rfl
  have hlast := h.2 c (htype ▸ List.mem_append_right cs List.mem_cons_self)
  rw [hc] at hlast
  cases hlast

theorem spelling_list_ne_nonNull : (list item).spelling ≠ (nonNull inner).spelling := by
  intro h
  have hchars := congrArg String.toList h
  rw [toList_spelling_list, toList_spelling_nonNull] at hchars
  have hlast := List.append_inj_right' hchars rfl
  exact absurd hlast (by decide)

theorem eq_of_spelling_eq (htype : Sdl.IsName type.base) (hother : Sdl.IsName other.base)
    (h : type.spelling = other.spelling) : type = other := by
  -- The last character of the text says how both types are made. What it is taken from spells
  -- smaller types, which are the same by induction.
  induction type generalizing other with
  | named n =>
    cases other with
    | named m => exact congrArg named h
    | list item => exact absurd h (spelling_ne_of_isName htype toList_spelling_list rfl)
    | nonNull inner => exact absurd h (spelling_ne_of_isName htype toList_spelling_nonNull rfl)
  | list item ih =>
    cases other with
    | named m => exact absurd h.symm (spelling_ne_of_isName hother toList_spelling_list rfl)
    | list second =>
      have hchars := congrArg String.toList h
      rw [toList_spelling_list, toList_spelling_list] at hchars
      have hitems := List.cons.inj (List.append_cancel_right hchars)
      exact congrArg list (ih htype hother (String.toList_inj.1 hitems.2))
    | nonNull inner => exact absurd h spelling_list_ne_nonNull
  | nonNull inner ih =>
    cases other with
    | named m => exact absurd h.symm (spelling_ne_of_isName hother toList_spelling_nonNull rfl)
    | list item => exact absurd h.symm spelling_list_ne_nonNull
    | nonNull second =>
      have hchars := congrArg String.toList h
      rw [toList_spelling_nonNull, toList_spelling_nonNull] at hchars
      exact congrArg nonNull
        (ih htype hother (String.toList_inj.1 (List.append_cancel_right hchars)))

end TypeRef

/-! ## Spellings in texts -/

namespace Sdl

variable {type : TypeRef} {after : Nat → Stream → Prop} {room : Nat} {s : Stream}

/-- A type closes the brackets that it opens, so there is as much room behind it as before it. -/
theorem Scanned.room_eq (h : Scanned type.tokens after room s) :
    Scanned type.tokens (fun left rest => left = room ∧ after left rest) room s := by
  induction type generalizing after room s with
  | named n =>
    obtain ⟨p, rest, rfl, hrest⟩ := (Scanned.cons_iff rfl).1 h
    exact (Scanned.cons_iff rfl).2 ⟨p, rest, rfl, rfl, hrest⟩
  | list item ih =>
    cases room with
    | zero => exact (Scanned.fault_iff rfl).2 ((Scanned.fault_iff rfl).1 h)
    | succ left =>
      obtain ⟨p, inside, rfl, hinside⟩ := (Scanned.cons_iff rfl).1 h
      refine (Scanned.cons_iff rfl).2 ⟨p, inside, rfl, Scanned.append.2 ?_⟩
      refine (ih (Scanned.append.1 hinside)).mono ?_
      -- Inside there is room for one bracket less, and the closing one makes up for it.
      rintro _ close ⟨rfl, hclose⟩
      obtain ⟨q, rest, rfl, hrest⟩ := (Scanned.cons_iff rfl).1 hclose
      exact (Scanned.cons_iff rfl).2 ⟨q, rest, rfl, rfl, hrest⟩
  | nonNull inner ih =>
    refine Scanned.append.2 ((ih (Scanned.append.1 h)).mono ?_)
    rintro _ marked ⟨rfl, hmarked⟩
    obtain ⟨q, rest, rfl, hrest⟩ := (Scanned.cons_iff rfl).1 hmarked
    exact (Scanned.cons_iff rfl).2 ⟨q, rest, rfl, rfl, hrest⟩

/-- The spelling is read as the type, and reading goes on behind it. -/
theorem typeRef_spelling {p : Position} {rest : List Char} (hbase : IsIdentifier type.base)
    (hmarked : type.MarkedOnce) (hrest : Apart rest)
    (hnext : ∀ left q, (scan left q rest).next? ≠ some (.mark '!')) :
    (type.depth ≤ room → ∃ q, Reader.typeRef (scan room p (type.spelling.toList ++ rest)) =
      .ok (type, scan room q rest)) ∧
    (room < type.depth →
      ∃ q, Reader.typeRef (scan room p (type.spelling.toList ++ rest)) = .error q) := by
  have hscanned := (lexes_spelling hbase rest (fun left s => ∃ q, s = scan left q rest) hrest
    (fun _ q => ⟨q, rfl⟩) room p).room_eq
  have hafter (left : Nat) (s : Stream) (t : Token) (h : left = room ∧ ∃ q, s = scan left q rest)
      (ht : s.next? = some t) : t ≠ .mark '!' := by
    obtain ⟨-, q, rfl⟩ := h
    rintro rfl
    exact hnext left q ht
  obtain ⟨hok, hfail⟩ :=
    Reader.reads_typeRef hmarked _ room _ (Nat.zero_le room) hafter hscanned
  refine ⟨fun hfits => ?_, fun hless => hfail (Nat.not_le.2 hless)⟩
  obtain ⟨_, hread, -, q, rfl⟩ := hok hfits
  exact ⟨q, hread⟩

end Sdl

/-! ## Documents of definitions -/

namespace Schema

variable {types : List TypeDef} {s : Schema}

/-- The definitions of a document that has no others. -/
theorem declaredIn_types : Sdl.Document.declaredIn (types.map .type) = types := by
  induction types with
  | nil => rfl
  | cons d others ih => exact congrArg (d :: ·) ih

theorem extensionsIn_types : Sdl.Document.extensionsIn (types.map .type) = [] := by
  induction types with
  | nil => rfl
  | cons d others ih => exact ih

/-- The schema of a document that defines each name once has its definitions. -/
theorem get?_of_types (hnodup : (types.map TypeDef.name).Nodup)
    (h : ofDocument ⟨types.map .type⟩ = .ok s) {d : TypeDef} (hd : d ∈ types) :
    s.get? d.name = some d := by
  -- The last definition of a name counts; here it is the only one.
  have hreverse : (types.reverse.map TypeDef.name).Nodup := by
    rwa [List.map_reverse, List.nodup_reverse]
  have hfind : types.reverse.find? (·.name = d.name) = some d :=
    (find?_eq_some_iff_of_nodup hreverse).2 ⟨List.mem_reverse.2 hd, rfl⟩
  rw [get?_of_ofDocument h, Sdl.Document.definition?, declaredIn_types, hfind,
    Sdl.Document.extensionsOf, extensionsIn_types]
  simp

theorem parse_documentText (hne : types ≠ [])
    (h : ∀ d ∈ types, (∀ w ∈ d.words, Sdl.IsIdentifier w) ∧ d.MarkedOnce) :
    ((∀ d ∈ types, d.Fits Sdl.bracketLimit) →
      parse (Sdl.documentText types) = ofDocument ⟨types.map .type⟩) ∧
    (¬ (∀ d ∈ types, d.Fits Sdl.bracketLimit) →
      ∃ p, parse (Sdl.documentText types) = .error (.syntaxError p)) := by
  obtain ⟨hok, hfail⟩ := Sdl.Reader.definitions_of_scanned hne (fun d hd => (h d hd).2)
    (show 2 ≤ Sdl.bracketLimit from by decide) (Sdl.scanned_document fun d hd => (h d hd).1)
  constructor
  · intro hfits
    rw [parse, Sdl.Document.parse, hok hfits]
    rfl
  · intro hnot
    obtain ⟨p, hp⟩ := hfail hnot
    exact ⟨p, by rw [parse, Sdl.Document.parse, hp]; rfl⟩

end Schema

/-- A type is known by its spelling. Wherever the spelling stands in a schema text, it is read as the
type if no type in it is marked twice, it does not run on into what comes behind it, and there is room
for its brackets; if there is no room, reading fails. So the document that is written for some
definitions is accepted if there is room for the brackets in it, and then it defines each name as it is
in the list, with the types of all fields and arguments. -/
theorem TypeRef.spelling_read_back :
    (∀ type other : TypeRef, Sdl.IsName type.base → Sdl.IsName other.base →
      type.spelling = other.spelling → type = other) ∧
    (∀ (type : TypeRef) (room : Nat) (p : Sdl.Position) (rest : List Char),
      Sdl.IsIdentifier type.base → type.MarkedOnce → Sdl.Apart rest →
      (∀ left q, (Sdl.scan left q rest).next? ≠ some (.mark '!')) →
      (type.depth ≤ room →
        ∃ q, Sdl.Reader.typeRef (Sdl.scan room p (type.spelling.toList ++ rest)) =
          .ok (type, Sdl.scan room q rest)) ∧
      (room < type.depth →
        ∃ q, Sdl.Reader.typeRef (Sdl.scan room p (type.spelling.toList ++ rest)) = .error q)) ∧
    ∀ types : List TypeDef, types ≠ [] → (types.map TypeDef.name).Nodup →
      (∀ d ∈ types, (∀ w ∈ d.words, Sdl.IsIdentifier w) ∧ d.MarkedOnce) →
      ((∃ s, Schema.parse (Sdl.documentText types) = .ok s) ↔
        ∀ d ∈ types, d.Fits Sdl.bracketLimit) ∧
      ∀ s, Schema.parse (Sdl.documentText types) = .ok s → ∀ d ∈ types, s.get? d.name = some d := by
  refine ⟨fun _ _ => eq_of_spelling_eq, fun _ _ _ _ => Sdl.typeRef_spelling,
    fun types hne hnodup h => ?_⟩
  obtain ⟨hparse, hfail⟩ := Schema.parse_documentText hne h
  by_cases hfits : ∀ d ∈ types, d.Fits Sdl.bracketLimit
  · rw [hparse hfits, Schema.exists_ofDocument_iff]
    have hnone (e : TypeDef) : .extension e ∉ types.map Sdl.Definition.type := by simp
    exact ⟨⟨fun _ => hfits, fun _ e he => absurd he (hnone e)⟩,
      fun s hs _ => Schema.get?_of_types hnodup hs⟩
  · obtain ⟨p, hp⟩ := hfail hfits
    rw [hp]
    exact ⟨⟨nofun, fun hall => absurd hall hfits⟩, nofun⟩

def TypeRef.rows : TypeRef := .nonNull (.list (.list (.nonNull (.named "ID"))))

/-- A field of such a type, with an argument. -/
def rowTypes : List TypeDef :=
  [.object ⟨"Query", [], [⟨"rows", .rows, [⟨"at", .list (.nonNull (.named "Int"))⟩]⟩]⟩,
    .enum ⟨"Side", ["LEFT", "RIGHT"]⟩]

theorem TypeRef.spelling_read_back_rows :
    (∃! type : TypeRef, Sdl.IsName type.base ∧ type.spelling = "[[ID!]]!") ∧
      (∃ q, Sdl.Reader.typeRef (Sdl.scan 2 .start "[[ID!]]! \x7d".toList) =
        .ok (rows, Sdl.scan 2 q " \x7d".toList)) ∧
      (∃ q, Sdl.Reader.typeRef (Sdl.scan 1 .start "[[ID!]]! \x7d".toList) = .error q) ∧
      Sdl.documentText rowTypes = "\ntype Query \x7b\n  rows(\n    at: [Int!]\n  ): [[ID!]]!\n\x7d" ++
        "\nenum Side \x7b\n  LEFT\n  RIGHT\n\x7d" ∧
      ∃ s, Schema.parse (Sdl.documentText rowTypes) = .ok s ∧
        ∀ d ∈ rowTypes, s.get? d.name = some d := by
  obtain ⟨hunique, hread, hdocument⟩ := spelling_read_back
  have hclosing : Sdl.Punctuates " \x7d" [.mark '\x7d'] := by decide
  have hnext (left : Nat) (q : Sdl.Position) :
      (Sdl.scan left q " \x7d".toList).next? ≠ some (.mark '!') := by
    have hscanned := hclosing.lexes [] (fun _ _ => True) rfl (fun _ _ => trivial) left q
    rw [List.append_nil] at hscanned
    rcases hscanned.next with h | h
    all_goals
      rw [h]
      decide
  have hrows (room : Nat) :=
    hread rows room .start " \x7d".toList (by decide) (by decide) rfl hnext
  have hparse := hdocument rowTypes (by decide) (by decide) (by decide)
  obtain ⟨s, hs⟩ := hparse.1.2 (by decide)
  refine ⟨⟨rows, ⟨by decide, by decide⟩, fun other hother => ?_⟩, (hrows 2).1 (by decide),
    (hrows 1).2 (by decide), by decide, s, hs, hparse.2 s hs⟩
  exact hunique other rows hother.1 (by decide) hother.2

end TypedQuery
