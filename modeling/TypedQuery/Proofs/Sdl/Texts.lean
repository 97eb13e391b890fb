-- SUMMARY: Definitions as texts, and the tokens that these texts are scanned to.
import TypedQuery.Proofs.Sdl.Phrases

/-!
# Texts of definitions

A document can be written for any list of type definitions: every definition begins a line, and so does
every field, value and argument. The texts lex to the tokens of the definitions, provided that the words
in them are names that the language has.
-/
namespace TypedQuery

/-! ## Texts -/

namespace Sdl

/-- Texts between two brackets, each on a line of its own, if there are any. -/
def enclosedText {α : Type} (opening line closing : String) (text : α → String) : List α → String
  | [] => ""
  | first :: others =>
    opening ++ String.join ((first :: others).map fun x => line ++ text x) ++ closing

/-- Names with a mark between them after some beginning, if there are any names. -/
def separatedText (lead mark : String) : List String → String
  | [] => ""
  | first :: others => lead ++ first ++ String.join (others.map fun n => mark ++ n)

end Sdl

def InputValue.text (v : InputValue) : String := v.name ++ ": " ++ v.type.spelling

def FieldDef.text (f : FieldDef) : String :=
  f.name ++ Sdl.enclosedText "(" "\n    " "\n  )" InputValue.text f.arguments ++ ": " ++
    f.type.spelling

/-- What is written after the name of a definition. -/
def TypeDef.bodyText : TypeDef → String
  | scalar _ => ""
  | object d | interface d =>
    Sdl.separatedText " implements " " & " d.interfaces ++
      Sdl.enclosedText " \x7b" "\n  " "\n\x7d" FieldDef.text d.fields
  | union d => Sdl.separatedText " = " " | " d.members
  | enum d => Sdl.enclosedText " \x7b" "\n  " "\n\x7d" (fun value => value) d.values
  | input d => Sdl.enclosedText " \x7b" "\n  " "\n\x7d" InputValue.text d.fields

def TypeDef.text (d : TypeDef) : String := d.kind.keyword ++ " " ++ d.name ++ d.bodyText

namespace Sdl

/-- A document with these definitions. -/
def documentText (types : List TypeDef) : String := String.join (types.map fun d => "\n" ++ d.text)

/-! ## Their tokens -/

section

variable {α : Type} {opening line closing lead mark : String} {text : α → String}
  {tokens : α → List Token} {xs : List α} {left right separator : Char} {t : Token}
  {names : List String}

theorem lexes_enclosed (h : ∀ x ∈ xs, Lexes (text x) (tokens x))
    (hopening : Punctuates opening [.mark left]) (hclosing : Punctuates closing [.mark right])
    (hline : Punctuates line []) :
    Lexes (enclosedText opening line closing text xs) (enclosedTokens left right tokens xs) ∧
      Apart (enclosedText opening line closing text xs).toList := by
  cases xs with
  | nil => exact ⟨lexes_empty, rfl⟩
  | cons x others =>
    have hapart (y : α) (_ : y ∈ x :: others) : Apart (line ++ text y).toList := by
      rw [String.toList_append]
      exact hline.apart
    have hitems := (lexes_join (fun y hy => hline.lead (h y hy)) hapart).1
    rw [enclosedText, String.append_assoc, String.toList_append]
    exact ⟨hopening.lead (hitems.end hclosing), hopening.apart⟩

theorem lexes_separated (h : ∀ n ∈ names, IsIdentifier n)
    (hlead : ∀ text ts, Lexes text ts → Lexes (lead ++ text) (t :: ts))
    (hapart : ∀ rest, Apart (lead.toList ++ rest)) (hmark : Punctuates mark [.mark separator]) :
    Lexes (separatedText lead mark names) (separatedTokens t separator names) ∧
      Apart (separatedText lead mark names).toList := by
  cases names with
  | nil => exact ⟨lexes_empty, rfl⟩
  | cons first others =>
    obtain ⟨hfirst, hothers⟩ := List.forall_mem_cons.1 h
    have hbegins (n : String) (_ : n ∈ others) : Apart (mark ++ n).toList := by
      rw [String.toList_append]
      exact hmark.apart
    obtain ⟨hmore, hjoined⟩ :=
      lexes_join (fun n hn => hmark.lead (lexes_name (hothers n hn))) hbegins
    rw [separatedText, String.append_assoc, String.toList_append]
    exact ⟨hlead _ _ ((lexes_name hfirst).append hmore hjoined), hapart _⟩

/-! ## Types and definitions -/

theorem lexes_spelling {type : TypeRef} (h : IsIdentifier type.base) :
    Lexes type.spelling type.tokens := by
  have hopening : Punctuates "[" [.mark '['] := by decide
  have hclosing : Punctuates "]" [.mark ']'] := by decide
  have hmark : Punctuates "!" [.mark '!'] := by decide
  induction type with
  | named n => exact lexes_name h
  | list item ih =>
    rw [TypeRef.spelling, String.append_assoc]
    exact hopening.lead ((ih h).end hclosing)
  | nonNull inner ih => exact (ih h).end hmark

theorem punctuates_colon : Punctuates ": " [.mark ':'] := by decide

theorem lexes_inputValue {v : InputValue} (h : ∀ w ∈ v.words, IsIdentifier w) :
    Lexes v.text v.tokens := by
  obtain ⟨hname, htype⟩ := List.forall_mem_cons.1 h
  exact (lexes_name hname).between punctuates_colon
    (lexes_spelling (List.forall_mem_singleton.1 htype))

theorem lexes_arguments {vs : List InputValue} (h : ∀ v ∈ vs, ∀ w ∈ v.words, IsIdentifier w) :
    Lexes (enclosedText "(" "\n    " "\n  )" InputValue.text vs)
        (enclosedTokens '(' ')' InputValue.tokens vs) ∧
      Apart (enclosedText "(" "\n    " "\n  )" InputValue.text vs).toList :=
  lexes_enclosed (fun v hv => lexes_inputValue (h v hv)) (by decide) (by decide) (by decide)

theorem lexes_field {f : FieldDef} (h : ∀ w ∈ f.words, IsIdentifier w) : Lexes f.text f.tokens := by
  obtain ⟨hname, h⟩ := List.forall_mem_cons.1 h
  obtain ⟨htype, harguments⟩ := List.forall_mem_cons.1 h
  obtain ⟨hlisted, hapart⟩ := lexes_arguments (List.forall_mem_flatMap.1 harguments)
  have hall := ((lexes_name hname).append hlisted hapart).between punctuates_colon
    (lexes_spelling htype)
  simpa [FieldDef.text, FieldDef.tokens] using hall

theorem lexes_block (h : ∀ x ∈ xs, Lexes (text x) (tokens x)) :
    Lexes (enclosedText " \x7b" "\n  " "\n\x7d" text xs)
        (enclosedTokens '\x7b' '\x7d' tokens xs) ∧
      Apart (enclosedText " \x7b" "\n  " "\n\x7d" text xs).toList :=
  lexes_enclosed h (by decide) (by decide) (by decide)

theorem lexes_implements {other : String} {ts : List Token} (h : Lexes other ts) :
    Lexes (" implements " ++ other) (.name "implements" :: ts) := by
  have hblank : Punctuates " " [] := by decide
  have hword : IsIdentifier "implements" := by decide
  exact hblank.lead ((lexes_name hword).between hblank h)

theorem lexes_body {d : TypeDef} (h : ∀ w ∈ d.words, IsIdentifier w) :
    Lexes d.bodyText d.bodyTokens ∧ Apart d.bodyText.toList := by
  have hobject (d : ObjectDef) (hinterfaces : ∀ n ∈ d.interfaces, IsIdentifier n)
      (hfields : ∀ f ∈ d.fields, ∀ w ∈ f.words, IsIdentifier w) :
      Lexes (TypeDef.object d).bodyText (TypeDef.object d).bodyTokens ∧
        Apart (TypeDef.object d).bodyText.toList := by
    obtain ⟨hnames, hstart⟩ := lexes_separated hinterfaces (fun _ _ => lexes_implements)
      (fun _ => rfl) (show Punctuates " & " [.mark '&'] from by decide)
    obtain ⟨hblock, hapart⟩ := lexes_block fun f hf => lexes_field (hfields f hf)
    rw [TypeDef.bodyText, String.toList_append]
    exact ⟨hnames.append hblock hapart, apart_append hstart hapart⟩
  cases d with
  | scalar n => exact ⟨lexes_empty, rfl⟩
  | object d | interface d =>
    obtain ⟨hinterfaces, hfields⟩ := List.forall_mem_append.1 (List.forall_mem_cons.1 h).2
    exact hobject d hinterfaces (List.forall_mem_flatMap.1 hfields)
  | union d =>
    have hlead : Punctuates " = " [.mark '='] := by decide
    exact lexes_separated (List.forall_mem_cons.1 h).2 (fun _ _ => hlead.lead) (fun _ => rfl)
      (by decide)
  | enum d => exact lexes_block fun n hn => lexes_name ((List.forall_mem_cons.1 h).2 n hn)
  | input d =>
    exact lexes_block fun v hv =>
      lexes_inputValue (List.forall_mem_flatMap.1 (List.forall_mem_cons.1 h).2 v hv)

theorem isIdentifier_keyword (kind : TypeKind) : IsIdentifier kind.keyword := by
  cases kind <;> decide

theorem lexes_definition {d : TypeDef} (h : ∀ w ∈ d.words, IsIdentifier w) :
    Lexes d.text d.tokens := by
  have hblank : Punctuates " " [] := by decide
  obtain ⟨hbody, hapart⟩ := lexes_body h
  have hname := lexes_name (h _ TypeDef.name_mem_words)
  exact ((lexes_name (isIdentifier_keyword d.kind)).between hblank hname).append hbody hapart

end

/-- The text of a document is scanned to the tokens of its definitions. -/
theorem scanned_document {types : List TypeDef} (h : ∀ d ∈ types, ∀ w ∈ d.words, IsIdentifier w) :
    Scanned (types.flatMap TypeDef.tokens) (fun _ s => ∃ p, s = .finish p) bracketLimit
      (Stream.ofText (documentText types)) := by
  have hline : Punctuates "\n" [] := by decide
  have hapart (d : TypeDef) (_ : d ∈ types) : Apart ("\n" ++ d.text).toList := by
    rw [String.toList_append]
    exact hline.apart
  have hlexes := (lexes_join (fun d hd => hline.lead (lexes_definition (h d hd))) hapart).1
  have hscanned := hlexes [] (fun _ s => ∃ p, s = .finish p) rfl
    (fun room p => ⟨p, by rw [scan]⟩) bracketLimit .start
  rwa [List.append_nil] at hscanned

end Sdl

end TypedQuery

