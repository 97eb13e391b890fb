-- SUMMARY: The words of a schema that is read from a text are of letters, digits and underscores.
import TypedQuery.Proofs.Fallible
import TypedQuery.Schema.Basic

/-!
# Names in schema texts

Scanning finds no names but those of ASCII letters, digits and underscores. A reader takes names from the
stream of tokens, and leaves a part of the stream behind: `Reader.Keeps` says so of a reader and of what
it reads, and goes along `>>=`. So all words of a schema that is read from a text are such names, those
of its types (`Schema.isName_of_parse`) among them.
-/
namespace TypedQuery

/-! ## Words -/

def InputValue.words (v : InputValue) : List String := [v.name, v.type.base]

def FieldDef.words (f : FieldDef) : List String :=
  f.name :: f.type.base :: f.arguments.flatMap InputValue.words

/-- The names that a definition gives or mentions. -/
def TypeDef.words : TypeDef → List String
  | .object d | .interface d => d.name :: d.interfaces ++ d.fields.flatMap FieldDef.words
  | .union d => d.name :: d.members
  | .enum d => d.name :: d.values
  | .input d => d.name :: d.fields.flatMap InputValue.words
  | .scalar name => [name]

/-- The names that a schema gives or mentions. -/
def Schema.words (s : Schema) : List String := s.types.flatMap TypeDef.words

theorem TypeDef.name_mem_words {d : TypeDef} : d.name ∈ d.words := by
  cases d <;> simp [TypeDef.name, TypeDef.words]

/-- An extension brings its own words, and none else. -/
theorem TypeDef.words_of_merge? {d e merged : TypeDef} (h : d.merge? e = some merged) :
    merged.words ⊆ d.words ++ e.words := by
  intro w hw
  cases d <;> cases e <;> simp [merge?] at h <;> subst h <;>
    simp only [words, List.mem_append, List.mem_cons, List.flatMap_append, List.cons_append] at hw ⊢ <;>
    tauto

namespace Sdl

/-- The name consists of ASCII letters, digits and underscores, and is not empty. -/
def IsName (name : String) : Prop := name ≠ "" ∧ ∀ c ∈ name.toList, isNameChar c = true

instance {name : String} : Decidable (IsName name) :=
  have := List.decidableBAll (fun c => isNameChar c = true) name.toList
  inferInstanceAs (Decidable (_ ∧ _))

/-- All names in a stream are names indeed. -/
def Stream.Named : Stream → Prop
  | finish _ | fault _ => True
  | token t _ _ rest => (∀ name, t = .name name → IsName name) ∧ rest.Named

theorem isNameChar_of_isNameStart {c : Char} (h : isNameStart c = true) : isNameChar c = true := by
  simp only [isNameStart, isNameChar, Char.isAlphanum, Bool.or_eq_true] at h ⊢
  exact h.imp_left .inl

theorem Stream.named_cons {t : Token} {p : Position} {rest : Stream}
    (ht : ∀ name, t = .name name → IsName name) (hrest : rest.Named) :
    (Stream.cons t p rest).Named :=
  ⟨ht, hrest⟩

theorem named_scan {room : Nat} {p : Position} {cs : List Char} : (scan room p cs).Named := by
  fun_induction scan room p cs with
  -- Only one case of `scan` puts a name in front of the stream; the others put some other token
  -- there, go on behind a blank, or end.
  | case14 room p c rest _ _ _ _ _ _ _ _ _ hstart more ih =>
    refine Stream.named_cons (fun name hname => ?_) ih
    obtain rfl : String.ofList (c :: more) = name := Token.name.inj hname
    refine ⟨by simp, fun d hd => ?_⟩
    rw [String.toList_ofList] at hd
    rcases List.mem_cons.1 hd with rfl | hd
    · exact isNameChar_of_isNameStart hstart
    · exact List.all_eq_true.1 List.all_takeWhile d hd
  | case8 | case10 | case11 | case12 | case15 | case17 =>
    exact Stream.named_cons (fun _ h => nomatch h) (by assumption)
  | case2 | case3 | case4 | case5 | case6 => assumption
  | _ => trivial

/-! ## Readers -/

namespace Reader

variable {α β : Type} {r : Reader α} {f : α → Reader β} {P : α → Prop} {Q : β → Prop}

/-- From a stream whose names are names indeed, the reader reads something of a kind, and what it leaves
is such a stream. -/
def Keeps (r : Reader α) (P : α → Prop) : Prop :=
  ∀ s, s.Named → ∀ a rest, r s = .ok (a, rest) → P a ∧ rest.Named

namespace Keeps

theorem pure {a : α} (h : P a) : Keeps (Pure.pure a) P := by
  rintro s hs _ _ ⟨⟩
  exact ⟨h, hs⟩

theorem bind (hr : r.Keeps P) (hf : ∀ a, P a → (f a).Keeps Q) : (r >>= f).Keeps Q := by
  intro s hs b rest h
  obtain ⟨⟨a, after⟩, hread, hrest⟩ := bind_eq_ok_iff.1 h
  obtain ⟨ha, hafter⟩ := hr s hs a after hread
  exact hf a ha after hafter b rest hrest

/-- Whatever is read, another reader can go on. -/
theorem andThen {next : α → Reader β} (hr : r.Keeps P) (hnext : ∀ a, (next a).Keeps Q) :
    (r >>= next).Keeps Q :=
  hr.bind fun a _ => hnext a

theorem ite {c : Prop} [Decidable c] {other : Reader α} (hr : r.Keeps P) (hother : other.Keeps P) :
    (if c then r else other).Keeps P := by
  split
  · exact hr
  · exact hother

end Keeps

theorem keeps_peek : peek.Keeps fun _ => True := by
  intro s hs a rest h
  unfold peek at h
  split at h <;> cases h <;> exact ⟨trivial, hs⟩

theorem keeps_position : position.Keeps fun _ => True := by
  rintro s hs _ _ ⟨⟩
  exact ⟨trivial, hs⟩

theorem keeps_fail : (fail : Reader α).Keeps P := nofun

theorem keeps_throw {p : Position} : (throw p : Reader α).Keeps P := nofun

theorem keeps_require {condition : Bool} {p : Position} :
    (require condition p).Keeps fun _ => True := by
  intro s hs _ _ h
  unfold require at h
  split at h <;> cases h
  exact ⟨trivial, hs⟩

theorem keeps_expect {t : Token} : (expect t).Keeps fun _ => True := by
  intro s hs _ _ h
  unfold expect at h
  split at h
  · split at h <;> cases h
    exact ⟨trivial, hs.2⟩
  · cases h

theorem keeps_accept {t : Token} : (accept t).Keeps fun _ => True := by
  intro s hs _ _ h
  unfold accept at h
  split at h
  · split at h <;> cases h
    · exact ⟨trivial, hs.2⟩
    · exact ⟨trivial, hs⟩
  · cases h
    exact ⟨trivial, hs⟩

theorem keeps_name : name.Keeps IsName := by
  intro s hs _ _ h
  unfold name at h
  split at h <;> cases h
  exact ⟨hs.1 _ rfl, hs.2⟩

theorem keeps_many {starts : Token → Bool} (hr : r.Keeps P) :
    (many starts r).Keeps fun items => ∀ a ∈ items, P a := by
  intro s hs items rest h
  fun_induction many starts r s generalizing items rest with
  | case1 => cases h
  | case2 => cases h
  | case3 t p n tail _ first after hread hsize others last hmany ih =>
    cases h
    obtain ⟨hfirst, hafter⟩ := hr _ hs _ _ hread
    obtain ⟨hothers, hrest⟩ := ih hafter _ _ hmany
    exact ⟨List.forall_mem_cons.2 ⟨hfirst, hothers⟩, hrest⟩
  | case4 t p n tail _ first after hread =>
    cases h
    obtain ⟨hfirst, hafter⟩ := hr _ hs _ _ hread
    exact ⟨List.forall_mem_singleton.2 hfirst, hafter⟩
  | case5 => cases h; exact ⟨nofun, hs⟩
  | case6 => cases h; exact ⟨nofun, hs⟩

theorem keeps_many1 {starts : Token → Bool} (hr : r.Keeps P) :
    (many1 starts r).Keeps fun items => ∀ a ∈ items, P a :=
  hr.bind fun _ hfirst => (keeps_many hr).bind fun _ hothers =>
    .pure (List.forall_mem_cons.2 ⟨hfirst, hothers⟩)

theorem keeps_enclosed {opening closing : Char} {starts : Token → Bool} (hr : r.Keeps P) :
    (enclosed opening closing starts r).Keeps fun items => ∀ a ∈ items, P a :=
  keeps_accept.andThen fun _ => .ite
    ((keeps_many1 hr).bind fun _ h => keeps_expect.andThen fun _ => .pure h)
    (.pure nofun)

theorem keeps_separated {separator : Char} :
    (separated separator).Keeps fun names => ∀ n ∈ names, IsName n :=
  keeps_accept.andThen fun _ => keeps_name.bind fun _ hfirst =>
    (keeps_many (keeps_expect.andThen fun _ => keeps_name)).bind fun _ hothers =>
      .pure (List.forall_mem_cons.2 ⟨hfirst, hothers⟩)

/-! ## Types and values -/

/-- A mark behind a type changes neither its base nor what comes next. -/
theorem named_nonNullIfMarked {type marked : TypeRef} {s rest : Stream} (htype : IsName type.base)
    (hs : s.Named) (h : nonNullIfMarked type s = (marked, rest)) :
    IsName marked.base ∧ rest.Named := by
  unfold nonNullIfMarked at h
  split at h <;> cases h
  · exact ⟨htype, hs.2⟩
  · exact ⟨htype, hs⟩

theorem keeps_typeRef : typeRef.Keeps fun type => IsName type.base := by
  intro s hs type rest h
  fun_induction typeRef s generalizing type rest with
  | case1 text =>
    have hname : IsName (TypeRef.named text).base := hs.1 text rfl
    exact named_nonNullIfMarked hname hs.2 (Except.ok.inj h)
  | case2 => cases h
  | case3 _ _ inside item _ _ after hread ih =>
    obtain ⟨hitem, hafter⟩ := ih hs.2 _ _ hread
    have hlist : IsName (TypeRef.list item).base := hitem
    exact named_nonNullIfMarked hlist hafter.2 (Except.ok.inj h)
  | case4 => cases h
  | case5 => cases h

theorem keeps_finishValue {mentions needed : Bool} {opened : List Enclosure} :
    (finishValue mentions opened needed).Keeps fun _ => True := by
  intro s hs _ rest h
  refine ⟨trivial, ?_⟩
  fun_induction finishValue mentions opened needed s with
  | case1 =>
    cases h
    exact hs
  | case4 _ _ _ _ _ _ _ ih => exact ih hs.2.2 h
  | case2 | case3 | case7 | case8 | case9 | case10 | case11 =>
    rename_i ih
    exact ih hs.2 h
  | case12 =>
    rename_i ih
    exact ih hs.2.2 h
  | _ => cases h

/-! ## Parts of definitions -/

theorem keeps_description : description.Keeps fun _ => True :=
  keeps_accept.andThen fun _ => .pure trivial

theorem keeps_directive : directive.Keeps fun _ => True :=
  keeps_expect.andThen fun _ => keeps_name.andThen fun _ =>
    (keeps_enclosed (keeps_name.andThen fun _ => keeps_expect.andThen fun _ =>
      keeps_finishValue)).andThen fun _ => .pure trivial

theorem keeps_directives : directives.Keeps fun _ => True :=
  (keeps_many keeps_directive).andThen fun _ => .pure trivial

theorem keeps_inputValue : inputValue.Keeps fun v => ∀ w ∈ v.words, IsName w := by
  refine keeps_description.andThen fun _ => keeps_name.bind fun _ hname =>
    keeps_expect.andThen fun _ => keeps_typeRef.bind fun _ htype => keeps_accept.andThen fun _ => ?_
  have hwords : ∀ w ∈ InputValue.words ⟨_, _⟩, IsName w :=
    List.forall_mem_cons.2 ⟨hname, List.forall_mem_singleton.2 htype⟩
  exact .ite
    (keeps_finishValue.andThen fun _ => keeps_directives.andThen fun _ => .pure hwords)
    (keeps_directives.andThen fun _ => .pure hwords)

theorem keeps_arguments : arguments.Keeps fun vs => ∀ v ∈ vs, ∀ w ∈ v.words, IsName w :=
  keeps_enclosed keeps_inputValue

theorem keeps_field : field.Keeps fun f => ∀ w ∈ f.words, IsName w :=
  keeps_description.andThen fun _ => keeps_name.bind fun _ hname =>
    keeps_arguments.bind fun _ harguments => keeps_expect.andThen fun _ =>
      keeps_typeRef.bind fun _ htype => keeps_directives.andThen fun _ =>
        .pure (List.forall_mem_cons.2 ⟨hname, List.forall_mem_cons.2 ⟨htype,
          List.forall_mem_flatMap.2 harguments⟩⟩)

theorem keeps_fields : fields.Keeps fun fs => ∀ f ∈ fs, ∀ w ∈ f.words, IsName w :=
  keeps_enclosed keeps_field

theorem keeps_inputFields : inputFields.Keeps fun vs => ∀ v ∈ vs, ∀ w ∈ v.words, IsName w :=
  keeps_enclosed keeps_inputValue

theorem keeps_enumValues : enumValues.Keeps fun values => ∀ n ∈ values, IsName n :=
  keeps_enclosed (keeps_description.andThen fun _ => keeps_name.bind fun _ h =>
    keeps_directives.andThen fun _ => .pure h)

theorem keeps_interfaces : interfaces.Keeps fun names => ∀ n ∈ names, IsName n :=
  keeps_accept.andThen fun _ => .ite keeps_separated (.pure nofun)

theorem keeps_members : members.Keeps fun names => ∀ n ∈ names, IsName n :=
  keeps_accept.andThen fun _ => .ite keeps_separated (.pure nofun)

/-! ## Definitions -/

theorem keeps_typeDef {extending : Bool} :
    (typeDef extending).Keeps fun d => ∀ w ∈ d.words, IsName w := by
  have hfields {ifaces : List String} {fs : List FieldDef} (hifaces : ∀ n ∈ ifaces, IsName n)
      (hfs : ∀ f ∈ fs, ∀ w ∈ f.words, IsName w) :
      ∀ w ∈ ifaces ++ fs.flatMap FieldDef.words, IsName w :=
    List.forall_mem_append.2 ⟨hifaces, List.forall_mem_flatMap.2 hfs⟩
  refine keeps_position.andThen fun start => keeps_name.andThen fun keyword => ?_
  split
  · exact keeps_name.bind fun _ h => keeps_directives.andThen fun _ =>
      keeps_require.andThen fun _ => .pure (List.forall_mem_singleton.2 h)
  · exact keeps_name.bind fun _ h => keeps_interfaces.bind fun _ hifaces =>
      keeps_directives.andThen fun _ => keeps_fields.bind fun _ hfs => keeps_require.andThen fun _ =>
        .pure (List.forall_mem_cons.2 ⟨h, hfields hifaces hfs⟩)
  · exact keeps_name.bind fun _ h => keeps_interfaces.bind fun _ hifaces =>
      keeps_directives.andThen fun _ => keeps_fields.bind fun _ hfs => keeps_require.andThen fun _ =>
        .pure (List.forall_mem_cons.2 ⟨h, hfields hifaces hfs⟩)
  · exact keeps_name.bind fun _ h => keeps_directives.andThen fun _ =>
      keeps_members.bind fun _ hmembers => keeps_require.andThen fun _ =>
        .pure (List.forall_mem_cons.2 ⟨h, hmembers⟩)
  · exact keeps_name.bind fun _ h => keeps_directives.andThen fun _ =>
      keeps_enumValues.bind fun _ hvalues => keeps_require.andThen fun _ =>
        .pure (List.forall_mem_cons.2 ⟨h, hvalues⟩)
  · exact keeps_name.bind fun _ h => keeps_directives.andThen fun _ =>
      keeps_inputFields.bind fun _ hvs => keeps_require.andThen fun _ =>
        .pure (List.forall_mem_cons.2 ⟨h, List.forall_mem_flatMap.2 hvs⟩)
  · exact keeps_throw

theorem keeps_schemaDef : schemaDef.Keeps fun _ => True := by
  refine keeps_position.andThen fun start => keeps_expect.andThen fun _ =>
    keeps_directives.andThen fun _ => keeps_expect.andThen fun _ =>
      (keeps_many (P := fun _ => True) (keeps_name.andThen fun _ => keeps_expect.andThen fun _ =>
        keeps_name.andThen fun _ => .pure trivial)).andThen fun entries =>
          keeps_expect.andThen fun _ => ?_
  split
  · exact .pure trivial
  · exact keeps_throw

theorem keeps_location : location.Keeps fun _ => True := by
  refine keeps_peek.andThen fun next => ?_
  split
  · exact .ite keeps_expect keeps_fail
  · exact keeps_fail

theorem keeps_directiveDef : directiveDef.Keeps fun _ => True :=
  keeps_expect.andThen fun _ => keeps_expect.andThen fun _ => keeps_name.andThen fun _ =>
    keeps_arguments.andThen fun _ => keeps_accept.andThen fun _ => keeps_expect.andThen fun _ =>
      keeps_peek.andThen fun _ => .ite
        (keeps_accept.andThen fun _ => keeps_location.andThen fun _ =>
          (keeps_many (keeps_expect.andThen fun _ => keeps_location)).andThen fun _ => .pure trivial)
        (.pure trivial)

/-- The definition or extension of a type consists of names. -/
theorem keeps_definition : definition.Keeps fun found =>
    ∀ d, found = .type d ∨ found = .extension d → ∀ w ∈ d.words, IsName w := by
  refine keeps_peek.andThen fun next => ?_
  split
  · exact keeps_schemaDef.andThen fun _ => .pure (by simp)
  · exact keeps_expect.andThen fun _ => keeps_typeDef.bind fun _ h => .pure (by simpa using h)
  · refine keeps_description.andThen fun _ => keeps_peek.andThen fun next => ?_
    split
    · exact keeps_directiveDef.andThen fun _ => .pure (by simp)
    · exact keeps_typeDef.bind fun _ h => .pure (by simpa using h)

theorem isName_of_definitions {s : Stream} (hs : s.Named) {found : List Definition}
    (h : definitions s = .ok found) :
    ∀ d, .type d ∈ found ∨ .extension d ∈ found → ∀ w ∈ d.words, IsName w := by
  fun_induction definitions s generalizing found with
  | case1 => cases h
  | case2 s first p hread =>
    cases h
    intro d hd
    exact (keeps_definition s hs _ _ hread).1 d
      (hd.imp (List.mem_singleton.1 · |>.symm) (List.mem_singleton.1 · |>.symm))
  | case3 => cases h
  | case4 s first rest _ hread _ others hothers ih =>
    cases h
    obtain ⟨hfirst, hrest⟩ := keeps_definition s hs _ _ hread
    intro d hd
    simp only [List.mem_cons, or_or_or_comm, eq_comm (b := first)] at hd
    exact hd.elim (hfirst d) (ih hrest hothers d)
  | case5 => cases h

end Reader

end Sdl

/-! ## Schemas -/

namespace TypeDef

open Sdl

/-- The words of the types are names. -/
def AllNamed (types : List TypeDef) : Prop := ∀ d ∈ types, ∀ w ∈ d.words, IsName w

variable {types extended extensions : List TypeDef} {d e : TypeDef}

theorem AllNamed.define (h : AllNamed types) (hd : ∀ w ∈ d.words, IsName w) :
    AllNamed (define types d) := by
  induction types with
  | nil => exact List.forall_mem_singleton.2 hd
  | cons first rest ih =>
    obtain ⟨hfirst, hrest⟩ := List.forall_mem_cons.1 h
    rw [TypeDef.define]
    split
    · exact List.forall_mem_cons.2 ⟨hd, hrest⟩
    · exact List.forall_mem_cons.2 ⟨hfirst, ih hrest⟩

theorem AllNamed.provideScalar {scalar : String} (h : AllNamed types) (hscalar : IsName scalar) :
    AllNamed (provideScalar types scalar) := by
  unfold TypeDef.provideScalar
  split
  · exact h
  · exact List.forall_mem_append.2
      ⟨h, List.forall_mem_singleton.2 (List.forall_mem_singleton.2 hscalar)⟩

theorem AllNamed.extend (h : AllNamed types) (he : ∀ w ∈ e.words, IsName w)
    (hextend : extend types e = .ok extended) : AllNamed extended := by
  induction types generalizing extended with
  | nil => cases hextend
  | cons first rest ih =>
    obtain ⟨hfirst, hrest⟩ := List.forall_mem_cons.1 h
    rw [TypeDef.extend] at hextend
    split at hextend
    · split at hextend
      · next merged hmerge =>
        cases hextend
        refine List.forall_mem_cons.2 ⟨fun w hw => ?_, hrest⟩
        exact (List.mem_append.1 (words_of_merge? hmerge hw)).elim (hfirst w) (he w)
      · cases hextend
    · obtain ⟨tail, htail, rfl⟩ := map_eq_ok_iff.1 hextend
      exact List.forall_mem_cons.2 ⟨hfirst, ih hrest htail⟩

theorem AllNamed.extendAll (h : AllNamed types) (hextensions : AllNamed extensions)
    (hextend : extendAll types extensions = .ok extended) : AllNamed extended := by
  induction extensions generalizing types with
  | nil =>
    cases hextend
    exact h
  | cons e rest ih =>
    obtain ⟨he, hrest⟩ := List.forall_mem_cons.1 hextensions
    rw [TypeDef.extendAll] at hextend
    split at hextend
    · cases hextend
    · next hfirst => exact ih (h.extend he hfirst) hrest hextend

end TypeDef

namespace Schema

open Sdl

/-- All words of the schema are names. -/
def Named (s : Schema) : Prop := ∀ w ∈ s.words, IsName w

/-- If the declarations of a document consist of names, so do all types that it defines. -/
theorem allNamed_definedTypes {doc : Document} (h : TypeDef.AllNamed doc.declarations) :
    TypeDef.AllNamed (definedTypes doc) := by
  have hdefine (declared types : List TypeDef) (hdeclared : TypeDef.AllNamed declared)
      (htypes : TypeDef.AllNamed types) : TypeDef.AllNamed (declared.foldl TypeDef.define types) := by
    induction declared generalizing types with
    | nil => exact htypes
    | cons d rest ih =>
      obtain ⟨hd, hrest⟩ := List.forall_mem_cons.1 hdeclared
      exact ih _ hrest (htypes.define hd)
  have hprovide (scalars : List String) (types : List TypeDef) (hscalars : ∀ n ∈ scalars, IsName n)
      (htypes : TypeDef.AllNamed types) :
      TypeDef.AllNamed (scalars.foldl TypeDef.provideScalar types) := by
    induction scalars generalizing types with
    | nil => exact htypes
    | cons scalar rest ih =>
      obtain ⟨hscalar, hrest⟩ := List.forall_mem_cons.1 hscalars
      exact ih _ hrest (htypes.provideScalar hscalar)
  have hbuiltin : ∀ n ∈ builtinScalars, IsName n := by decide
  exact hprovide _ _ hbuiltin (hdefine _ _ h nofun)

/-- All words of a schema that is read from a text are names. -/
theorem named_of_parse {text : String} {s : Schema} (h : Schema.parse text = .ok s) : s.Named := by
  unfold Schema.parse at h
  split at h
  · cases h
  · next doc hparse =>
    obtain ⟨definitions, hread, rfl⟩ := map_eq_ok_iff.1 hparse
    have hread := Reader.isName_of_definitions named_scan hread
    -- Parsing has read all definitions with readers that keep names; what is left is to follow the
    -- words through declarations and extensions.
    have hdeclared : TypeDef.AllNamed (Document.mk definitions).declarations := by
      intro d hd
      obtain ⟨found, hfound, hsome⟩ := List.mem_filterMap.1 hd
      cases found with
      | type other =>
        cases hsome
        exact hread d (.inl hfound)
      | _ => cases hsome
    have hextensions : TypeDef.AllNamed (Document.mk definitions).extensions := by
      intro d hd
      obtain ⟨found, hfound, hsome⟩ := List.mem_filterMap.1 hd
      cases found with
      | extension other =>
        cases hsome
        exact hread d (.inr hfound)
      | _ => cases hsome
    unfold ofDocument at h
    split at h
    · cases h
    · next types hextend =>
      cases h
      exact List.forall_mem_flatMap.2
        ((allNamed_definedTypes hdeclared).extendAll hextensions hextend)

/-- The types of a schema that is read from a text have names of letters, digits and underscores. -/
theorem isName_of_parse {text : String} {s : Schema} (h : Schema.parse text = .ok s) :
    ∀ d ∈ s.types, IsName d.name := fun d hd =>
  named_of_parse h d.name (List.mem_flatMap.2 ⟨d, hd, TypeDef.name_mem_words⟩)

end Schema

end TypedQuery
