-- SUMMARY: The rows that a descriptor of a field is made of, and how the field is found in them.
import TypedQuery.Proofs.Artifact.Names
import TypedQuery.Proofs.Emit.Separators
import TypedQuery.Proofs.Schema.Words

/-!
# Rows of descriptors

Apart from blank characters and braces, what the runtime is told about a field is a list of rows with commas
between them, and a row is a list of words with colons between them. No word of a field has such a character
in it, so the rows are found again by splitting, and the field is looked up in them
(`Descriptor.decode_eq`).
-/
namespace TypedQuery.Descriptor

/-! ## Reading -/

/-- Blank characters and braces say nothing in a descriptor. -/
def isFiller (c : Char) : Bool := Text.isBlank c || c = '\x7b' || c = '\x7d'

/-- What a text says. -/
def gist (text : List Char) : List Char := text.filter (!isFiller ·)

/-- The rows of a text, and the words of each. -/
def rowsOf (text : List Char) : List (List (List Char)) :=
  ((gist text).splitOn ',').map (·.splitOn ':')

/-- A word in quotes. -/
def quoted (quote : Char) (word : List Char) : List Char := quote :: (word ++ [quote])

/-- The word that stands in quotes. -/
def unquote (quote : Char) : List Char → Option String
  | first :: rest => if first = quote then some (String.ofList rest.dropLast) else none
  | [] => none

/-- What a row says about a key. -/
def valueOf? (key : String) : List (List Char) → Option String
  | [word, value] => if word = key.toList then unquote '"' value else none
  | _ => none

/-- The argument of a row: the last two words, of which the type stands in single quotes. -/
def argument? (row : List (List Char)) : Option (String × String) :=
  match row.reverse with
  | type :: name :: _ => (unquote '\'' type).map (String.ofList name, ·)
  | _ => none

/-- The category of a word. -/
def category? (word : String) : Option FieldCategory :=
  [FieldCategory.id, .scalar, .reference, .list, .connection].find? (·.word = word)

/-- The row that says that a value can be missing. -/
def flagRow : List (List Char) := ["undefinable".toList, "true".toList]

/-- The field that rows describe. -/
def read : List (List (List Char)) → SelectableField
  | [[bare]] => { name := (unquote '"' bare).getD "" }
  | rows => {
      name := (rows.findSome? (valueOf? "name")).getD ""
      category := ((rows.findSome? (valueOf? "category")).bind category?).getD .scalar
      arguments := rows.filterMap argument?
      target := rows.findSome? (valueOf? "targetTypeName")
      connection := rows.findSome? (valueOf? "connectionTypeName")
      edge := rows.findSome? (valueOf? "edgeTypeName")
      undefinable := flagRow ∈ rows }

/-- The field that a text describes. -/
def decode (text : String) : SelectableField := read (rowsOf text.toList)

/-! ## Rows -/

/-- The row of a key. -/
def entryRow (key value : String) : List (List Char) := [key.toList, quoted '"' value.toList]

/-- The words of an argument. -/
def argumentWords (argument : String × String) : List (List Char) :=
  [argument.1.toList, quoted '\'' argument.2.toList]

/-- The rows of arguments; the key stands in the first one. -/
def argumentRows : List (String × String) → List (List (List Char))
  | [] => []
  | first :: rest => ("argGraphQLTypeMap".toList :: argumentWords first) :: rest.map argumentWords

/-- The rows of a field that is described in full. -/
def fullRows (f : SelectableField) : List (List (List Char)) :=
  entryRow "category" f.category.word :: entryRow "name" f.name :: (argumentRows f.arguments ++
    f.connection.toList.map (entryRow "connectionTypeName") ++
    f.edge.toList.map (entryRow "edgeTypeName") ++
    f.target.toList.map (entryRow "targetTypeName") ++
    if f.undefinable then [flagRow] else [])

/-- The rows of a field. -/
def rows (f : SelectableField) : List (List (List Char)) :=
  if f.isShorthand then [[quoted '"' f.name.toList]] else fullRows f

/-- The field that a descriptor stands for: where that is the name alone, a plain scalar. -/
def meant (f : SelectableField) : SelectableField := if f.isShorthand then { name := f.name } else f

theorem meant_eq_iff {f g : SelectableField} : meant f = meant g ↔
    f = g ∨ f.isShorthand = true ∧ g.isShorthand = true ∧ f.name = g.name := by
  have hplain (name : String) : ({ name } : SelectableField).isShorthand = true := rfl
  constructor
  · intro h
    by_cases hf : f.isShorthand = true <;> by_cases hg : g.isShorthand = true
    · rw [meant, meant, if_pos hf, if_pos hg] at h
      exact .inr ⟨hf, hg, (SelectableField.mk.inj h).1⟩
    · rw [meant, meant, if_pos hf, if_neg hg] at h
      exact absurd (h ▸ hplain f.name) hg
    · rw [meant, meant, if_neg hf, if_pos hg] at h
      exact absurd (h ▸ hplain g.name) hf
    · rw [meant, meant, if_neg hf, if_neg hg] at h
      exact .inl h
  · rintro (rfl | ⟨hf, hg, hname⟩)
    · rfl
    · rw [meant, meant, if_pos hf, if_pos hg, hname]

variable {quote : Char} {key other value : String} {word : List Char} {argument : String × String}
  {arguments : List (String × String)} {f g : SelectableField}

theorem unquote_quoted : unquote quote (quoted quote word) = some (String.ofList word) := by
  simp [unquote, quoted]

theorem unquote_quoted_of_ne {mark : Char} (h : mark ≠ quote) :
    unquote quote (quoted mark word) = none := by
  simp [unquote, quoted, h]

theorem valueOf?_entryRow :
    valueOf? key (entryRow other value) = if other = key then some value else none := by
  simp [valueOf?, entryRow, unquote_quoted, String.toList_inj]

theorem findSome?_entryRow {values : Option String} :
    (values.toList.map (entryRow other)).findSome? (valueOf? key) = if other = key then values else none := by
  cases values <;> simp [valueOf?_entryRow]

theorem valueOf?_argumentWords : valueOf? key (argumentWords argument) = none := by
  simp [valueOf?, argumentWords, unquote_quoted_of_ne]

theorem findSome?_argumentRows : (argumentRows arguments).findSome? (valueOf? key) = none := by
  rw [List.findSome?_eq_none_iff]
  cases arguments with
  | nil => simp [argumentRows]
  | cons first rest =>
    rw [argumentRows, List.forall_mem_cons, List.forall_mem_map]
    exact ⟨rfl, fun _ _ => valueOf?_argumentWords⟩

theorem argument?_entryRow : argument? (entryRow key value) = none := by
  simp [argument?, entryRow, unquote_quoted_of_ne]

theorem argument?_argumentWords : argument? (argumentWords argument) = some argument := by
  simp [argument?, argumentWords, unquote_quoted]

theorem argument?_cons_argumentWords :
    argument? (word :: argumentWords argument) = some argument := by
  simp [argument?, argumentWords, unquote_quoted]

theorem filterMap_argumentRows : (argumentRows arguments).filterMap argument? = arguments := by
  have hrest (rest : List (String × String)) : (rest.map argumentWords).filterMap argument? = rest := by
    induction rest with
    | nil => rfl
    | cons first rest ih =>
      rw [List.map_cons, List.filterMap_cons_some argument?_argumentWords, ih]
  cases arguments with
  | nil => rfl
  | cons first rest =>
    rw [argumentRows, List.filterMap_cons_some argument?_cons_argumentWords, hrest]

theorem category?_word {category : FieldCategory} : category? category.word = some category := by
  cases category <;> decide

theorem flagRow_ne_entryRow : flagRow ≠ entryRow key value := by
  intro h
  cases (List.cons.inj (List.cons.inj (List.cons.inj h).2).1).1

theorem flagRow_not_mem_argumentRows : flagRow ∉ argumentRows arguments := by
  cases arguments with
  | nil => exact List.not_mem_nil
  | cons first rest => simp [argumentRows, argumentWords, flagRow, quoted]

theorem findSome?_flagRow {flag : Bool} :
    (if flag then [flagRow] else []).findSome? (valueOf? key) = none := by
  cases flag with
  | true => simp [flagRow, valueOf?, unquote]
  | false => rfl

theorem filterMap_flagRow {flag : Bool} :
    (if flag then [flagRow] else []).filterMap argument? = [] := by
  cases flag <;> rfl

theorem filterMap_entryRow {values : Option String} :
    (values.toList.map (entryRow key)).filterMap argument? = [] := by
  cases values with
  | none => rfl
  | some value => exact List.filterMap_cons_none argument?_entryRow

/-- What the rows of a field say about a key. -/
theorem findSome?_fullRows : (fullRows f).findSome? (valueOf? key) =
    (if "category" = key then some f.category.word else none).or
      ((if "name" = key then some f.name else none).or
        ((if "connectionTypeName" = key then f.connection else none).or
          ((if "edgeTypeName" = key then f.edge else none).or
            (if "targetTypeName" = key then f.target else none)))) := by
  have hcons (first : List (List Char)) (rest : List (List (List Char))) :
      (first :: rest).findSome? (valueOf? key) = (valueOf? key first).or (rest.findSome? (valueOf? key)) := by
    rw [List.findSome?_cons]
    cases valueOf? key first <;> rfl
  simp only [fullRows, hcons, List.findSome?_append, valueOf?_entryRow, findSome?_entryRow,
    findSome?_argumentRows, findSome?_flagRow, Option.none_or, Option.or_none, Option.or_assoc]

theorem filterMap_fullRows : (fullRows f).filterMap argument? = f.arguments := by
  simp only [fullRows, List.filterMap_cons_none argument?_entryRow, List.filterMap_append,
    filterMap_argumentRows, filterMap_entryRow, filterMap_flagRow, List.append_nil]

theorem flagRow_mem_fullRows : flagRow ∈ fullRows f ↔ f.undefinable = true := by
  cases hflag : f.undefinable <;>
    simp [fullRows, hflag, flagRow_ne_entryRow, flagRow_ne_entryRow.symm, flagRow_not_mem_argumentRows]

/-- The rows of a field are read as what its descriptor stands for. -/
theorem read_rows : read (rows f) = meant f := by
  by_cases h : f.isShorthand = true
  · simp [rows, meant, h, read, unquote_quoted]
  · -- `read` treats a single row of one word apart, and the rows in full are more than one.
    have hread : read (fullRows f) = {
        name := ((fullRows f).findSome? (valueOf? "name")).getD ""
        category := (((fullRows f).findSome? (valueOf? "category")).bind category?).getD .scalar
        arguments := (fullRows f).filterMap argument?
        target := (fullRows f).findSome? (valueOf? "targetTypeName")
        connection := (fullRows f).findSome? (valueOf? "connectionTypeName")
        edge := (fullRows f).findSome? (valueOf? "edgeTypeName")
        undefinable := flagRow ∈ fullRows f } := rfl
    rw [rows, meant, if_neg h, if_neg h, hread]
    simp [findSome?_fullRows, filterMap_fullRows, flagRow_mem_fullRows, category?_word]

/-! ## Words -/

/-- Nothing in a word is lost, and nothing separates it. -/
def IsWord (word : List Char) : Prop := ∀ c ∈ word, isFiller c = false ∧ c ≠ ',' ∧ c ≠ ':'

instance : DecidablePred IsWord :=
  fun word => List.decidableBAll (fun c => isFiller c = false ∧ c ≠ ',' ∧ c ≠ ':') word

theorem gist_append {a b : List Char} : gist (a ++ b) = gist a ++ gist b := List.filter_append ..

theorem IsWord.gist_eq (h : IsWord word) : gist word = word :=
  List.filter_eq_self.2 fun c hc => by rw [(h c hc).1]; rfl

theorem IsWord.append {a b : List Char} (ha : IsWord a) (hb : IsWord b) : IsWord (a ++ b) :=
  fun c hc => (List.mem_append.1 hc).elim (ha c) (hb c)

theorem IsWord.quoted (h : IsWord word) (hquote : IsWord [quote]) : IsWord (quoted quote word) :=
  hquote.append (h.append hquote)

theorem isWord_of_isName {name : String} (h : Sdl.IsName name) : IsWord name.toList := by
  intro c hc
  have hchar := Sdl.isNameChar_iff.1 (h.2 c hc)
  have hne (d : Char) (hd : Sdl.isNameChar d = false) : c ≠ d := by
    rintro rfl
    rw [h.2 c hc] at hd
    cases hd
  refine ⟨?_, hne ',' (by decide), hne ':' (by decide)⟩
  -- The characters of names are given by ranges, and none of these holds a blank character.
  have hblank : Text.isBlank c = false := by
    simp only [Text.isBlank, Bool.or_eq_false_iff, Bool.and_eq_false_iff, decide_eq_false_iff_not,
      beq_eq_false_iff_ne]
    omega
  simp [isFiller, hblank, hne '\x7b' (by decide), hne '\x7d' (by decide)]

theorem isWord_spelling {type : TypeRef} (h : Sdl.IsName type.base) : IsWord type.spelling.toList := by
  induction type with
  | named name => exact isWord_of_isName h
  | list item ih =>
    rw [TypeRef.spelling, String.toList_append, String.toList_append]
    exact ((by decide : IsWord "[".toList).append (ih h)).append (by decide)
  | nonNull inner ih =>
    rw [TypeRef.spelling, String.toList_append]
    exact (ih h).append (by decide)

theorem intercalate_pair {α : Type} {separator : α} {a b : List α} :
    [separator].intercalate [a, b] = a ++ separator :: b := by
  rw [List.intercalate_cons_cons, List.intercalate_singleton, List.append_assoc]
  rfl

/-- A row of words. -/
def IsRow (row : List (List Char)) : Prop := row ≠ [] ∧ ∀ word ∈ row, IsWord word

theorem IsRow.splitOn_intercalate {row : List (List Char)} (h : IsRow row) :
    ([':'].intercalate row).splitOn ':' = row :=
  List.splitOn_intercalate ':' (fun word hword hmem => (h.2 word hword ':' hmem).2.2 rfl) h.1

theorem IsRow.not_mem_intercalate {row : List (List Char)} (h : IsRow row) :
    ',' ∉ [':'].intercalate row := by
  obtain ⟨hne, hwords⟩ := h
  cases row with
  | nil => exact absurd rfl hne
  | cons first rest =>
    obtain ⟨hfirst, hrest⟩ := List.forall_mem_cons.1 hwords
    rw [Draft.intercalate_cons, List.mem_append, List.mem_flatMap]
    -- Every word but the first has the colon in front of it.
    rintro (hcomma | ⟨word, hword, hcomma⟩)
    · exact (hfirst ',' hcomma).2.1 rfl
    · rcases List.mem_cons.1 hcomma with hcolon | hcomma
      · cases hcolon
      · exact (hrest word hword ',' hcomma).2.1 rfl

/-- The rows of a text are found again. -/
theorem rowsOf_eq {text : List Char} {rows : List (List (List Char))} (hne : rows ≠ [])
    (h : ∀ row ∈ rows, IsRow row)
    (htext : gist text = [','].intercalate (rows.map [':'].intercalate)) : rowsOf text = rows := by
  rw [rowsOf, htext, List.splitOn_intercalate ',' ?_ (by simpa using hne), List.map_map]
  · refine (List.map_congr_left fun row hrow => ?_).trans (List.map_id _)
    exact (h row hrow).splitOn_intercalate
  · rw [List.forall_mem_map]
    exact fun row hrow => (h row hrow).not_mem_intercalate

/-! ## The words of a field -/

theorem isWord_word (category : FieldCategory) : IsWord category.word.toList := by
  cases category <;> decide

/-- The arguments of a field whose words are names. -/
theorem isWord_argument (hf : f.Over Sdl.IsName) {argument : String × String}
    (h : argument ∈ f.arguments) :
    IsWord argument.1.toList ∧ IsWord argument.2.toList := by
  obtain ⟨hname, type, htype, hspelling⟩ := hf.arguments argument h
  exact ⟨isWord_of_isName hname, hspelling ▸ isWord_spelling htype⟩

theorem isRow_entryRow {key value : String} (hkey : IsWord key.toList) (hvalue : IsWord value.toList) :
    IsRow (entryRow key value) := by
  refine ⟨List.cons_ne_nil _ _, ?_⟩
  rw [entryRow, List.forall_mem_cons, List.forall_mem_singleton]
  exact ⟨hkey, hvalue.quoted (by decide)⟩

theorem isRow_entries {key : String} {values : Option String} (hkey : IsWord key.toList)
    (h : ∀ n, values = some n → Sdl.IsName n) :
    ∀ row ∈ values.toList.map (entryRow key), IsRow row := by
  rw [List.forall_mem_map]
  intro n hn
  exact isRow_entryRow hkey (isWord_of_isName (h n (Option.mem_toList.1 hn)))

theorem isRow_argumentRows (hf : f.Over Sdl.IsName) : ∀ row ∈ argumentRows f.arguments, IsRow row := by
  have hwords : ∀ argument ∈ f.arguments, ∀ word ∈ argumentWords argument, IsWord word := by
    intro argument hargument
    obtain ⟨hname, htype⟩ := isWord_argument hf hargument
    rw [argumentWords, List.forall_mem_cons, List.forall_mem_singleton]
    exact ⟨hname, htype.quoted (by decide)⟩
  cases harguments : f.arguments with
  | nil => exact nofun
  | cons first rest =>
    rw [harguments, List.forall_mem_cons] at hwords
    rw [argumentRows, List.forall_mem_cons, List.forall_mem_map]
    refine ⟨⟨List.cons_ne_nil _ _, ?_⟩, fun argument hargument => ?_⟩
    · exact List.forall_mem_cons.2 ⟨by decide, hwords.1⟩
    · exact ⟨List.cons_ne_nil _ _, hwords.2 argument hargument⟩

theorem isRow_rows (hf : f.Over Sdl.IsName) : ∀ row ∈ rows f, IsRow row := by
  have hname : IsWord f.name.toList := isWord_of_isName hf.name
  unfold rows
  split
  · rw [List.forall_mem_singleton]
    exact ⟨List.cons_ne_nil _ _, List.forall_mem_singleton.2 (hname.quoted (by decide))⟩
  · have hflag : ∀ row ∈ (if f.undefinable then [flagRow] else []), IsRow row := by
      split
      · refine List.forall_mem_singleton.2 ⟨List.cons_ne_nil _ _, ?_⟩
        rw [flagRow, List.forall_mem_cons, List.forall_mem_singleton]
        exact ⟨by decide, by decide⟩
      · exact nofun
    simp only [fullRows, List.forall_mem_cons, List.forall_mem_append]
    exact ⟨isRow_entryRow (by decide) (isWord_word _), isRow_entryRow (by decide) hname,
      ⟨⟨⟨isRow_argumentRows hf, isRow_entries (by decide) hf.connection⟩,
        isRow_entries (by decide) hf.edge⟩, isRow_entries (by decide) hf.target⟩, hflag⟩

theorem rows_ne_nil : rows f ≠ [] := by
  unfold rows
  split <;> exact List.cons_ne_nil _ _

/-- A text that says the rows of a field is read as what the descriptor stands for. -/
theorem decode_eq (hf : f.Over Sdl.IsName) {text : String}
    (h : gist text.toList = [','].intercalate ((rows f).map [':'].intercalate)) :
    decode text = meant f := by
  rw [decode, rowsOf_eq rows_ne_nil (isRow_rows hf) h, read_rows]

end TypedQuery.Descriptor
