-- SUMMARY: Which command lines are carried out, and what is taken from them.
import Mathlib.Data.List.Induction
import Mathlib.Data.List.TakeWhile
import TypedQuery.CommandLine.Arguments
import TypedQuery.Proofs.Fallible
import TypedQuery.Proofs.Lists

/-!
# The grammar of command lines

A command line that is carried out is a list of entries, a flag with its value each. At the end of the line
a flag can lack its value; then the line is read as if that flag did not occur in it at all, unless it is
the one for headers. `parse_iff_grammar` says which entries ask for something, and for what.
-/
namespace TypedQuery.CommandLine

/-! ## Entries -/

/-- The flags that take a value. -/
inductive Flag where
  | url | schema | header | out | config
  deriving DecidableEq, Repr

def Flag.word : Flag → String
  | url => "--url"
  | schema => "--schema"
  | header => "--header"
  | out => "--out"
  | config => "--config"

/-- The words that ask for help. -/
def helpWords : List String := ["--help", "-h"]

/-- A flag with its value. -/
structure Entry where
  flag : Flag
  value : String
  deriving DecidableEq, Repr

/-- Entries as they stand on a command line. -/
def spell (entries : List Entry) : List String := entries.flatMap fun e => [e.flag.word, e.value]

/-- The values that a flag is given, in order. -/
def valuesOf (flag : Flag) (entries : List Entry) : List String :=
  (entries.filter (·.flag = flag)).map (·.value)

/-- The line is read as the entries. Where a flag at the end lacks its value, what was said with that flag
before is dropped. -/
inductive Reads : List String → List Entry → Prop where
  | complete (entries : List Entry) : Reads (spell entries) entries
  | cut (entries : List Entry) {flag : Flag} (h : flag ≠ .header) :
      Reads (spell entries ++ [flag.word]) (entries.filter (·.flag ≠ flag))

/-- A header is its name and its value with a colon between them. The first colon counts, and blanks at the
ends of the name and of the value do not. -/
def IsHeader (text : String) (header : String × String) : Prop :=
  ∃ name value, text = name ++ ":" ++ value ∧ ':' ∉ name.toList ∧
    header = (Text.trim name, Text.trim value)

/-- The entries ask for what the last of them say: a directory, maybe a file with settings, and a source.
All headers go with a service. -/
structure Asks (entries : List Entry) (a : Arguments) : Prop where
  out : (valuesOf .out entries).getLast? = some a.out
  settings : (valuesOf .config entries).getLast? = a.settings
  source : match a.source with
    | .file path => (valuesOf .schema entries).getLast? = some path ∧
        valuesOf .url entries = [] ∧ valuesOf .header entries = []
    | .service address headers => (valuesOf .url entries).getLast? = some address ∧
        valuesOf .schema entries = [] ∧ List.Forall₂ IsHeader (valuesOf .header entries) headers

/-- The entries name a directory and one kind of source, give headers to a service only, and all headers
have a colon. -/
structure Consistent (entries : List Entry) : Prop where
  out : .out ∈ entries.map (·.flag)
  source : .url ∈ entries.map (·.flag) ↔ .schema ∉ entries.map (·.flag)
  headers : .header ∈ entries.map (·.flag) → .schema ∉ entries.map (·.flag)
  colons : ∀ text ∈ valuesOf .header entries, ':' ∈ text.toList

variable {entries : List Entry} {e : Entry} {flag : Flag} {d : Draft} {a : Arguments}
  {text word : String} {line rest : List String}

theorem spell_cons : spell (e :: entries) = e.flag.word :: e.value :: spell entries := rfl

theorem valuesOf_append {others : List Entry} :
    valuesOf flag (entries ++ others) = valuesOf flag entries ++ valuesOf flag others := by
  simp [valuesOf]

theorem valuesOf_singleton : valuesOf flag [e] = if e.flag = flag then [e.value] else [] := by
  by_cases h : e.flag = flag <;> simp [valuesOf, h]

theorem valuesOf_eq_nil_iff : valuesOf flag entries = [] ↔ flag ∉ entries.map (·.flag) := by
  simp [valuesOf, List.filter_eq_nil_iff]

/-- What follows the entries at the beginning of a line: nothing, a flag that lacks its value, a word that
asks for help, or one that is not known. -/
inductive Behind : List String → Prop where
  | nothing : Behind []
  | cut (flag : Flag) : Behind [flag.word]
  | help {word : String} (h : word ∈ helpWords) (rest : List String) : Behind (word :: rest)
  | unknown {word : String} (hflag : ∀ flag : Flag, word ≠ flag.word) (hhelp : word ∉ helpWords)
      (rest : List String) : Behind (word :: rest)

/-- Every line begins with entries. -/
theorem exists_entries : (line : List String) → ∃ entries rest, line = spell entries ++ rest ∧ Behind rest
  | [] => ⟨[], [], rfl, .nothing⟩
  | [word] => by
    by_cases hflag : ∃ flag : Flag, word = flag.word
    · obtain ⟨flag, rfl⟩ := hflag
      exact ⟨[], _, rfl, .cut flag⟩
    · by_cases hhelp : word ∈ helpWords
      · exact ⟨[], _, rfl, .help hhelp []⟩
      · exact ⟨[], _, rfl, .unknown (not_exists.1 hflag) hhelp []⟩
  | word :: value :: rest => by
    by_cases hflag : ∃ flag : Flag, word = flag.word
    · obtain ⟨flag, rfl⟩ := hflag
      obtain ⟨entries, behind, rfl, hbehind⟩ := exists_entries rest
      exact ⟨⟨flag, value⟩ :: entries, behind, rfl, hbehind⟩
    · by_cases hhelp : word ∈ helpWords
      · exact ⟨[], _, rfl, .help hhelp _⟩
      · exact ⟨[], _, rfl, .unknown (not_exists.1 hflag) hhelp _⟩

/-! ## Headers -/

theorem header?_of_colon {name value : String} (h : ':' ∉ name.toList) :
    header? (name ++ ":" ++ value) = some (Text.trim name, Text.trim value) := by
  have hplain : ∀ c ∈ name.toList, decide (c ≠ ':') = true := by
    intro c hc
    exact decide_eq_true fun heq => h (heq ▸ hc)
  have htext : (name ++ ":" ++ value).toList = name.toList ++ ':' :: value.toList := by simp
  have htake : (name ++ ":" ++ value).toList.takeWhile (· ≠ ':') = name.toList := by
    rw [htext, List.takeWhile_append_of_pos hplain, List.takeWhile_cons_of_neg (by simp),
      List.append_nil]
  have hdrop : (name ++ ":" ++ value).toList.dropWhile (· ≠ ':') = ':' :: value.toList := by
    rw [htext, List.dropWhile_append_of_pos hplain, List.dropWhile_cons_of_neg (by simp)]
  unfold header?
  simp only [htake, hdrop, String.ofList_toList]

theorem exists_isHeader_iff : (∃ header, IsHeader text header) ↔ ':' ∈ text.toList := by
  constructor
  · rintro ⟨_, name, value, rfl, _⟩
    simp
  · intro h
    obtain ⟨name, value, htext, hname⟩ := List.eq_append_cons_of_mem h
    refine ⟨_, String.ofList name, String.ofList value, ?_, by simpa using hname, rfl⟩
    apply String.toList_injective
    simp [htext]

theorem header?_eq_some_iff {header : String × String} :
    header? text = some header ↔ IsHeader text header := by
  constructor
  · intro h
    have hcolon : ':' ∈ text.toList := by
      by_contra hnone
      have hdrop : text.toList.dropWhile (· ≠ ':') = [] := by
        rw [List.dropWhile_eq_nil_iff]
        intro c hc
        exact decide_eq_true fun heq => hnone (heq ▸ hc)
      unfold header? at h
      simp only [hdrop] at h
      cases h
    obtain ⟨_, name, value, rfl, hname, rfl⟩ := exists_isHeader_iff.2 hcolon
    rw [header?_of_colon hname] at h
    exact ⟨name, value, rfl, hname, (Option.some.inj h).symm⟩
  · rintro ⟨name, value, rfl, hname, rfl⟩
    exact header?_of_colon hname

/-- A text is a header in at most one way. -/
theorem IsHeader.unique {header other : String × String} (h : IsHeader text header)
    (hother : IsHeader text other) : header = other :=
  Option.some.inj ((header?_eq_some_iff.2 h).symm.trans (header?_eq_some_iff.2 hother))

/-! ## Reading -/

namespace Draft

/-- Take note of an entry. -/
def note (d : Draft) : Entry → Except Refusal Draft
  | ⟨.url, value⟩ => .ok { d with url := some value }
  | ⟨.schema, value⟩ => .ok { d with schema := some value }
  | ⟨.out, value⟩ => .ok { d with out := some value }
  | ⟨.config, value⟩ => .ok { d with settings := some value }
  | ⟨.header, value⟩ =>
    match header? value with
    | some h => .ok { d with headers := d.headers ++ [h] }
    | none => .error (.fault (.malformedHeader value))

/-- Drop what was said with a flag. -/
def drop (d : Draft) : Flag → Draft
  | .url => { d with url := none }
  | .schema => { d with schema := none }
  | .out => { d with out := none }
  | .config => { d with settings := none }
  | .header => { d with headers := [] }

end Draft

theorem scan_entry :
    scan d (e.flag.word :: e.value :: rest) = d.note e >>= fun noted => scan noted rest := by
  obtain ⟨flag, value⟩ := e
  cases flag with
  | header =>
    simp only [Flag.word, scan, Draft.note]
    cases header? value <;> rfl
  | url | schema | out | config =>
    simp only [Flag.word, scan]
    rfl

theorem scan_spell :
    scan d (spell entries ++ rest) = entries.foldlM Draft.note d >>= fun noted => scan noted rest := by
  induction entries generalizing d with
  | nil => rfl
  | cons e others ih =>
    rw [spell_cons, List.cons_append, List.cons_append, scan_entry, List.foldlM_cons, bind_assoc]
    simp only [ih]

theorem scan_cut (h : flag ≠ .header) : scan d [flag.word] = .ok (d.drop flag) := by
  cases flag with
  | header => exact absurd rfl h
  | url | schema | out | config =>
    simp only [Flag.word, scan]
    rfl

theorem scan_cut_header : scan d [Flag.header.word] = .error (.fault .headerWithoutValue) := by
  simp only [Flag.word, scan]

theorem scan_help (h : word ∈ helpWords) : scan d (word :: rest) = .error .help := by
  obtain rfl | rfl : word = "--help" ∨ word = "-h" := by simpa [helpWords] using h
  · simp only [scan]
  · simp only [scan]

theorem scan_unknown (hflag : ∀ flag : Flag, word ≠ flag.word) (hhelp : word ∉ helpWords) :
    scan d (word :: rest) = .error (.fault (.unknownArgument word)) := by
  have hwords : word ≠ "--help" ∧ word ≠ "-h" := by simpa [helpWords] using hhelp
  have hurl : word ≠ "--url" := hflag .url
  have hschema : word ≠ "--schema" := hflag .schema
  have hheader : word ≠ "--header" := hflag .header
  have hout : word ≠ "--out" := hflag .out
  have hconfig : word ≠ "--config" := hflag .config
  unfold scan
  split <;> simp_all

/-- What is noted of entries: the last value of each flag, and all headers. -/
structure Noted (entries : List Entry) (d : Draft) : Prop where
  url : d.url = (valuesOf .url entries).getLast?
  schema : d.schema = (valuesOf .schema entries).getLast?
  out : d.out = (valuesOf .out entries).getLast?
  settings : d.settings = (valuesOf .config entries).getLast?
  headers : List.Forall₂ IsHeader (valuesOf .header entries) d.headers

namespace Noted

/-- One more entry is noted on top of the others. -/
theorem snoc {noted : Draft} (h : Noted entries d) (hnote : d.note e = .ok noted) :
    Noted (entries ++ [e]) noted := by
  obtain ⟨hurl, hschema, hout, hsettings, hheaders⟩ := h
  obtain ⟨flag, value⟩ := e
  cases flag with
  | header =>
    unfold Draft.note at hnote
    dsimp only at hnote
    split at hnote
    · next header hheader =>
      cases hnote
      have hnew : List.Forall₂ IsHeader [value] [header] :=
        .cons (header?_eq_some_iff.1 hheader) .nil
      constructor <;> simp only [valuesOf_append, valuesOf_singleton, reduceCtorEq, if_false, if_true,
        List.append_nil, hurl, hschema, hout, hsettings]
      exact List.rel_append hheaders hnew
    · cases hnote
  | url | schema | out | config =>
    cases hnote
    constructor <;> simp [valuesOf_append, valuesOf_singleton, hurl, hschema, hout, hsettings, hheaders]

theorem of_foldlM (h : entries.foldlM Draft.note {} = .ok d) : Noted entries d := by
  induction entries using List.reverseRecOn generalizing d with
  | nil =>
    cases h
    exact ⟨rfl, rfl, rfl, rfl, .nil⟩
  | append_singleton others e ih =>
    rw [List.foldlM_append] at h
    obtain ⟨before, hbefore, hlast⟩ := bind_eq_ok_iff.1 h
    rw [List.foldlM_cons] at hlast
    obtain ⟨noted, hnoted, hsame⟩ := bind_eq_ok_iff.1 hlast
    cases hsame
    exact (ih hbefore).snoc hnoted

end Noted

theorem valuesOf_cons : valuesOf flag (e :: entries) =
    if e.flag = flag then e.value :: valuesOf flag entries else valuesOf flag entries := by
  by_cases h : e.flag = flag <;> simp [valuesOf, h]

/-- An entry can be noted unless it is a header without a colon. -/
theorem note_cases (d : Draft) (e : Entry) :
    ((∃ noted, d.note e = .ok noted) ∧ (e.flag = .header → ':' ∈ e.value.toList)) ∨
    e.flag = .header ∧ ':' ∉ e.value.toList ∧ d.note e = .error (.fault (.malformedHeader e.value)) := by
  obtain ⟨flag, value⟩ := e
  cases flag with
  | header =>
    unfold Draft.note
    dsimp only
    by_cases hcolon : ':' ∈ value.toList
    · obtain ⟨header, hheader⟩ := exists_isHeader_iff.2 hcolon
      rw [header?_eq_some_iff.2 hheader]
      exact .inl ⟨⟨_, rfl⟩, fun _ => hcolon⟩
    · have hnone : header? value = none := by
        rw [Option.eq_none_iff_forall_ne_some]
        exact fun header hsome => hcolon (exists_isHeader_iff.1 ⟨header, header?_eq_some_iff.1 hsome⟩)
      rw [hnone]
      exact .inr ⟨rfl, hcolon, rfl⟩
  | url | schema | out | config => exact .inl ⟨⟨_, rfl⟩, nofun⟩

/-- Entries can be noted unless one of them is a header without a colon. -/
theorem foldlM_note_cases (entries : List Entry) (d : Draft) :
    ((∃ noted, entries.foldlM Draft.note d = .ok noted) ∧
      ∀ text ∈ valuesOf .header entries, ':' ∈ text.toList) ∨
    ∃ text ∈ valuesOf .header entries, ':' ∉ text.toList ∧
      entries.foldlM Draft.note d = .error (.fault (.malformedHeader text)) := by
  induction entries generalizing d with
  | nil => exact .inl ⟨⟨d, rfl⟩, nofun⟩
  | cons e others ih =>
    rw [List.foldlM_cons, valuesOf_cons]
    rcases note_cases d e with ⟨⟨noted, hnoted⟩, hcolon⟩ | ⟨hheader, hcolon, hfault⟩
    · rw [hnoted]
      have hmem {text : String} (h : text ∈ valuesOf .header others) :
          text ∈ if e.flag = .header then e.value :: valuesOf .header others
            else valuesOf .header others := by
        split
        · exact List.mem_cons_of_mem _ h
        · exact h
      rcases ih noted with ⟨hall, hcolons⟩ | ⟨text, htext, hbad, hfault⟩
      · refine .inl ⟨hall, ?_⟩
        split
        · next hheader => exact List.forall_mem_cons.2 ⟨hcolon hheader, hcolons⟩
        · exact hcolons
      · exact .inr ⟨text, hmem htext, hbad, hfault⟩
    · rw [hfault, if_pos hheader]
      exact .inr ⟨e.value, List.mem_cons_self, hcolon, rfl⟩

theorem drop_note (h : flag ≠ .header) : (d.note e).map (·.drop flag) =
    if e.flag = flag then .ok (d.drop flag) else (d.drop flag).note e := by
  obtain ⟨given, value⟩ := e
  cases given with
  | header =>
    rw [if_neg (Ne.symm h)]
    unfold Draft.note
    dsimp only
    cases flag <;> cases header? value <;> simp [Except.map, Draft.drop] at h ⊢
  | url | schema | out | config => cases flag <;> rfl

/-- Dropping what was said with a flag comes to the same as leaving out its entries. -/
theorem drop_foldlM_note (h : flag ≠ .header) : (entries.foldlM Draft.note d).map (·.drop flag) =
    (entries.filter (·.flag ≠ flag)).foldlM Draft.note (d.drop flag) := by
  induction entries generalizing d with
  | nil => rfl
  | cons e others ih =>
    -- Dropping commutes with noting one entry, unless the entry is dropped itself.
    have hfirst := drop_note (d := d) (e := e) h
    rw [List.foldlM_cons, List.filter_cons]
    cases hnote : d.note e with
    | error failure =>
      rw [hnote] at hfirst
      by_cases hflag : e.flag = flag
      · rw [if_pos hflag] at hfirst
        cases hfirst
      · rw [if_neg hflag] at hfirst
        rw [if_pos (by simpa using hflag), List.foldlM_cons, ← hfirst]
        rfl
    | ok noted =>
      rw [hnote] at hfirst
      change (others.foldlM Draft.note noted).map _ = _
      rw [ih]
      by_cases hflag : e.flag = flag
      · rw [if_pos hflag] at hfirst
        have hdropped : noted.drop flag = d.drop flag := Except.ok.inj hfirst
        rw [if_neg (by simpa using hflag), hdropped]
      · rw [if_neg hflag] at hfirst
        rw [if_pos (by simpa using hflag), List.foldlM_cons, ← hfirst]
        rfl

/-! ## Whole lines -/

theorem finish_eq_ok_iff : d.finish = .ok a ↔ d.out = some a.out ∧ d.settings = a.settings ∧
    match a.source with
    | .file path => d.schema = some path ∧ d.url = none ∧ d.headers = []
    | .service address headers => d.url = some address ∧ d.schema = none ∧ d.headers = headers := by
  obtain ⟨url, schema, headers, directory, given⟩ := d
  obtain ⟨source, out, settings⟩ := a
  unfold Draft.finish
  dsimp only
  cases directory with
  | none => simp
  | some directory =>
    cases schema with
    | none =>
      cases url with
      | none => cases source <;> simp
      | some url =>
        cases source with
        | file path => simp
        | service address others =>
          simp
          tauto
    | some path =>
      cases url with
      | some url => cases source <;> simp
      | none =>
        cases headers with
        | cons header others => cases source <;> simp
        | nil =>
          cases source with
          | file other =>
            simp
            tauto
          | service address others => simp

/-- What is noted of entries can be carried out if and only if the entries ask for it. -/
theorem Noted.finish_eq_ok_iff (h : Noted entries d) : d.finish = .ok a ↔ Asks entries a := by
  have hheaders (headers : List (String × String)) :
      d.headers = headers ↔ List.Forall₂ IsHeader (valuesOf .header entries) headers := by
    constructor
    · rintro rfl
      exact h.headers
    · have hunique : Relator.RightUnique IsHeader := fun _ _ _ => IsHeader.unique
      exact fun hother => hunique.forall₂ h.headers hother
  have hnone : d.headers = [] ↔ valuesOf .header entries = [] := by
    rw [hheaders, List.forall₂_nil_right_iff]
  have hsource : (match a.source with
      | .file path => d.schema = some path ∧ d.url = none ∧ d.headers = []
      | .service address headers => d.url = some address ∧ d.schema = none ∧ d.headers = headers) ↔
      match a.source with
      | .file path => (valuesOf .schema entries).getLast? = some path ∧
          valuesOf .url entries = [] ∧ valuesOf .header entries = []
      | .service address headers => (valuesOf .url entries).getLast? = some address ∧
          valuesOf .schema entries = [] ∧ List.Forall₂ IsHeader (valuesOf .header entries) headers := by
    rw [h.url, h.schema]
    cases a.source with
    | file path => simp only [hnone, List.getLast?_eq_none_iff]
    | service address headers => simp only [hheaders, List.getLast?_eq_none_iff]
  rw [CommandLine.finish_eq_ok_iff, hsource, h.out, h.settings]
  exact ⟨fun ⟨hout, hsettings, hsource⟩ => ⟨hout, hsettings, hsource⟩,
    fun hasks => ⟨hasks.out, hasks.settings, hasks.source⟩⟩

theorem Asks.colons (h : Asks entries a) : ∀ text ∈ valuesOf .header entries, ':' ∈ text.toList := by
  intro text htext
  have hsource := h.source
  cases hcase : a.source with
  | file path =>
    rw [hcase] at hsource
    rw [hsource.2.2] at htext
    cases htext
  | service address headers =>
    rw [hcase] at hsource
    obtain ⟨header, _, hheader⟩ := exists_of_mem_left hsource.2.2 htext
    exact exists_isHeader_iff.1 ⟨header, hheader⟩

theorem parse_spell_append : Arguments.parse (spell entries ++ rest) =
    (entries.foldlM Draft.note {} >>= fun noted => scan noted rest) >>= Draft.finish := by
  unfold Arguments.parse
  rw [scan_spell]
  cases entries.foldlM Draft.note {} >>= fun noted => scan noted rest <;> rfl

theorem parse_spell : Arguments.parse (spell entries) =
    entries.foldlM Draft.note {} >>= Draft.finish := by
  have hempty : Arguments.parse (spell entries ++ []) = _ := parse_spell_append
  rw [List.append_nil] at hempty
  rw [hempty]
  cases entries.foldlM Draft.note {} <;> rfl

theorem parse_spell_eq_ok_iff : Arguments.parse (spell entries) = .ok a ↔ Asks entries a := by
  rw [parse_spell, bind_eq_ok_iff]
  constructor
  · rintro ⟨d, hd, hfinish⟩
    exact (Noted.of_foldlM hd).finish_eq_ok_iff.1 hfinish
  · intro h
    rcases foldlM_note_cases entries {} with ⟨⟨d, hd⟩, _⟩ | ⟨text, htext, hbad, _⟩
    · exact ⟨d, hd, (Noted.of_foldlM hd).finish_eq_ok_iff.2 h⟩
    · exact absurd (h.colons text htext) hbad

/-- A flag that lacks its value at the end of a line is taken as if it did not occur. -/
theorem parse_cut (h : flag ≠ .header) : Arguments.parse (spell entries ++ [flag.word]) =
    Arguments.parse (spell (entries.filter (·.flag ≠ flag))) := by
  have hdrop : ({} : Draft).drop flag = {} := by cases flag <;> rfl
  have hnoted : (entries.foldlM Draft.note {}).map (·.drop flag) = _ := drop_foldlM_note h
  rw [hdrop] at hnoted
  rw [parse_spell_append, parse_spell, ← hnoted]
  simp only [scan_cut h]
  cases entries.foldlM Draft.note {} <;> rfl

/-- If whatever was read before, the rest of a line is refused, then so is the line, unless there is a header
without a colon in front. -/
theorem parse_refused (entries : List Entry) {refusal : Refusal} (h : ∀ d, scan d rest = .error refusal) :
    ((∀ text ∈ valuesOf .header entries, ':' ∈ text.toList) ∧
      Arguments.parse (spell entries ++ rest) = .error refusal) ∨
    ∃ text, Arguments.parse (spell entries ++ rest) = .error (.fault (.malformedHeader text)) := by
  rw [parse_spell_append]
  rcases foldlM_note_cases entries {} with ⟨⟨d, hd⟩, hcolons⟩ | ⟨text, _, _, hfault⟩
  · refine .inl ⟨hcolons, ?_⟩
    rw [hd]
    change scan d rest >>= Draft.finish = _
    rw [h d]
    rfl
  · refine .inr ⟨text, ?_⟩
    rw [hfault]
    rfl

theorem asks_of_parse (h : Arguments.parse line = .ok a) :
    ∃ entries, Reads line entries ∧ Asks entries a := by
  obtain ⟨entries, rest, rfl, hrest⟩ := exists_entries line
  -- Whatever is behind the entries, if it is refused by itself, then so is the line.
  have hrefused {refusal : Refusal} (hscan : ∀ d, scan d rest = .error refusal) : False := by
    rcases parse_refused entries hscan with ⟨_, hparse⟩ | ⟨_, hparse⟩
    · cases h.symm.trans hparse
    · cases h.symm.trans hparse
  cases hrest with
  | nothing =>
    rw [List.append_nil] at h ⊢
    exact ⟨entries, .complete entries, parse_spell_eq_ok_iff.1 h⟩
  | cut flag =>
    by_cases hflag : flag = .header
    · subst hflag
      exact (hrefused fun _ => scan_cut_header).elim
    · rw [parse_cut hflag] at h
      exact ⟨_, .cut entries hflag, parse_spell_eq_ok_iff.1 h⟩
  | help hword behind => exact (hrefused fun _ => scan_help hword).elim
  | unknown hflag hhelp behind => exact (hrefused fun _ => scan_unknown hflag hhelp).elim

theorem parse_eq_ok_iff : Arguments.parse line = .ok a ↔ ∃ entries, Reads line entries ∧ Asks entries a := by
  refine ⟨asks_of_parse, ?_⟩
  rintro ⟨_, hreads, hasks⟩
  cases hreads with
  | complete => exact parse_spell_eq_ok_iff.2 hasks
  | cut entries hflag =>
    rw [parse_cut hflag]
    exact parse_spell_eq_ok_iff.2 hasks

/-- Entries alone do not ask for help. -/
theorem parse_spell_ne_help : Arguments.parse (spell entries) ≠ .error .help := by
  have hfinish (d : Draft) : d.finish ≠ .error .help := by
    unfold Draft.finish
    repeat' split
    all_goals rintro ⟨⟩
  rw [parse_spell]
  rcases foldlM_note_cases entries {} with ⟨⟨d, hd⟩, _⟩ | ⟨text, _, _, hfault⟩
  · rw [hd]
    exact hfinish d
  · rw [hfault]
    rintro ⟨⟩

theorem parse_eq_help_iff : Arguments.parse line = .error .help ↔ ∃ entries word rest, word ∈ helpWords ∧
    line = spell entries ++ word :: rest ∧ ∀ text ∈ valuesOf .header entries, ':' ∈ text.toList := by
  constructor
  · intro h
    obtain ⟨entries, rest, rfl, hrest⟩ := exists_entries line
    have hrefused {refusal : Refusal} (hscan : ∀ d, scan d rest = .error refusal) :
        refusal = .help ∧ ∀ text ∈ valuesOf .header entries, ':' ∈ text.toList := by
      rcases parse_refused entries hscan with ⟨hcolons, hparse⟩ | ⟨_, hparse⟩
      · cases h.symm.trans hparse
        exact ⟨rfl, hcolons⟩
      · cases h.symm.trans hparse
    cases hrest with
    | nothing =>
      rw [List.append_nil] at h
      exact absurd h parse_spell_ne_help
    | cut flag =>
      by_cases hflag : flag = .header
      · subst hflag
        cases (hrefused fun _ => scan_cut_header).1
      · rw [parse_cut hflag] at h
        exact absurd h parse_spell_ne_help
    | help hword behind => exact ⟨entries, _, behind, hword, rfl, (hrefused fun _ => scan_help hword).2⟩
    | unknown hflag hhelp behind => cases (hrefused fun _ => scan_unknown hflag hhelp).1
  · rintro ⟨entries, word, rest, hword, rfl, hcolons⟩
    rw [parse_spell_append]
    rcases foldlM_note_cases entries {} with ⟨⟨d, hd⟩, _⟩ | ⟨text, htext, hbad, _⟩
    · rw [hd]
      change scan d (word :: rest) >>= Draft.finish = _
      rw [scan_help hword]
      rfl
    · exact absurd (hcolons text htext) hbad

theorem mem_flags_iff : flag ∈ entries.map (·.flag) ↔
    ∃ value, (valuesOf flag entries).getLast? = some value := by
  rw [← Option.isSome_iff_exists, Option.isSome_iff_ne_none, Ne, List.getLast?_eq_none_iff,
    valuesOf_eq_nil_iff, not_not]

/-- Entries ask for something if and only if they are consistent. -/
theorem exists_asks_iff : (∃ a, Asks entries a) ↔ Consistent entries := by
  constructor
  · rintro ⟨⟨source, out, settings⟩, h⟩
    have hout : .out ∈ entries.map (·.flag) := mem_flags_iff.2 ⟨out, h.out⟩
    cases source with
    | file path =>
      obtain ⟨hpath, hurl, hheaders⟩ := h.source
      have hschema : .schema ∈ entries.map (·.flag) := mem_flags_iff.2 ⟨path, hpath⟩
      rw [valuesOf_eq_nil_iff] at hurl hheaders
      exact ⟨hout, iff_of_false hurl (not_not.2 hschema), fun h => absurd h hheaders,
        Asks.colons ⟨h.out, h.settings, h.source⟩⟩
    | service address headers =>
      obtain ⟨haddress, hschema, _⟩ := h.source
      have hurl : .url ∈ entries.map (·.flag) := mem_flags_iff.2 ⟨address, haddress⟩
      rw [valuesOf_eq_nil_iff] at hschema
      exact ⟨hout, iff_of_true hurl hschema, fun _ => hschema,
        Asks.colons ⟨h.out, h.settings, h.source⟩⟩
  · intro h
    obtain ⟨d, hd⟩ : ∃ d, entries.foldlM Draft.note {} = .ok d := by
      rcases foldlM_note_cases entries {} with ⟨hall, _⟩ | ⟨text, htext, hbad, _⟩
      · exact hall
      · exact absurd (h.colons text htext) hbad
    have hnoted := Noted.of_foldlM hd
    obtain ⟨out, hout⟩ := mem_flags_iff.1 h.out
    -- The source is the one kind that is named.
    by_cases hurl : .url ∈ entries.map (·.flag)
    · obtain ⟨address, haddress⟩ := mem_flags_iff.1 hurl
      refine ⟨⟨.service address d.headers, out, _⟩, hout, rfl, haddress, ?_, hnoted.headers⟩
      exact valuesOf_eq_nil_iff.2 (h.source.1 hurl)
    · have hschema : .schema ∈ entries.map (·.flag) := not_not.1 (mt h.source.2 hurl)
      obtain ⟨path, hpath⟩ := mem_flags_iff.1 hschema
      refine ⟨⟨.file path, out, _⟩, hout, rfl, hpath, valuesOf_eq_nil_iff.2 hurl, ?_⟩
      exact valuesOf_eq_nil_iff.2 fun hheader => h.headers hheader hschema

/-- A command line is carried out if and only if it is read as entries that ask for something, and then that
is what is carried out: for each flag its last value, and all headers in order. Help is given if and only if
a word that asks for it follows entries whose headers all have a colon. Entries ask for something if and only
if they are consistent. A flag other than the one for headers that lacks its value at the end of the line
is no fault: the line counts as if the flag did not occur. -/
theorem parse_iff_grammar (line : List String) (entries : List Entry) :
    (∀ a, Arguments.parse line = .ok a ↔ ∃ entries, Reads line entries ∧ Asks entries a) ∧
    (Arguments.parse line = .error .help ↔ ∃ entries word rest, word ∈ helpWords ∧
      line = spell entries ++ word :: rest ∧
      ∀ text ∈ valuesOf .header entries, ':' ∈ text.toList) ∧
    ((∃ a, Asks entries a) ↔ Consistent entries) ∧
    (∀ flag, flag ≠ .header → Arguments.parse (spell entries ++ [flag.word]) =
      Arguments.parse (spell (entries.filter (·.flag ≠ flag)))) ∧
    ∃ fault, Arguments.parse (spell entries ++ [Flag.header.word]) = .error (.fault fault) := by
  refine ⟨fun a => parse_eq_ok_iff, parse_eq_help_iff, exists_asks_iff, fun flag => parse_cut, ?_⟩
  rcases parse_refused entries fun _ => scan_cut_header with ⟨_, hparse⟩ | ⟨text, hparse⟩
  · exact ⟨_, hparse⟩
  · exact ⟨_, hparse⟩

/-- Two addresses, a header with two colons, and a directory. -/
def serviceEntries : List Entry :=
  [⟨.url, "http://old"⟩, ⟨.header, "Time : 10:30"⟩, ⟨.out, "gen"⟩, ⟨.url, "http://new"⟩]

theorem parse_iff_grammar_service :
    Arguments.parse (spell serviceEntries) =
      .ok ⟨.service "http://new" [("Time", "10:30")], "gen", none⟩ ∧
    Arguments.parse (spell serviceEntries ++ ["-h", "--bogus"]) = .error .help ∧
    Arguments.parse (spell serviceEntries ++ ["--url"]) =
      Arguments.parse ["--header", "Time : 10:30", "--out", "gen"] := by
  obtain ⟨hok, -, -, hcut, -⟩ := parse_iff_grammar (spell serviceEntries) serviceEntries
  obtain ⟨-, hhelp, -⟩ := parse_iff_grammar (spell serviceEntries ++ ["-h", "--bogus"]) []
  have hheader : IsHeader "Time : 10:30" ("Time", "10:30") :=
    ⟨"Time ", " 10:30", by decide, by decide, by decide⟩
  refine ⟨(hok _).2 ⟨serviceEntries, .complete _, rfl, rfl, rfl, rfl, .cons hheader .nil⟩,
    hhelp.2 ⟨serviceEntries, "-h", ["--bogus"], by decide, rfl, by decide⟩, hcut .url (by decide)⟩

/-- A flag for settings without a value is passed over, so that the usual settings are taken. -/
theorem carries_out_cut_line :
    Arguments.parse ["--schema", "s.graphql", "--out", "gen", "--config"] =
      .ok ⟨.file "s.graphql", "gen", none⟩ ∧
    ∀ entries, spell entries ≠ ["--schema", "s.graphql", "--out", "gen", "--config"] := by
  refine ⟨by decide, fun entries h => ?_⟩
  have heven : (spell entries).length = 2 * entries.length := by
    rw [spell, List.length_flatMap]
    simp [Nat.mul_comm]
  rw [h] at heven
  simp at heven
  omega

end TypedQuery.CommandLine
