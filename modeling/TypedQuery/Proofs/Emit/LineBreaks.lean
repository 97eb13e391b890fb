-- SUMMARY: A page notes that a line begins if and only if its body ends with a line break.
import TypedQuery.Proofs.Emit.Regions

/-!
# Line breaks

A page does not look at its body when it leaves a region in lines: whether the line has to be broken, it
takes from `Page.pending`. `Page.MarksLines` says that this is what the body shows. Every act keeps it, and
so does every operation. So the closing token of a region in lines is the first on its line, whatever was
written inside: `Op.pending_iff_endsLine`.
-/
namespace TypedQuery

/-- The text ends with a line break. -/
def Text.endsLine (s : String) : Bool := s.toList.getLast? = some '\n'

/-- The unit of indentation, as often as regions are open. -/
def Settings.indentation (settings : Settings) (depth : Nat) : String :=
  String.join (List.replicate depth settings.indent)

/-! ## Texts -/

section

variable {indentation cs : List Char} {pending : Bool} {s : String}

/-- Indentation is written in front of characters only, so that the last character stays the last. -/
theorem getLast?_indentLines : (indentLines indentation pending cs).getLast? = cs.getLast? := by
  induction cs generalizing pending with
  | nil => rfl
  | cons c rest ih =>
    rw [indentLines]
    split
    · next hbreak => rw [List.getLast?_cons, List.getLast?_cons, ih, hbreak]
    · rw [List.getLast?_append, List.getLast?_cons, List.getLast?_cons, ih, Option.some_or]

/-- A line begins behind a text that ends with a line break, and behind no other text. -/
theorem pendingAfter_eq (h : cs ≠ []) :
    pendingAfter pending cs = decide (cs.getLast? = some '\n') := by
  induction cs generalizing pending with
  | nil => exact absurd rfl h
  | cons c rest ih =>
    cases rest with
    | nil => simp [pendingAfter]
    | cons d rest => rw [pendingAfter, ih (by simp), List.getLast?_cons_cons]

/-- A closing token is indented where a line begins, if there is one. -/
theorem indentLines_closing {kind : RegionKind} : indentLines indentation true kind.closing.toList =
    if kind.closing = "" then [] else indentation ++ kind.closing.toList := by
  cases kind <;> rfl

theorem Text.endsLine_break : endsLine (s ++ "\n") = true := by
  simp [endsLine]

end

namespace Page

variable {p : Page} {s : String} {r : Region} {outer : List Region}

/-! ## The mark and the body -/

/-- It is noted that a line begins if and only if the body ends with a line break. -/
def MarksLines (p : Page) : Prop := p.pending = Text.endsLine p.body

namespace MarksLines

theorem text (h : p.MarksLines) : (p.text s).MarksLines := by
  by_cases hs : s = ""
  · simpa [hs] using h
  have hlast : s.toList.getLast?.isSome := by simpa using hs
  obtain ⟨last, hlast⟩ := Option.isSome_iff_exists.1 hlast
  rw [MarksLines, pending_text, pendingAfter_eq (by simpa using hs), Text.endsLine, body_text,
    List.getLast?_append, getLast?_indentLines, hlast, Option.some_or]

/-- Every act keeps the mark right. -/
theorem act {a : Act} (h : p.MarksLines) : (p.act a).MarksLines := by
  cases ha : a.isImport with
  | false => exact act_keeps ha h (fun _ _ h => h.text) (fun _ _ h => h) fun _ _ h => h
  | true =>
    cases a with
    | addStatement statement => exact h
    | addType type =>
      rw [Page.act, addType]
      split <;> exact h
    | _ => cases ha

theorem perform {acts : List Act} (h : p.MarksLines) : (p.perform acts).MarksLines := by
  induction acts generalizing p with
  | nil => exact h
  | cons a rest ih => exact ih h.act

/-- Every operation keeps the mark right, whether it succeeds or fails. -/
theorem run (h : p.MarksLines) (op : Op) : (op.run p).2.MarksLines := by
  rw [(Op.follows_run op p).after]
  exact h.perform

theorem replay (h : p.MarksLines) (ops : List Op) : (Op.replay p ops).2.MarksLines := by
  induction ops generalizing p with
  | nil => exact h
  | cons op rest ih => exact ih (h.run op)

end MarksLines

/-! ## Leaving regions in lines -/

/-- What follows a region is written behind its closing token. -/
theorem leaveWith_eq_text (h : p.regions = r :: outer) : p.leaveWith s = p.leave.text s := by
  rw [leave, leaveWith_eq h, leaveWith_eq h, text_text, String.append_empty]

/-- A region in lines breaks the line that is not broken yet, and then writes its closing token. -/
theorem MarksLines.body_leave (hmarks : p.MarksLines) (h : p.regions = r :: outer)
    (hr : r.multiline = true) : p.leave.body =
      p.body ++ (if Text.endsLine p.body then "" else "\n") ++
        (if r.kind.closing = "" then ""
          else p.settings.indentation outer.length ++ r.kind.closing) := by
  have hopen : (if r.written then markWritten outer else outer).length = outer.length := by
    split
    · exact length_markWritten
    · rfl
  have hunit : (List.replicate outer.length p.settings.indent.toList).flatten =
      (p.settings.indentation outer.length).toList := by
    rw [Settings.indentation, String.toList_join, List.flatMap_replicate]
  have hclosing : indentLines (p.settings.indentation outer.length).toList true r.kind.closing.toList =
      if r.kind.closing = "" then []
      else (p.settings.indentation outer.length).toList ++ r.kind.closing.toList := indentLines_closing
  rw [MarksLines] at hmarks
  apply String.toList_injective
  rw [leave, leaveWith_eq h, body_text, indentation, hopen, hunit, hr, hmarks]
  cases Text.endsLine p.body with
  | true =>
    simp [hclosing]
    split <;> simp
  | false =>
    simp [indentLines, hclosing]
    split <;> simp

end Page

namespace Op

variable {sheet : Sheet} {p : Page}

/-- What is carried out up to the first failure is a beginning of the operations. -/
theorem exists_replay_of_runAll (ops : List Op) (p : Page) :
    ∃ done, done <+: ops ∧ (runAll ops p).2 = (replay p done).2 := by
  induction ops generalizing p with
  | nil => exact ⟨[], List.prefix_refl _, rfl⟩
  | cons op rest ih =>
    rw [runAll, Writing.bind_run]
    rcases hrun : op.run p with ⟨failure | a, q⟩
    · exact ⟨[op], by simp, by simp [replay, hrun]⟩
    · obtain ⟨done, hdone, hrest⟩ := ih q
      exact ⟨op :: done, by simpa using hdone, by simp [replay, hrun, hrest]⟩

/-- A page on which operations are carried out, the ones that fail included, notes that a line begins if and
only if its body ends with a line break. So a region in lines that is left adds one line break if the body
does not end with one already, and behind it, where a line begins, its closing token, indented by the
regions that are still open; only then comes what follows the region. An operation that writes inside of a
region leaves it at such a page as well. -/
theorem pending_iff_endsLine (sheet : Sheet) :
    (∀ ops, (replay sheet.fresh ops).2.pending = true ↔
      Text.endsLine (replay sheet.fresh ops).2.body = true) ∧
    (∀ ops r outer, (replay sheet.fresh ops).2.regions = r :: outer → r.multiline = true →
      let p := (replay sheet.fresh ops).2
      let begun := p.body ++ if Text.endsLine p.body then "" else "\n"
      Text.endsLine begun = true ∧
      p.leave.regions.length = outer.length ∧
      p.leave.body = begun ++ (if r.kind.closing = "" then ""
        else sheet.settings.indentation outer.length ++ r.kind.closing) ∧
      ∀ suffix, p.leaveWith suffix = p.leave.text suffix) ∧
    ∀ before kind multiline inside, ∃ done, done <+: inside ∧
      (replay sheet.fresh (before ++ [.region kind multiline inside])).2 =
        (replay sheet.fresh (before ++ .enter kind multiline :: done)).2.leave := by
  have hmarks (ops : List Op) : (replay sheet.fresh ops).2.MarksLines :=
    Page.MarksLines.replay (p := sheet.fresh) rfl ops
  refine ⟨fun ops => Bool.eq_iff_iff.1 (hmarks ops), ?_, ?_⟩
  · intro ops r outer hregions hr p begun
    have hsettings : p.settings = sheet.settings :=
      congrArg Sheet.settings (lays_replay ops sheet.lays_fresh).1
    refine ⟨?_, (Page.Touched.leaveWith hregions).length_eq, ?_,
      fun suffix => Page.leaveWith_eq_text hregions⟩
    · dsimp only [begun]
      split
      · next hends => rwa [String.append_empty]
      · exact Text.endsLine_break
    · rw [← hsettings]
      exact (hmarks ops).body_leave hregions hr
  · intro before kind multiline inside
    -- A failure inside ends what is written there, and then the region is left all the same.
    obtain ⟨done, hdone, hinside⟩ :=
      exists_replay_of_runAll inside ((replay sheet.fresh before).2.enter kind multiline)
    refine ⟨done, hdone, ?_⟩
    rw [replay_append, replay_append]
    change ((Op.region kind multiline inside).run (replay sheet.fresh before).2).2 = _
    rw [run, Writing.snd_andReturn]
    change (runAll inside ((replay sheet.fresh before).2.enter kind multiline)).2.leave = _
    rw [hinside]
    rfl

/-- A list in lines that is open inside of a block. -/
def openList : List Op := [.enter .block true, .text "a", .enter .array true, .text "b"]

theorem pending_iff_endsLine_openList :
    (replay blankSheet.fresh openList).2.regions = [⟨.array, true, true⟩, ⟨.block, true, true⟩] ∧
      (replay blankSheet.fresh openList).2.leave.body = "\x7b\n\ta[\n\t\tb\n\t]" := by
  have hregions : (replay blankSheet.fresh openList).2.regions =
      [⟨.array, true, true⟩, ⟨.block, true, true⟩] := rfl
  obtain ⟨-, -, hbody, -⟩ :=
    (pending_iff_endsLine blankSheet).2.1 openList _ _ hregions rfl
  refine ⟨hregions, ?_⟩
  rw [hbody]
  decide

end Op

end TypedQuery
