-- SUMMARY: The names of empty builders.
import TypedQuery.Artifact.Basic
import TypedQuery.Proofs.Sdl.Names

/-!
# Names in generated code

The empty builder of a type is named for the type, but for the case of its first letter. The letters
of names are plain ones, so that the mapping of all letters to lower case comes to the mapping of
these.
-/
namespace TypedQuery

/-! ## Lower case -/

theorem toNat_toLower {c : Char} :
    c.toLower.toNat = if 0x41 ≤ c.toNat ∧ c.toNat ≤ 0x5a then c.toNat + 32 else c.toNat := by
  have hrange : (c.val ≥ 'A'.val ∧ c.val ≤ 'Z'.val) ↔ 0x41 ≤ c.toNat ∧ c.toNat ≤ 0x5a := Iff.rfl
  unfold Char.toLower
  split
  · next h =>
    rw [if_pos (hrange.1 h)]
    change (c.val + 32).toNat = c.toNat + 32
    rw [UInt32.toNat_add, Nat.mod_eq_of_lt]
    · rfl
    · have := (hrange.1 h).2
      change c.toNat + 32 < _
      omega
  · next h => rw [if_neg (mt hrange.2 h)]

/-- All runs but the one of the plain capitals begin further on. -/
theorem Text.lowerCase_of_lt {c : Char} (h : c.toNat < 0xc0) : Text.lowerCase c = [c.toLower] := by
  -- Only the first run of the table can cover the character.
  have hlater : caseRuns.tail.all (0xc0 ≤ ·.first) = true := by decide +kernel
  have hnone : caseRuns.tail.find? (·.covers c.toNat) = none := by
    rw [List.find?_eq_none]
    intro run hrun hcovers
    have hfirst := List.all_eq_true.1 hlater run hrun
    simp only [CaseRun.covers, Bool.and_eq_true, decide_eq_true_eq] at hcovers hfirst
    omega
  have hdotted : c ≠ '\u0130' := by
    rintro rfl
    exact absurd h (by decide)
  have hruns : caseRuns = ⟨0x41, 0x5a, 1, 32⟩ :: caseRuns.tail := rfl
  have hlower := @toNat_toLower c
  rw [lowerCase, if_neg hdotted, hruns, List.find?_cons, hnone]
  split at hlower
  · next hupper =>
    have hcovers : CaseRun.covers ⟨0x41, 0x5a, 1, 32⟩ c.toNat = true := by
      simp [CaseRun.covers, hupper, Nat.mod_one]
    have hcode : (c.toNat + 32 : Int).toNat = c.toLower.toNat := by omega
    simp only [hcovers, hcode, Char.ofNat_toNat]
  · next hupper =>
    have hcovers : CaseRun.covers ⟨0x41, 0x5a, 1, 32⟩ c.toNat = false := by
      rw [Bool.eq_false_iff]
      intro hcovers
      simp only [CaseRun.covers, Bool.and_eq_true, decide_eq_true_eq] at hcovers
      exact hupper hcovers.1
    have hsame : c.toLower = c := Char.toNat_inj.1 hlower
    simp only [hcovers, hsame]

namespace Sdl

theorem isNameChar_iff {c : Char} : isNameChar c = true ↔
    (0x41 ≤ c.toNat ∧ c.toNat ≤ 0x5a) ∨ (0x61 ≤ c.toNat ∧ c.toNat ≤ 0x7a) ∨
      (0x30 ≤ c.toNat ∧ c.toNat ≤ 0x39) ∨ c.toNat = 0x5f := by
  have hbetween {low high : UInt32} : (decide (c.val ≥ low) && decide (c.val ≤ high)) = true ↔
      low ≤ c.val ∧ c.val ≤ high := by
    rw [Bool.and_eq_true, decide_eq_true_iff, decide_eq_true_iff]
  have hupper : c.isUpper = true ↔ 0x41 ≤ c.toNat ∧ c.toNat ≤ 0x5a := decide_eq_true_iff
  have hlower : c.isLower = true ↔ 0x61 ≤ c.toNat ∧ c.toNat ≤ 0x7a := hbetween
  have hdigit : c.isDigit = true ↔ 0x30 ≤ c.toNat ∧ c.toNat ≤ 0x39 := hbetween
  have hletter : c.isAlpha = true ↔ c.isUpper = true ∨ c.isLower = true := Bool.or_eq_true_iff
  have hline : c = '_' ↔ c.toNat = 0x5f := Char.toNat_inj.symm
  simp only [isNameChar, Char.isAlphanum, Bool.or_eq_true, decide_eq_true_eq, hletter, hupper,
    hlower, hdigit, hline, or_assoc]

theorem isNameChar_toLower {c : Char} (h : isNameChar c = true) : isNameChar c.toLower = true := by
  rw [isNameChar_iff] at h ⊢
  rw [toNat_toLower]
  split <;> omega

end Sdl

/-! ## Empty builders -/

/-- The name with its first letter in lower case. -/
def lowerFirst (name : String) : String :=
  match name.toList with
  | [] => ""
  | first :: rest => String.ofList (first.toLower :: rest)

variable {name : String}

theorem Sdl.IsName.exists_cons (h : Sdl.IsName name) : ∃ first rest, name.toList = first :: rest ∧
    (lowerFirst name).toList = first.toLower :: rest ∧ Sdl.isNameChar first = true ∧
      ∀ c ∈ rest, Sdl.isNameChar c = true := by
  obtain ⟨first, rest, hlist⟩ := List.exists_cons_of_ne_nil (mt String.toList_eq_nil_iff.1 h.1)
  have hchars := h.2
  rw [hlist, List.forall_mem_cons] at hchars
  exact ⟨first, rest, hlist, by rw [lowerFirst, hlist, String.toList_ofList], hchars.1, hchars.2⟩

theorem Sdl.IsName.lowerFirst (h : Sdl.IsName name) : Sdl.IsName (lowerFirst name) := by
  obtain ⟨first, rest, _, hlower, hfirst, hrest⟩ := h.exists_cons
  refine ⟨fun hempty => ?_, ?_⟩
  · rw [hempty] at hlower
    cases hlower
  · rw [hlower]
    exact List.forall_mem_cons.2 ⟨isNameChar_toLower hfirst, hrest⟩

theorem Catalog.instanceName_eq {c : Catalog} (h : Sdl.IsName name) :
    c.instanceName name = TypedQuery.lowerFirst name ++ "$" := by
  obtain ⟨first, rest, hlist, hlower, hfirst, _⟩ := h.exists_cons
  have hplain : first.toNat < 0xc0 := by
    have := Sdl.isNameChar_iff.1 hfirst
    omega
  rw [← String.toList_inj, instanceName, hlist, String.toList_append, String.toList_append, hlower]
  simp [Text.lowerCase_of_lt hplain]

end TypedQuery
