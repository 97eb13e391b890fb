-- SUMMARY: What success of a computation says about the computations it is put together from.
import Mathlib.Data.List.Forall2

/-!
# Computations that can fail

A sequence of computations succeeds if and only if each of them does. The lemmas take the success of
the whole apart.
-/
namespace TypedQuery

variable {ε α β : Type}

theorem bind_eq_ok_iff {x : Except ε α} {f : α → Except ε β} {b : β} :
    x >>= f = .ok b ↔ ∃ a, x = .ok a ∧ f a = .ok b := by
  constructor
  · intro h
    cases x with
    | error e => cases h
    | ok a => exact ⟨a, rfl, h⟩
  · rintro ⟨a, rfl, h⟩
    exact h

theorem bind_eq_error_iff {x : Except ε α} {f : α → Except ε β} {failure : ε} :
    x >>= f = .error failure ↔ x = .error failure ∨ ∃ a, x = .ok a ∧ f a = .error failure := by
  cases x with
  | error other =>
    change Except.error other = _ ↔ _
    simp
  | ok a =>
    change f a = _ ↔ _
    simp

theorem exists_of_isOk {x : Except ε α} (h : x.isOk = true) : ∃ a, x = .ok a := by
  cases x with
  | error e => cases h
  | ok a => exact ⟨a, rfl⟩

theorem map_eq_ok_iff {x : Except ε α} {f : α → β} {b : β} :
    x.map f = .ok b ↔ ∃ a, x = .ok a ∧ f a = b := by
  cases x with
  | error e => simp [Except.map]
  | ok a => simp [Except.map]

/-- A computation without a result. -/
theorem map_unit {x : Except ε Unit} : x.map (fun _ => ()) = x := by
  cases x <;> rfl

theorem mapM_eq_ok_iff {f : α → Except ε β} {as : List α} {bs : List β} :
    as.mapM f = .ok bs ↔ List.Forall₂ (fun a b => f a = .ok b) as bs := by
  induction as generalizing bs with
  | nil =>
    rw [List.mapM_nil]
    constructor
    · intro h
      cases h
      exact .nil
    · intro h
      cases h
      rfl
  | cons a rest ih =>
    rw [List.mapM_cons, bind_eq_ok_iff]
    constructor
    · rintro ⟨b, hb, hrest⟩
      obtain ⟨others, hothers, hpure⟩ := bind_eq_ok_iff.1 hrest
      cases hpure
      exact .cons hb (ih.1 hothers)
    · intro h
      cases h with
      | cons hb hothers => exact ⟨_, hb, bind_eq_ok_iff.2 ⟨_, ih.2 hothers, rfl⟩⟩

theorem exists_mapM_eq_ok_iff {f : α → Except ε β} {as : List α} :
    (∃ bs, as.mapM f = .ok bs) ↔ ∀ a ∈ as, ∃ b, f a = .ok b := by
  simp only [mapM_eq_ok_iff]
  induction as with
  | nil => simp
  | cons a rest ih => simp [List.forall₂_cons_left_iff, ← ih]

/-- Computations that agree on the members of a list. -/
theorem mapM_congr {f g : α → Except ε β} {as : List α} (h : ∀ a ∈ as, f a = g a) :
    as.mapM f = as.mapM g := by
  induction as with
  | nil => rfl
  | cons a rest ih =>
    rw [List.mapM_cons, List.mapM_cons, h a List.mem_cons_self,
      ih fun b hb => h b (List.mem_cons_of_mem _ hb)]

theorem forM_eq_ok_iff {f : α → Except ε Unit} {as : List α} :
    as.forM f = .ok () ↔ ∀ a ∈ as, f a = .ok () := by
  induction as with
  | nil =>
    constructor
    · exact fun _ _ h => nomatch h
    · exact fun _ => rfl
  | cons a rest ih =>
    change (f a >>= fun _ => rest.forM f) = .ok () ↔ _
    rw [bind_eq_ok_iff, List.forall_mem_cons, ← ih]
    constructor
    · rintro ⟨_, hfirst, hrest⟩
      exact ⟨hfirst, hrest⟩
    · rintro ⟨hfirst, hrest⟩
      exact ⟨(), hfirst, hrest⟩

/-- A sequence of computations fails with what one of them fails with. -/
theorem exists_of_forM_eq_error {f : α → Except ε Unit} {as : List α} {failure : ε}
    (h : as.forM f = .error failure) : ∃ a ∈ as, f a = .error failure := by
  induction as with
  | nil => cases h
  | cons a rest ih =>
    cases hfirst : f a with
    | error first =>
      have hsame : (f a >>= fun _ => rest.forM f) = .error failure := h
      rw [hfirst] at hsame
      cases hsame
      exact ⟨a, List.mem_cons_self, hfirst⟩
    | ok _ =>
      have hrest : (f a >>= fun _ => rest.forM f) = .error failure := h
      rw [hfirst] at hrest
      obtain ⟨b, hb, hfailure⟩ := ih hrest
      exact ⟨b, List.mem_cons_of_mem _ hb, hfailure⟩

theorem exists_of_mapM_eq_error {f : α → Except ε β} {as : List α} {failure : ε}
    (h : as.mapM f = .error failure) : ∃ a ∈ as, f a = .error failure := by
  induction as with
  | nil => cases h
  | cons a rest ih =>
    rw [List.mapM_cons] at h
    rcases bind_eq_error_iff.1 h with hfirst | ⟨_, _, hothers⟩
    · exact ⟨a, List.mem_cons_self, hfirst⟩
    · rcases bind_eq_error_iff.1 hothers with hrest | ⟨_, _, hpure⟩
      · obtain ⟨b, hb, hfailure⟩ := ih hrest
        exact ⟨b, List.mem_cons_of_mem _ hb, hfailure⟩
      · cases hpure

/-! ## Kinds of failures -/

/-- Whatever the computation fails with is of a kind. -/
def OnlyFails (P : ε → Prop) (x : Except ε α) : Prop := ∀ failure, x = .error failure → P failure

namespace OnlyFails

variable {P : ε → Prop} {x : Except ε α} {f : α → Except ε β} {as : List α}

theorem ok {a : α} : OnlyFails P (.ok a : Except ε α) := nofun

theorem error {failure : ε} (h : P failure) : OnlyFails P (.error failure : Except ε α) := by
  rintro _ ⟨⟩
  exact h

theorem bind (hx : OnlyFails P x) (hf : ∀ a, OnlyFails P (f a)) : OnlyFails P (x >>= f) := by
  cases x with
  | error failure =>
    intro _ h
    cases h
    exact hx failure rfl
  | ok a => exact hf a

theorem map {g : α → β} (hx : OnlyFails P x) : OnlyFails P (x.map g) := by
  cases x with
  | error failure =>
    intro _ h
    cases h
    exact hx failure rfl
  | ok a => exact ok

theorem mapM (h : ∀ a ∈ as, OnlyFails P (f a)) : OnlyFails P (as.mapM f) := by
  induction as with
  | nil => exact ok
  | cons a rest ih =>
    rw [List.mapM_cons]
    refine (h a List.mem_cons_self).bind fun b => ?_
    exact (ih fun c hc => h c (List.mem_cons_of_mem _ hc)).bind fun others => ok

theorem forM {f : α → Except ε Unit} (h : ∀ a ∈ as, OnlyFails P (f a)) :
    OnlyFails P (as.forM f) := by
  intro failure hfailure
  obtain ⟨a, ha, hfails⟩ := exists_of_forM_eq_error hfailure
  exact h a ha failure hfails

end OnlyFails

end TypedQuery
