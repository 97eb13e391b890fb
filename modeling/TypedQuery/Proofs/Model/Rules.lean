-- SUMMARY: What holds of a selectable type that could be made.
import Mathlib.Data.List.Nodup
import TypedQuery.Model.Type
import TypedQuery.Proofs.Fallible

/-!
# The rules on selectable types

`make?_eq_ok_iff` lists the checks that a type has passed. `checkFields_eq_ok_iff` says what checked fields
are like; in particular no name is declared twice.
-/
namespace TypedQuery

/-- A field that leads to another type says which one, and a connection names its type and its edges. -/
structure SelectableField.Complete (f : SelectableField) : Prop where
  target : f.isAssociation = true → f.target.isSome
  connection : f.category = .connection → f.connection.isSome ∧ f.edge.isSome

theorem SelectableField.complete_iff {f : SelectableField} : f.Complete ↔
    ¬ (f.isAssociation && f.target.isNone) = true ∧
      ¬ (f.category = .connection && (f.connection.isNone || f.edge.isNone)) = true := by
  have hfields : f.Complete ↔ (f.isAssociation = true → f.target.isSome) ∧
      (f.category = .connection → f.connection.isSome ∧ f.edge.isSome) :=
    ⟨fun h => ⟨h.target, h.connection⟩, fun h => ⟨h.1, h.2⟩⟩
  simp [hfields, ← Option.isSome_iff_ne_none, Option.isSome_iff_exists]

namespace SelectableType

variable {name : String} {category : TypeCategory} {superTypes : List SelectableType}
  {declared : List SelectableField} {t : SelectableType}

theorem make?_eq_ok_iff : make? name category superTypes declared = .ok t ↔
    checkFields name [] declared = .ok () ∧
    (∀ r ∈ requiredFields category, requireField name declared r.1 r.2 = .ok ()) ∧
    (category ≠ .object → superTypes = []) ∧
    t = { name, category, superTypes, declared } := by
  unfold make?
  constructor
  · intro h
    obtain ⟨_, hfields, h⟩ := bind_eq_ok_iff.1 h
    obtain ⟨_, hrequired, h⟩ := bind_eq_ok_iff.1 h
    refine ⟨hfields, forM_eq_ok_iff.1 hrequired, ?_⟩
    split at h
    · cases h
    · next hsupers =>
      cases h
      refine ⟨?_, rfl⟩
      intro hne
      simpa [hne] using hsupers
  · rintro ⟨hfields, hrequired, hsupers, rfl⟩
    refine bind_eq_ok_iff.2 ⟨(), hfields, ?_⟩
    refine bind_eq_ok_iff.2 ⟨(), forM_eq_ok_iff.2 hrequired, ?_⟩
    split
    · next hbad => exact absurd (by simp [hsupers hbad.1]) hbad.2
    · rfl

/-- Checked fields are complete, and their names differ from each other and from the earlier ones. -/
theorem checkFields_eq_ok_iff {earlier : List String} : checkFields name earlier declared = .ok () ↔
    (∀ f ∈ declared, f.Complete) ∧ (declared.map (·.name)).Nodup ∧
      ∀ f ∈ declared, f.name ∉ earlier := by
  induction declared generalizing earlier with
  | nil => simp [checkFields]
  | cons f rest ih =>
    have hrest : (∀ g ∈ rest, g.name ∉ f.name :: earlier) ↔
        f.name ∉ rest.map (·.name) ∧ ∀ g ∈ rest, g.name ∉ earlier := by
      simp only [List.mem_cons, not_or, List.mem_map, not_exists, not_and]
      exact forall₂_and
    rw [List.forall_mem_cons, List.map_cons, List.nodup_cons, List.forall_mem_cons,
      SelectableField.complete_iff, checkFields]
    split
    · next htarget => simp [htarget]
    · next htarget =>
      split
      · next hconnection => simp [hconnection]
      · next hconnection =>
        split
        · next hold => simp [hold]
        · next hnew =>
          rw [ih, hrest]
          tauto

/-- The names of checked fields differ from each other and from the earlier ones. -/
theorem distinct_of_checkFields {earlier : List String}
    (h : checkFields name earlier declared = .ok ()) :
    (declared.map (·.name)).Nodup ∧ ∀ f ∈ declared, ¬ f.name ∈ earlier :=
  (checkFields_eq_ok_iff.1 h).2

/-- A field is there that is required, if the first of its name has the category. -/
theorem requireField_eq_ok_iff {field : String} {required : FieldCategory} :
    requireField name declared field required = .ok () ↔
      ∃ f, declared.find? (·.name = field) = some f ∧ f.category = required := by
  unfold requireField
  cases declared.find? (·.name = field) with
  | none => simp
  | some f => by_cases h : f.category = required <;> simp [h]

end SelectableType

end TypedQuery
