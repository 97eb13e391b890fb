-- SUMMARY: With what modelling a schema can fail.
import TypedQuery.Proofs.Model.Building

/-!
# Failures of modelling

Modelling fails if the settings are not valid, a root is not an object, a name is not defined, or a type
cannot be made of the models of its fields. What holds of all such failures, `onlyFails_ofSchema` says of
every failure of a whole schema.
-/
namespace TypedQuery

theorem Settings.onlyFails_validate {P : Error → Prop} {settings : Settings}
    (h : ∀ fault, P (.settings fault)) : OnlyFails P settings.validate := by
  unfold validate
  repeat' split
  all_goals first | exact OnlyFails.ok | exact OnlyFails.error (h _)

namespace SelectableType

variable {P : Error → Prop} {name : String} {category : TypeCategory}
  {superTypes : List SelectableType} {declared : List SelectableField}

section

-- Of all that a type can be blamed for, only what a root is has nothing to do with making it.
variable (hfault : ∀ fault, (∀ found, fault ≠ .rootNotObject found) → P (.invalidType name fault))
include hfault

theorem onlyFails_checkFields {earlier : List String} :
    OnlyFails P (checkFields name earlier declared) := by
  induction declared generalizing earlier with
  | nil => exact OnlyFails.ok
  | cons f rest ih =>
    rw [checkFields]
    split
    · exact OnlyFails.error (hfault _ (by simp))
    · split
      · exact OnlyFails.error (hfault _ (by simp))
      · split
        · exact OnlyFails.error (hfault _ (by simp))
        · exact ih

theorem onlyFails_requireField {required : FieldCategory} {field : String} :
    OnlyFails P (requireField name declared field required) := by
  unfold requireField
  split
  · split
    · exact OnlyFails.ok
    · exact OnlyFails.error (hfault _ (by simp))
  · exact OnlyFails.error (hfault _ (by simp))

/-- A type that cannot be made is blamed itself, and never for being a root. -/
theorem onlyFails_make? : OnlyFails P (make? name category superTypes declared) := by
  unfold make?
  refine (onlyFails_checkFields hfault).bind fun _ => ?_
  refine (OnlyFails.forM fun r _ => onlyFails_requireField hfault).bind fun _ => ?_
  split
  · exact OnlyFails.error (hfault _ (by simp))
  · exact OnlyFails.ok

end

end SelectableType

namespace Outline

variable {o : Outline} {P : Error → Prop} {name : String} {d : FieldDef}

/-- A field has no model only if a name is not defined. -/
theorem onlyFails_fieldModel (hunknown : ∀ type mention, P (.unknownType type mention)) :
    OnlyFails P (o.fieldModel name d) := by
  have harguments : OnlyFails P (checkArguments o.schema name d) := by
    refine OnlyFails.forM fun a _ => ?_
    split
    · exact OnlyFails.ok
    · exact OnlyFails.error (hunknown _ _)
  unfold fieldModel
  split
  · exact OnlyFails.error (hunknown _ _)
  · split
    · next failure hfailure => exact OnlyFails.error (harguments failure hfailure)
    · exact OnlyFails.ok

/-- A type has no model only if a name is not defined, or if it or a type above it cannot be made. -/
theorem onlyFails_typeOf (hunknown : ∀ type mention, P (.unknownType type mention))
    (hmake : ∀ type superTypes declared,
      List.Forall₂ (fun superName u => o.typeOf superName = .ok u) (o.superNames type) superTypes →
      List.Forall₂ (fun d f => o.fieldModel type d = .ok f)
        ((o.schema.listedFields type).filter (!isInherited o.schema superTypes ·)) declared →
      OnlyFails P (SelectableType.make? type (o.categoryOf type) superTypes declared))
    (name : String) : OnlyFails P (o.typeOf name) := by
  intro failure hfailure
  rw [typeOf_eq] at hfailure
  split at hfailure
  · cases hfailure
    exact hunknown _ _
  · -- What fails is one of three steps: a super type, a field, or making the type of them.
    rcases bind_eq_error_iff.1 hfailure with hsupers | ⟨superTypes, hsupers, hover⟩
    · exact OnlyFails.mapM (fun superName hsuper => onlyFails_typeOf hunknown hmake superName) _ hsupers
    · rcases bind_eq_error_iff.1 hover with hmodels | ⟨declared, hdeclared, hmakes⟩
      · exact OnlyFails.mapM (fun _ _ => onlyFails_fieldModel hunknown) _ hmodels
      · exact hmake name superTypes declared (mapM_eq_ok_iff.1 hsupers) (mapM_eq_ok_iff.1 hdeclared)
          failure hmakes
termination_by (o.lineage.ancestors name).size
decreasing_by exact size_ancestors_lt hsuper

end Outline

namespace Catalog

variable {P : Error → Prop} {s : Schema} {settings : Settings}

/-- A root is refused if it is not defined or not an object. -/
theorem onlyFails_checkRoots (hunknown : ∀ type mention, P (.unknownType type mention))
    (hroot : ∀ root found, P (.invalidType root (.rootNotObject found))) : OnlyFails P s.checkRoots := by
  refine OnlyFails.forM fun root _ => ?_
  split
  · exact OnlyFails.ok
  · exact OnlyFails.error (hroot _ _)
  · exact OnlyFails.error (hunknown _ _)

theorem onlyFails_ofSchema (hsettings : OnlyFails P settings.validate)
    (hroots : OnlyFails P s.checkRoots)
    (htypes : ∀ name, OnlyFails P ((Outline.ofSchema s settings).typeOf name)) :
    OnlyFails P (ofSchema s settings) := by
  intro failure hfailure
  rcases of_ofSchema_eq_error hfailure with hinvalid | hroot | ⟨name, _, hmodel⟩
  · exact hsettings failure hinvalid
  · exact hroots failure hroot
  · exact htypes name failure hmodel

end Catalog

end TypedQuery
