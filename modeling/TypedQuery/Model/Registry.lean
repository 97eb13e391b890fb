-- SUMMARY: Hand-made selectable types, by name.
import TypedQuery.Model.Type
import TypedQuery.Names.NameMap
import TypedQuery.Names.NameSet

/-!
# Registries

A registry holds selectable types under their names. A type that is defined again replaces the earlier
one, except among the super types of types that use it already. The conflicts of a type are reported
when its fields are first asked for.
-/
namespace TypedQuery

/-- Selectable types by name. -/
structure Registry where
  types : NameMap SelectableType := ∅
  /-- The types whose conflicts have been reported. -/
  reported : NameSet := ∅

namespace Registry

/-- The type of a name. -/
def get? (r : Registry) (name : String) : Option SelectableType := r.types.get? name

/-- Put a type under its name. -/
def define (r : Registry) (t : SelectableType) : Registry :=
  { types := r.types.insert t.name t, reported := r.reported.filter (· ≠ t.name) }

/-- The conflicts of a type, unless they have been reported. -/
def report (r : Registry) (t : SelectableType) : List Event × Registry :=
  if t.name ∈ r.reported then ([], r)
  else (t.conflicts.map (·.event), { r with reported := r.reported.insert t.name })

end Registry

end TypedQuery
