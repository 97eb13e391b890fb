-- SUMMARY: Which types are narrower forms of which.
import TypedQuery.Event
import TypedQuery.Names.Path
import TypedQuery.Schema.Basic

/-!
# Lineage

A type can be cast down to the types that implement it or that are members of it, and up to the types
it implements or is a member of. Both graphs hold immediate relations only; everything further is
reached along them. No type can be cast to itself, even if the schema says so.
-/
namespace TypedQuery

/-- The immediate casts of a schema in both directions. -/
structure Lineage where
  downcasts : NameGraph
  upcasts : NameGraph
  acyclic : upcasts.Acyclic
  deriving DecidableEq

namespace Lineage

/-- The lineage of arbitrary downcasts, redundant ones included. -/
def ofEdges (raw : NameGraph) : Lineage :=
  { downcasts := raw.reduce
    upcasts := raw.reduce.inverse
    acyclic := NameGraph.acyclic_reduce.inverse }

/-- The downcasts that one type definition spells out: from each interface it implements to itself, or
from itself to each member. -/
def edgesOf : TypeDef → List (String × String)
  | .object d | .interface d => d.interfaces.map fun i => (i, d.name)
  | .union d => d.members.map fun m => (d.name, m)
  | _ => []

/-- The downcasts that a schema spells out. -/
def rawEdges (s : Schema) : NameGraph :=
  (s.types.flatMap edgesOf).foldl (fun g (source, target) => NameGraph.addEdge g source target) ∅

/-- The lineage of a schema. -/
def ofSchema (s : Schema) : Lineage := ofEdges (rawEdges s)

/-- Values of the type can be narrowed. -/
def isPolymorphic (l : Lineage) (name : String) : Bool := l.downcasts.contains name

/-- Every type that a type can be narrowed to. -/
def descendants (l : Lineage) (name : String) : NameSet := l.downcasts.reachable name

/-- Every type that a type can be widened to. -/
def ancestors (l : Lineage) (name : String) : NameSet := l.upcasts.reachable name

/-- What is reported when a lineage is made from these downcasts. -/
def event (raw : NameGraph) : Event :=
  .lineageResolved raw.reduce.size raw.edgeCount raw.reduce.edgeCount

end Lineage

end TypedQuery
