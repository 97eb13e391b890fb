-- SUMMARY: What a schema says about the connections that are found in it.
import TypedQuery.Proofs.Schema.Regular

/-!
# Connections in schemas

A connection is found in a schema by the fields of its type and of its edges. `Schema.Paginates` says
all that has been checked when one is found, and which definitions were looked up for it.
-/
namespace TypedQuery

namespace Schema

variable {s : Schema} {d : TypeDef} {k : Connection}

/-- What a schema says about a connection: the definitions of its type and of its edges, and the fields
that make them so. -/
structure Paginates (s : Schema) (k : Connection) (d e : ObjectDef)
    (edges node cursor : FieldDef) : Prop where
  type_eq : s.get? k.type = some (.object d)
  edges_eq : d.field? "edges" = some edges
  edges_isList : edges.type.isList = true
  edges_base : edges.type.base = k.edge
  edge_eq : s.get? k.edge = some (.object e)
  node_eq : e.field? "node" = some node
  node_isList : node.type.isList = false
  node_base : node.type.base = k.node
  node_isComposite : s.isComposite k.node = true
  cursor_eq : e.field? "cursor" = some cursor
  cursor_isList : cursor.type.isList = false
  cursor_isScalar : (s.get? cursor.type.base).any (·.kind = .scalar) = true

/-- A connection has the name of the definition that makes it, and all the rest has been looked up. -/
theorem paginates_of_connectionOf? (hd : d ∈ s.types) (h : s.connectionOf? d = some k) :
    k.type = d.name ∧ ∃ object e edges node cursor, s.Paginates k object e edges node cursor := by
  have hget : s.get? d.name = some d := get?_eq_some_iff.2 ⟨hd, rfl⟩
  unfold connectionOf? at h
  -- Each case distinction is about one thing that is looked up, and `none` unless it is as it has to be.
  split at h
  · next object =>
    split at h
    · cases h
    · next edges hedges =>
      split at h
      · cases h
      · next hlist =>
        split at h
        · next e he =>
          split at h
          · next node cursor hnode hcursor =>
            split at h
            · next hchecks =>
              simp only [Bool.and_eq_true, Bool.not_eq_true'] at hchecks
              obtain ⟨⟨⟨hnodeList, hcomposite⟩, hcursorList⟩, hscalar⟩ := hchecks
              cases h
              exact ⟨rfl, object, e, edges, node, cursor, hget, hedges, by simpa using hlist, rfl, he,
                hnode, hnodeList, rfl, hcomposite, hcursor, hcursorList, hscalar⟩
            · cases h
          · cases h
        · cases h
  · cases h

theorem exists_paginates (h : k ∈ s.connections) :
    ∃ d e edges node cursor, s.Paginates k d e edges node cursor := by
  obtain ⟨d, hd, hconnection⟩ := List.mem_filterMap.1 h
  exact (paginates_of_connectionOf? hd hconnection).2

/-- Connections and their edges are objects. -/
theorem objects_of_connection (h : k ∈ s.connections) :
    (∃ d, s.get? k.type = some (.object d)) ∧ ∃ e, s.get? k.edge = some (.object e) := by
  obtain ⟨d, e, _, _, _, hk⟩ := exists_paginates h
  exact ⟨⟨d, hk.type_eq⟩, e, hk.edge_eq⟩

/-- No two connections have one name. -/
theorem nodup_connections (s : Schema) : (s.connections.map (·.type)).Nodup := by
  -- Some of the definitions make a connection, each of them one of its own name.
  have hsub (types : List TypeDef) (hmem : ∀ d ∈ types, d ∈ s.types) :
      ((types.filterMap s.connectionOf?).map (·.type)).Sublist (types.map TypeDef.name) := by
    induction types with
    | nil => exact .slnil
    | cons d rest ih =>
      obtain ⟨hd, hrest⟩ := List.forall_mem_cons.1 hmem
      cases hconnection : s.connectionOf? d with
      | none =>
        rw [List.filterMap_cons_none hconnection]
        exact (ih hrest).cons _
      | some k =>
        rw [List.filterMap_cons_some hconnection, List.map_cons,
          (paginates_of_connectionOf? hd hconnection).1]
        exact (ih hrest).cons_cons _
  exact s.distinct.sublist (hsub s.types fun _ hd => hd)

end Schema

end TypedQuery
