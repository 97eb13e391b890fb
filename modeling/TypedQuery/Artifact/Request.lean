-- SUMMARY: Rendering single files one after the other.
import TypedQuery.Artifact.Basic

/-!
# Requests

A sequence of requests for single files of one catalog. The conflicts of a type are reported when its
builder is first rendered.
-/
namespace TypedQuery

/-- A file to be rendered. -/
inductive Request where
  | builder (type : String)
  | enum (name : String)
  | input (name : String)
  | commonTypes
  deriving DecidableEq, Repr

namespace Request

def render (c : Catalog) : Request → Except Error String
  | builder type => c.renderBuilder type
  | enum name => c.renderEnum name
  | input name => c.renderInput name
  | commonTypes => c.renderCommonTypes

/-- The type whose fields a request looks at. -/
def type? (c : Catalog) : Request → Option SelectableType
  | builder type => (c.type? type).toOption
  | _ => none

/-- The reports of a sequence of requests, given the types whose conflicts have been reported. -/
def events (c : Catalog) (reported : NameSet) : List Request → List Event
  | [] => []
  | r :: rest =>
    match r.type? c with
    | none => events c reported rest
    | some t =>
      if t.name ∈ reported then events c reported rest
      else t.conflicts.map (·.event) ++ events c (reported.insert t.name) rest

end Request

end TypedQuery
