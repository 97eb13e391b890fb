-- SUMMARY: Domain names.
import TypedQuery.Source.DomainName.Label

/-!
# Domain names

A domain name is a sequence of labels with dots between them. It is read in any spelling, and kept in
the spelling that all of them stand for.
-/
namespace TypedQuery.DomainName

/-- The labels between dots. -/
def labels : List Char → List (List Char)
  | [] => [[]]
  | c :: rest =>
    if c = '.' then [] :: labels rest
    else
      match labels rest with
      | [] => [[c]]
      | first :: others => (c :: first) :: others

/-- The labels can stand together in a name. -/
def areLabels (all : List (List Char)) : Bool :=
  all.all isLabel && (!all.any turns || all.all isOneWay)

/-- Read a name: its usual spelling, or nothing if it is not valid. -/
def parse? (cs : List Char) : Option (List Char) :=
  match cs.mapM fold? with
  | none => none
  | some folded =>
    let name := compose folded.flatten
    match (labels name).mapM unfolded? with
    | none => none
    | some all => if areLabels all then some name else none

end TypedQuery.DomainName
