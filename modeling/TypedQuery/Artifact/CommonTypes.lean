-- SUMMARY: The file of type helpers that all builders share.
import TypedQuery.Emit.Writing
import TypedQuery.Lineage

/-!
# Common types

The helpers behind narrowing: a type that adds the name of a type to a selection, a recursive type that
lists the forms of a type, and functions that list the casts of a type at run time.
-/
namespace TypedQuery.CommonTypes

open Writing

def location : Location := { folder := .root, stem := "CommonTypes" }

def typeNameHelper : Writing Unit := do
  text "export type WithTypeName<T, TypeName extends string> ="
  region .blank true do
    text ("T extends \x7breadonly __typename: string\x7d ?\nT :\n" ++
      "T & \x7breadonly __typename: TypeName\x7d")
  text ";\n"

/-- The branch for one type: the type itself, or a form of one of its casts. -/
def implementationBranch (type : String) (casts : NameSet) : Writing Unit := do
  text ("T extends '" ++ type ++ "' ? ")
  region .parameters true do
    literal type
    casts.toList.forM fun cast => do
      separatorWith " | "
      text ("ImplementationType<'" ++ cast ++ "'>")
  text " :\n"

def implementationHelper (l : Lineage) : Writing Unit := do
  text "export type ImplementationType<T> ="
  region .blank true do
    l.downcasts.entries.forM fun (type, casts) => implementationBranch type casts
    text "T"
  text ";\n"

/-- The case for one type: go on with each of its casts. -/
def castCase (direction type : String) (casts : NameSet) : Writing Unit := do
  text ("case '" ++ type ++ "':\n")
  region .blank false do
    casts.toList.forM fun cast => text (direction ++ "Types0('" ++ cast ++ "', output);\n")
    text "break;\n"

/-- A function that lists a type with all its casts in one direction. -/
def castFunction (direction : String) (casts : NameGraph) : Writing Unit := do
  text ("export function " ++ direction ++ "Types(typeName: string): string[] ")
  region .block true do
    text "const typeNames: string[] = [];\n"
    text (direction ++ "Types0(typeName, typeNames);\n")
    text "return typeNames;\n"
  text "\n\n"
  text ("function " ++ direction ++ "Types0(typeName: string, output: string[]) ")
  region .block true do
    text "output.push(typeName);\n"
    text "switch (typeName) "
    region .block true do
      casts.entries.forM fun (type, targets) => castCase direction type targets
    text "\n"
  text "\n"

def code (l : Lineage) : Writing Unit := do
  typeNameHelper
  text "\n"
  implementationHelper l
  text "\n"
  castFunction "upcast" l.upcasts
  text "\n"
  castFunction "downcast" l.downcasts

end TypedQuery.CommonTypes
