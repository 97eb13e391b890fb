-- SUMMARY: References to types, as written at fields, arguments and input fields.

/-!
# Type references

A type reference is a name under any nesting of list and non-null wrappers. A non-null reference to a
non-null reference is kept as it is, although no schema text can spell one.
-/
namespace TypedQuery

/-- A reference to a type. -/
inductive TypeRef where
  | named (name : String)
  | list (item : TypeRef)
  | nonNull (inner : TypeRef)
  deriving DecidableEq, Repr, Inhabited

namespace TypeRef

/-- The name under all wrappers. -/
def base : TypeRef → String
  | named name => name
  | list item => item.base
  | nonNull inner => inner.base

/-- A value may be absent unless the outermost wrapper is non-null. -/
def isNullable : TypeRef → Bool
  | nonNull _ => false
  | _ => true

/-- A list, under any number of non-null wrappers. -/
def isList : TypeRef → Bool
  | named _ => false
  | list _ => true
  | nonNull inner => inner.isList

/-- The spelling in the schema language, such as `[ID!]!`. -/
def spelling : TypeRef → String
  | named name => name
  | list item => "[" ++ item.spelling ++ "]"
  | nonNull inner => inner.spelling ++ "!"

end TypeRef

end TypedQuery
