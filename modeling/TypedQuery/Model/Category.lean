-- SUMMARY: The roles of selectable types and fields.

/-!
# Categories

How generated code treats a type or a field, and the word it uses for that.
-/
namespace TypedQuery

/-- The role of a selectable type. -/
inductive TypeCategory where
  | object | connection | edge
  deriving DecidableEq, Repr

/-- The word for the category in generated code. -/
def TypeCategory.word : TypeCategory → String
  | object => "OBJECT"
  | connection => "CONNECTION"
  | edge => "EDGE"

/-- The role of a selectable field. -/
inductive FieldCategory where
  | id | scalar | reference | list | connection
  deriving DecidableEq, Repr

/-- The word for the category in generated code. -/
def FieldCategory.word : FieldCategory → String
  | id => "ID"
  | scalar => "SCALAR"
  | reference => "REFERENCE"
  | list => "LIST"
  | connection => "CONNECTION"

end TypedQuery
