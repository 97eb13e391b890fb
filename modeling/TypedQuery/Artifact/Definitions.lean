-- SUMMARY: The files of enums and input objects.
import TypedQuery.Emit.Writing

/-!
# Enums and input objects

Each enum and each input object is a type in a file of its own.
-/
namespace TypedQuery

open Writing

namespace EnumDef

def location (d : EnumDef) : Location := { folder := .enums, stem := d.name, defines := d.name }

/-- The union of the values, as string literals. -/
def code (d : EnumDef) : Writing Unit := do
  text ("export type " ++ d.name ++ " = ")
  if d.values.isEmpty then text "never"
  else
    region .blank false do
      d.values.forM fun value => do
        separatorWith " | "
        literal value
  text ";\n"

end EnumDef

namespace InputDef

def location (d : InputDef) : Location := { folder := .inputs, stem := d.name, defines := d.name }

def imports (d : InputDef) : Writing Unit := d.fields.forM fun f => importType f.type

/-- An object type with a member for every field. -/
def code (d : InputDef) : Writing Unit := do
  text ("export type " ++ d.name ++ " = ")
  region .block (!d.fields.isEmpty) do
    d.fields.forM fun f => do
      separatorWith ","
      property f.name f.type none
  text ";\n"

end InputDef

end TypedQuery
