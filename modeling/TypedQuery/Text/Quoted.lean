-- SUMMARY: Strings shown between double quotes, with escapes.
import TypedQuery.Text.Printable

/-!
# Quoted strings

The form in which messages show a string: between double quotes, with short escapes for the usual
control characters and a hexadecimal escape for every other character that is not printable.
-/
namespace TypedQuery.Text

/-- One character inside double quotes. -/
def quoteChar (c : Char) : String :=
  if c = '\x00' then "\\0"
  else if c = '\t' then "\\t"
  else if c = '\r' then "\\r"
  else if c = '\n' then "\\n"
  else if c = '"' then "\\\""
  else if c = '\\' then "\\\\"
  else if isPrintable c then c.toString
  else "\\u\x7b" ++ String.ofList (Nat.toDigits 16 c.toNat) ++ "\x7d"

/-- A string between double quotes. -/
def quote (s : String) : String :=
  "\"" ++ String.join (s.toList.map quoteChar) ++ "\""

end TypedQuery.Text
