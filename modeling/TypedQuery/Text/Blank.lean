-- SUMMARY: White space, and trimming by it.

/-!
# Blank characters

A character is blank when it has the `White_Space` property. Trimming takes blank characters off an
end of a string and leaves the inside alone.
-/
namespace TypedQuery.Text

/-- The `White_Space` property. -/
def isBlank (c : Char) : Bool :=
  let n := c.toNat
  (0x9 ≤ n && n ≤ 0xd) || n == 0x20 || n == 0x85 || n == 0xa0 || n == 0x1680 ||
    (0x2000 ≤ n && n ≤ 0x200a) || n == 0x2028 || n == 0x2029 || n == 0x202f || n == 0x205f ||
    n == 0x3000

/-- Drop the trailing blank characters. -/
def trimEnd (s : String) : String :=
  String.ofList (s.toList.reverse.dropWhile isBlank).reverse

/-- Drop the leading blank characters. -/
def trimStart (s : String) : String :=
  String.ofList (s.toList.dropWhile isBlank)

/-- Drop the blank characters of both ends. -/
def trim (s : String) : String :=
  trimEnd (trimStart s)

/-- A string without a character that is not blank. -/
def allBlank (s : String) : Bool :=
  s.toList.all isBlank

end TypedQuery.Text
