-- SUMMARY: Sets of characters given by ranges.

/-!
# Ranges

A set of characters is listed as inclusive ranges of code points in ascending order.
-/
namespace TypedQuery.Text

/-- The character lies in one of these ranges of code points. -/
def inRanges (ranges : List (Nat × Nat)) (c : Char) : Bool :=
  ranges.any fun (first, last) => first ≤ c.toNat && c.toNat ≤ last

end TypedQuery.Text
