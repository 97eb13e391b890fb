-- SUMMARY: Places in a schema text.

/-!
# Positions

A place in a schema text, as lines and columns from one. A tab is eight columns wide.
-/
namespace TypedQuery.Sdl

/-- A line and a column. -/
structure Position where
  line : Nat
  column : Nat
  deriving DecidableEq, Repr

namespace Position

/-- Where a text begins. -/
def start : Position := ⟨1, 1⟩

/-- Further along the same line. -/
def advance (p : Position) (columns : Nat) : Position := ⟨p.line, p.column + columns⟩

/-- The beginning of the next line. -/
def nextLine (p : Position) : Position := ⟨p.line + 1, 1⟩

/-- Past one character of a block string. -/
def step (p : Position) (c : Char) : Position :=
  if c = '\n' then p.nextLine else p.advance 1

end Position

end TypedQuery.Sdl
