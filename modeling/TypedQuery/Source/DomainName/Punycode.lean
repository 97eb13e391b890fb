-- SUMMARY: Labels of domain names written in ASCII.

/-!
# Punycode

A label beyond ASCII has a form in ASCII: its characters of ASCII, a hyphen, and the places of the other
characters, in the order of their code points, as numbers whose digits weigh more or less depending on
the numbers before.
-/
namespace TypedQuery.DomainName.Punycode

/-! ## Numbers -/

/-- Letters stand for the digits from 0, decimal digits for those from 26. -/
def digit? (c : Char) : Option Nat :=
  if c.isLower then some (c.toNat - 'a'.toNat)
  else if c.isUpper then some (c.toNat - 'A'.toNat)
  else if c.isDigit then some (26 + (c.toNat - '0'.toNat))
  else none

/-- A digit below the threshold of its place is the last one of its number. -/
def threshold (bias place : Nat) : Nat :=
  if place ≤ bias then 1 else if bias + 26 ≤ place then 26 else place - bias

/-- The words that numbers have to fit in. -/
def wordLimit : Nat := Nat.pow 2 32

/-- Add a number to a sum: the sum and the text behind the number. -/
def addNumber (bias place weight sum : Nat) : List Char → Option (Nat × List Char)
  | [] => none
  | c :: rest =>
    match digit? c with
    | none => none
    | some digit =>
      let next := sum + digit * weight
      let heavier := weight * (36 - threshold bias place)
      if wordLimit ≤ next then none
      else if digit < threshold bias place then some (next, rest)
      else if wordLimit ≤ heavier then none
      else addNumber bias (place + 36) heavier next rest

/-- A number has a digit. -/
theorem length_of_addNumber {bias place weight sum next : Nat} {cs rest : List Char}
    (h : addNumber bias place weight sum cs = some (next, rest)) : rest.length < cs.length := by
  induction cs generalizing place weight sum with
  | nil => simp [addNumber] at h
  | cons c cs ih =>
    rw [addNumber] at h
    split at h
    · contradiction
    · simp only at h
      split at h
      · contradiction
      · split at h
        · obtain ⟨_, rfl⟩ := Prod.mk.inj (Option.some.inj h)
          exact Nat.lt_succ_self _
        · split at h
          · contradiction
          · exact Nat.lt_succ_of_lt (ih h)

/-- Bring a number down to where the bias is found. -/
def damp (number bias : Nat) : Nat :=
  if _h : 455 < number then damp (number / 35) (bias + 36)
  else bias + 36 * number / (number + 38)
termination_by number

/-- The bias of the number after one that placed a character among so many. -/
def adapt (number count : Nat) (first : Bool) : Nat :=
  let half := if first then number / 700 else number / 2
  damp (half + half / count) 0

/-! ## Labels -/

/-- Place the characters of the numbers at the front of a text. `sum` goes on from the place behind
the last character, and counts through all places of a code point before those of the next one. -/
def insertAll (placed : List Char) (code bias sum : Nat) (cs : List Char) : Option (List Char) :=
  if cs.isEmpty then some placed
  else
    match _h : addNumber bias 36 1 sum cs with
    | none => none
    | some (next, rest) =>
      let count := placed.length + 1
      let code := code + next / count
      let place := next % count
      if code.isValidChar then
        insertAll (placed.take place ++ Char.ofNat code :: placed.drop place) code
          (adapt (next - sum) count (sum = 0)) (place + 1) rest
      else none
termination_by cs.length
decreasing_by exact length_of_addNumber _h

/-- The characters of ASCII before the last hyphen, and the numbers behind it. A hyphen in front does
not count. -/
def parts (cs : List Char) : List Char × List Char :=
  let numbers := (cs.reverse.takeWhile (· ≠ '-')).reverse
  match cs.take (cs.length - numbers.length - 1) with
  | [] => ([], cs)
  | plain => (plain, numbers)

/-- The label beyond ASCII that a text stands for. -/
def decode? (cs : List Char) : Option (List Char) :=
  let (plain, numbers) := parts cs
  if numbers.isEmpty then none else insertAll plain 0x80 72 0 numbers

end TypedQuery.DomainName.Punycode
