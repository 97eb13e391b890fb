-- SUMMARY: Text from bytes that need not be text.

/-!
# Text from bytes

Bytes are read as UTF-8. Where they are no text, a replacement character stands for every longest part
that could have begun a character, and for every byte that cannot begin one.
-/
namespace TypedQuery.Text

/-- The replacement character. -/
def replacement : Char := '\uFFFD'

/-- What has been read of a character: its bits so far, how many bytes are missing, and the range of
the next one. -/
structure Unfinished where
  bits : Nat
  missing : Nat
  low : Nat
  high : Nat
  deriving DecidableEq, Repr

/-- A byte at the start of a character. -/
def firstByte (b : Nat) : List Char × Option Unfinished :=
  if b < 0x80 then ([Char.ofNat b], none)
  else if 0xC2 ≤ b && b ≤ 0xDF then ([], some ⟨b - 0xC0, 1, 0x80, 0xBF⟩)
  else if 0xE0 ≤ b && b ≤ 0xEF then
    ([], some ⟨b - 0xE0, 2, if b = 0xE0 then 0xA0 else 0x80, if b = 0xED then 0x9F else 0xBF⟩)
  else if 0xF0 ≤ b && b ≤ 0xF4 then
    ([], some ⟨b - 0xF0, 3, if b = 0xF0 then 0x90 else 0x80, if b = 0xF4 then 0x8F else 0xBF⟩)
  else ([replacement], none)

/-- The next byte: the characters that it ends, and what is unfinished after it. -/
def nextByte (u : Option Unfinished) (b : Nat) : List Char × Option Unfinished :=
  match u with
  | none => firstByte b
  | some u =>
    if u.low ≤ b && b ≤ u.high then
      let bits := u.bits * 64 + (b - 0x80)
      if u.missing ≤ 1 then ([Char.ofNat bits], none)
      else ([], some ⟨bits, u.missing - 1, 0x80, 0xBF⟩)
    else
      let (cs, after) := firstByte b
      (replacement :: cs, after)

/-- The characters of bytes behind an unfinished character. -/
def decode (u : Option Unfinished) : List UInt8 → List Char
  | [] => if u.isSome then [replacement] else []
  | b :: rest =>
    let (cs, after) := nextByte u b.toNat
    cs ++ decode after rest

/-- The text of bytes. -/
def fromBytes (bytes : ByteArray) : String := String.ofList (decode none bytes.toList)

end TypedQuery.Text
