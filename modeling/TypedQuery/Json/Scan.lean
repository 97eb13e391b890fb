-- SUMMARY: Scanning JSON text piece by piece.
import TypedQuery.Error

/-!
# Scanning JSON

A scan reads a piece at the front of a text and returns what it read with the text behind it, or the
kind of its first fault. Nothing is built for pieces that nobody asks for, so such pieces may nest as
deeply as they like.
-/
namespace TypedQuery.Json

/-- Read a piece at the front of a text. -/
abbrev Scan (α : Type) : Type := List Char → Except JsonFault (α × List Char)

variable {α σ : Type}

/-- The blanks between the pieces of a text. -/
def isGap (c : Char) : Bool := c = ' ' || c = '\t' || c = '\n' || c = '\r'

def skipGap (cs : List Char) : List Char := cs.dropWhile isGap

/-- Read a fixed word. -/
def word : List Char → Scan Unit
  | [], cs => .ok ((), cs)
  | _ :: _, [] => .error .ended
  | w :: ws, c :: cs => if w = c then word ws cs else .error .malformed

/-! ## Strings -/

/-- The value of a hexadecimal digit. -/
def hexValue? (c : Char) : Option Nat :=
  if c.isDigit then some (c.toNat - '0'.toNat)
  else if 'a' ≤ c && c ≤ 'f' then some (c.toNat - 'a'.toNat + 10)
  else if 'A' ≤ c && c ≤ 'F' then some (c.toNat - 'A'.toNat + 10)
  else none

/-- Four hexadecimal digits. A text of less than four bytes has ended too early. -/
def fourDigits (cs : List Char) : Except JsonFault (Nat × List Char) :=
  if (String.ofList (cs.take 4)).utf8ByteSize < 4 then .error .ended
  else
    match cs with
    | a :: b :: c :: d :: rest =>
      match [a, b, c, d].mapM hexValue? with
      | some digits => .ok (digits.foldl (16 * · + ·) 0, rest)
      | none => .error .malformed
    | _ => .error .malformed

/-- The code unit of the second half of a surrogate pair. -/
def secondHalf : List Char → Except JsonFault (Nat × List Char)
  | [] => .error .ended
  | '\\' :: [] => .error .ended
  | '\\' :: 'u' :: rest =>
    match fourDigits rest with
    | .error fault => .error fault
    | .ok (unit, after) =>
      if 0xdc00 ≤ unit && unit < 0xe000 then .ok (unit, after) else .error .malformed
  | _ => .error .malformed

/-- The character of an escape, read from behind its backslash. Without `pairing`, surrogates are not
looked at and stand for the replacement character. -/
def escape (pairing : Bool) : List Char → Except JsonFault (Char × List Char)
  | [] => .error .ended
  | '"' :: rest => .ok ('"', rest)
  | '\\' :: rest => .ok ('\\', rest)
  | '/' :: rest => .ok ('/', rest)
  | 'b' :: rest => .ok ('\x08', rest)
  | 'f' :: rest => .ok ('\x0c', rest)
  | 'n' :: rest => .ok ('\n', rest)
  | 'r' :: rest => .ok ('\r', rest)
  | 't' :: rest => .ok ('\t', rest)
  | 'u' :: rest =>
    match fourDigits rest with
    | .error fault => .error fault
    | .ok (unit, after) =>
      if unit < 0xd800 || 0xe000 ≤ unit then .ok (Char.ofNat unit, after)
      else if !pairing then .ok ('\ufffd', after)
      else if 0xdc00 ≤ unit then .error .malformed
      else
        match secondHalf after with
        | .error fault => .error fault
        | .ok (low, behind) =>
          .ok (Char.ofNat (0x10000 + (unit - 0xd800) * 0x400 + (low - 0xdc00)), behind)
  | _ => .error .malformed

/-- The inside of a string, read from behind its opening quote. -/
def stringBody (pairing : Bool) (read : List Char) (cs : List Char) :
    Except JsonFault (String × List Char) :=
  match cs with
  | [] => .error .ended
  | '"' :: rest => .ok (String.ofList read.reverse, rest)
  | '\\' :: rest =>
    match escape pairing rest with
    | .error fault => .error fault
    | .ok (c, after) =>
      if _h : after.length < rest.length + 1 then stringBody pairing (c :: read) after
      else .error .malformed
  | c :: rest => if c.toNat < 0x20 then .error .malformed else stringBody pairing (c :: read) rest
termination_by cs.length

/-! ## Numbers -/

/-- The fault of a number that goes on with the wrong character, or with none. -/
def numberFault (exact : Bool) (cs : List Char) : JsonFault :=
  if exact && cs.isEmpty then .ended else .malformed

/-- At least one digit. -/
def digits (exact : Bool) (cs : List Char) : Except JsonFault (List Char × List Char) :=
  match cs.takeWhile Char.isDigit with
  | [] => .error (numberFault exact cs)
  | read => .ok (read, cs.dropWhile Char.isDigit)

/-- The value of decimal digits. -/
def decimal (ds : List Char) : Nat :=
  ds.foldl (fun n d => 10 * n + (d.toNat - '0'.toNat)) 0

/-- Take digits into a number as long as it fits in 64 bits: the number and the digits left over. -/
def gather (n : Nat) : List Char → Nat × List Char
  | [] => (n, [])
  | d :: ds =>
    let next := 10 * n + (d.toNat - '0'.toNat)
    if next < Nat.pow 2 64 then gather next ds else (n, d :: ds)

/-- The nearest number of 53 significant bits, of two equally near ones the even one. -/
def nearestDouble (n : Nat) : Nat :=
  let unit := Nat.pow 2 (n.log2 + 1 - 53)
  let below := n / unit
  let rest := 2 * (n % unit)
  if unit < rest || (rest = unit && below % 2 = 1) then (below + 1) * unit else below * unit

/-- The product of two doubles, for the significand and for the power of ten, is finite. -/
def fitsDouble (significand : Nat) (exponent : Int) : Bool :=
  significand = 0 || exponent < 0 ||
    (exponent ≤ 308 &&
      nearestDouble significand * nearestDouble (Nat.pow 10 exponent.toNat) <
        Nat.pow 2 1024 - Nat.pow 2 970)

/-- The number of these digits and this exponent is in the range of a double. Of the digits, those are
used that fit in 64 bits. -/
def inRange (whole fraction : List Char) (exponent : Int) : Bool :=
  let (n, spilled) := gather 0 whole
  let (significand, unused) := gather n fraction
  fitsDouble significand (exponent + spilled.length - (fraction.length - unused.length))

/-- A number. With `exact`, a number that ends too early is told from a malformed one, and a number
beyond the range of a double is malformed. -/
def number (exact : Bool) (cs : List Char) : Except JsonFault (Unit × List Char) := do
  let cs := if cs.head? = some '-' then cs.tail else cs
  let (whole, rest) ← digits exact cs
  if whole.head? = some '0' && whole.length != 1 then throw .malformed
  let (fraction, rest) ←
    match rest with
    | '.' :: after => digits exact after
    | _ => .ok ([], rest)
  let (exponent, rest) ←
    match rest with
    | c :: after =>
      if c = 'e' || c = 'E' then
        match after with
        | '-' :: unsigned => (digits exact unsigned).map fun (ds, behind) => (-(decimal ds : Int), behind)
        | '+' :: unsigned => (digits exact unsigned).map fun (ds, behind) => ((decimal ds : Int), behind)
        | _ => (digits exact after).map fun (ds, behind) => ((decimal ds : Int), behind)
      else .ok (0, rest)
    | [] => .ok (0, rest)
  if exact && !inRange whole fraction exponent then throw .malformed
  return ((), rest)

/-! ## Members and elements -/

/-- The key of the next member of an object, read up to its closing quote, or the end of the
object. -/
def nextKey (first pairing : Bool) (cs : List Char) :
    Except JsonFault (Option String × List Char) :=
  let key (behind : List Char) : Except JsonFault (Option String × List Char) :=
    (stringBody pairing [] behind).map fun (text, after) => (some text, after)
  match skipGap cs with
  | [] => .error .ended
  | '\x7d' :: rest => .ok (none, rest)
  | '"' :: rest => if first then key rest else .error .malformed
  | ',' :: rest =>
    if first then .error .malformed
    else
      match skipGap rest with
      | [] => .error .ended
      | '"' :: behind => key behind
      | _ => .error .malformed
  | _ => .error .malformed

/-- The colon behind a key. -/
def colon (cs : List Char) : Except JsonFault (Unit × List Char) :=
  match skipGap cs with
  | [] => .error .ended
  | ':' :: rest => .ok ((), rest)
  | _ => .error .malformed

/-- Whether an array has another element, read up to that element or past the end of the array. -/
def nextElement (first : Bool) (cs : List Char) : Except JsonFault (Bool × List Char) :=
  match skipGap cs with
  | [] => .error .ended
  | ']' :: rest => .ok (false, rest)
  | ',' :: rest =>
    if first then .ok (true, ',' :: rest)
    else
      match skipGap rest with
      | [] => .error .ended
      | ']' :: _ => .error .malformed
      | behind => .ok (true, behind)
  | rest => if first then .ok (true, rest) else .error .malformed

/-- The members of an object, from behind its opening brace on. `member` reads one from behind its
key. -/
def members (member : σ → String → Scan σ) (first : Bool) (state : σ) (cs : List Char) :
    Except JsonFault (σ × List Char) :=
  match nextKey first true cs with
  | .error fault => .error fault
  | .ok (none, rest) => .ok (state, rest)
  | .ok (some key, rest) =>
    match member state key rest with
    | .error fault => .error fault
    | .ok (next, after) =>
      if _h : after.length < cs.length then members member false next after
      else .error .malformed
termination_by cs.length

/-- The elements of an array, from behind its opening bracket on. -/
def elements (element : σ → Scan σ) (first : Bool) (state : σ) (cs : List Char) :
    Except JsonFault (σ × List Char) :=
  match nextElement first cs with
  | .error fault => .error fault
  | .ok (false, rest) => .ok (state, rest)
  | .ok (true, rest) =>
    match element state rest with
    | .error fault => .error fault
    | .ok (next, after) =>
      if _h : after.length < cs.length then elements element false next after
      else .error .malformed
termination_by cs.length

/-! ## Values -/

/-- The fault of a value that is not of the type asked for: its own fault if it is malformed. Of an
array or an object only the opening bracket is looked at. -/
def mistyped (cs : List Char) : JsonFault :=
  let otherwise (scanned : Except JsonFault (Unit × List Char)) : JsonFault :=
    match scanned with
    | .error fault => fault
    | .ok _ => .mistyped
  match skipGap cs with
  | [] => .ended
  | 'n' :: rest => otherwise (word "ull".toList rest)
  | 't' :: rest => otherwise (word "rue".toList rest)
  | 'f' :: rest => otherwise (word "alse".toList rest)
  | '"' :: rest => otherwise ((stringBody true [] rest).map fun (_, after) => ((), after))
  | '[' :: _ | '\x7b' :: _ => .mistyped
  | c :: rest =>
    if c = '-' || c.isDigit then otherwise (number true (c :: rest)) else .malformed

/-- A string. -/
def string : Scan String := fun cs =>
  match skipGap cs with
  | '"' :: rest => stringBody true [] rest
  | _ => .error (mistyped cs)

/-- A truth value. -/
def boolean : Scan Bool := fun cs =>
  match skipGap cs with
  | 't' :: rest => (word "rue".toList rest).map fun (_, after) => (true, after)
  | 'f' :: rest => (word "alse".toList rest).map fun (_, after) => (false, after)
  | _ => .error (mistyped cs)

/-- An array, its elements folded into a state. -/
def array (element : σ → Scan σ) (state : σ) : Scan σ := fun cs =>
  match skipGap cs with
  | '[' :: rest => elements element true state rest
  | _ => .error (mistyped cs)

/-- An object, its members folded into a state. -/
def object (member : σ → String → Scan σ) (state : σ) : Scan σ := fun cs =>
  match skipGap cs with
  | '\x7b' :: rest => members member true state rest
  | _ => .error (mistyped cs)

/-- The brackets that close what is open, innermost first, up to the next value: behind a comma, or
behind a key and its colon. Nothing is left to skip when no bracket is open. -/
def skipRest (opened : List Char) (first : Bool) (cs : List Char) :
    Except JsonFault (List Char × List Char) :=
  match opened with
  | [] => .ok ([], cs)
  | closing :: outer =>
    match skipGap cs with
    | [] => .error .ended
    | c :: rest =>
      if c = closing then skipRest outer false rest
      else if c = ',' || first then
        let item := if first then c :: rest else skipGap rest
        if closing = ']' then .ok (closing :: outer, item)
        else
          match item with
          | [] => .error .ended
          | '"' :: behind => do
            let (_, afterKey) ← stringBody false [] behind
            let (_, afterColon) ← colon afterKey
            return (closing :: outer, afterColon)
          | _ => .error .malformed
      else .error .malformed

/-- Any value, with the values behind it inside the brackets that are open around it. -/
def skipValues (opened : List Char) (cs : List Char) : Except JsonFault (Unit × List Char) :=
  let behind : Except JsonFault (List Char × List Char) :=
    match skipGap cs with
    | [] => .error .ended
    | 'n' :: rest => (word "ull".toList rest).bind fun (_, after) => skipRest opened false after
    | 't' :: rest => (word "rue".toList rest).bind fun (_, after) => skipRest opened false after
    | 'f' :: rest => (word "alse".toList rest).bind fun (_, after) => skipRest opened false after
    | '"' :: rest => (stringBody false [] rest).bind fun (_, after) => skipRest opened false after
    | '[' :: rest => skipRest (']' :: opened) true rest
    | '\x7b' :: rest => skipRest ('\x7d' :: opened) true rest
    | c :: rest =>
      if c = '-' || c.isDigit then
        (number false (c :: rest)).bind fun (_, after) => skipRest opened false after
      else .error .malformed
  match behind with
  | .error fault => .error fault
  | .ok ([], after) => .ok ((), after)
  | .ok (still, after) =>
    if _h : after.length < cs.length then skipValues still after else .error .malformed
termination_by cs.length

/-- Any value. -/
def anything : Scan Unit := skipValues []

end TypedQuery.Json
