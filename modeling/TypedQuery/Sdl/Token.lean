-- SUMMARY: The tokens of a schema text.
import TypedQuery.Sdl.Position

/-!
# Tokens

A schema text is read as a stream of placed tokens. The stream ends at the end of the text, or at the
first place where no token can be read.
-/
namespace TypedQuery.Sdl

/-- A token; the values of numbers and strings are of no use to a schema. -/
inductive Token where
  | mark (c : Char)
  | spread
  | name (text : String)
  | number
  | string
  deriving DecidableEq, Repr

/-- Placed tokens, up to the end of a text or up to a fault in it. Every token comes with the number of
tokens that follow it. -/
inductive Stream where
  | finish (position : Position)
  | fault (position : Position)
  | token (t : Token) (position : Position) (following : Nat) (rest : Stream)
  deriving DecidableEq, Repr

namespace Stream

/-- The place of what comes next. -/
def position : Stream → Position
  | finish p => p
  | fault p => p
  | token _ p _ _ => p

/-- The number of tokens. -/
def size : Stream → Nat
  | finish _ => 0
  | fault _ => 0
  | token _ _ following _ => following + 1

/-- A token in front of a stream. -/
def cons (t : Token) (position : Position) (rest : Stream) : Stream :=
  token t position rest.size rest

@[simp] theorem size_cons {t : Token} {p : Position} {rest : Stream} :
    (cons t p rest).size = rest.size + 1 := rfl

end Stream

/-! ## Classes of characters -/

/-- Names begin with an ASCII letter or an underscore. -/
def isNameStart (c : Char) : Bool := c.isAlpha || c = '_'

/-- Names go on with ASCII letters, digits and underscores. -/
def isNameChar (c : Char) : Bool := c.isAlphanum || c = '_'

/-- The marks that are a token by themselves and open nothing. -/
def isPlainMark (c : Char) : Bool := c ∈ ['!', '$', ':', '=', '@', '|', '&']

def isOpening (c : Char) : Bool := c ∈ ['(', '[', '\x7b']

def isClosing (c : Char) : Bool := c ∈ [')', ']', '\x7d']

/-- The characters that end a number. -/
def endsNumber (c : Char) : Bool :=
  isPlainMark c || isOpening c || isClosing c || c ∈ [' ', '\n', '\r', '\t', ',', '#']

/-! ## Numbers -/

/-- Decimal digits and nothing else. -/
def isDigits (cs : List Char) : Bool := cs.all Char.isDigit

/-- Digits without a superfluous leading zero, after at most one minus sign. -/
def isWhole (cs : List Char) : Bool :=
  match (if cs.head? = some '-' then cs.tail else cs) with
  | [] => false
  | ['0'] => true
  | first :: rest => first.isDigit && first != '0' && isDigits rest

/-- The value of a whole number. -/
def wholeValue (cs : List Char) : Int :=
  let digits (ds : List Char) : Nat := ds.foldl (fun n d => 10 * n + (d.toNat - '0'.toNat)) 0
  match cs with
  | '-' :: rest => -(digits rest : Int)
  | _ => digits cs

/-- The value fits a signed word of 64 bits. -/
def fitsWord (n : Int) : Bool := -0x8000000000000000 ≤ n && n < 0x8000000000000000

/-- An exponent: a sign with digits after it, or digits of which the first is from one to eight. -/
def isExponent : List Char → Bool
  | [] => false
  | first :: rest =>
    if first = '-' || first = '+' then !rest.isEmpty && isDigits rest
    else '1' ≤ first && first ≤ '8' && isDigits rest

/-- The part before the last character that satisfies a test, and the part after it. -/
def splitLast? (test : Char → Bool) (cs : List Char) : Option (List Char × List Char) :=
  let tail := (cs.reverse.takeWhile (!test ·)).reverse
  if tail.length < cs.length then some (cs.take (cs.length - tail.length - 1), tail) else none

/-- A number is well formed when it is a word-sized whole number, or a whole number with a fraction,
an exponent, or a fraction and an exponent. -/
def isNumber : List Char → Bool
  | [] => false
  | first :: rest =>
    let isE (c : Char) : Bool := c = 'e' || c = 'E'
    match splitLast? isE rest, splitLast? (· = '.') rest with
    | none, none => isWhole (first :: rest) && fitsWord (wholeValue (first :: rest))
    | none, some (whole, fraction) =>
      isWhole (first :: whole) && !fraction.isEmpty && isDigits fraction
    | some (mantissa, exponent), none => isWhole (first :: mantissa) && isExponent exponent
    | some (mantissa, exponent), some _ =>
      match splitLast? (· = '.') mantissa with
      | some (whole, fraction) =>
        !exponent.contains '.' && isWhole (first :: whole) && !fraction.isEmpty &&
          isDigits fraction && isExponent exponent
      | none => false

/-! ## Strings -/

/-- The inside of a string and the text after its closing quote. A string ends on its line. -/
def splitString (escaped : Bool) : List Char → Option (List Char × List Char)
  | [] => none
  | c :: rest =>
    if c = '\n' then none
    else if c = '"' && !escaped then some ([], rest)
    else (splitString (c = '\\' && !escaped) rest).map fun (inside, after) => (c :: inside, after)

/-- The inside of a block string and the text after its closing quotes. Closing quotes that follow a
backslash belong to the inside. -/
def splitBlock (escaped : Bool) : List Char → Option (List Char × List Char)
  | '"' :: '"' :: '"' :: rest =>
    if escaped then
      (splitBlock false rest).map fun (inside, after) => ('"' :: '"' :: '"' :: inside, after)
    else some ([], rest)
  | c :: rest => (splitBlock (c = '\\') rest).map fun (inside, after) => (c :: inside, after)
  | [] => none

/-- The value of a hexadecimal digit. -/
def hexValue? (c : Char) : Option Nat :=
  if c.isDigit then some (c.toNat - '0'.toNat)
  else if 'a' ≤ c && c ≤ 'f' then some (c.toNat - 'a'.toNat + 10)
  else if 'A' ≤ c && c ≤ 'F' then some (c.toNat - 'A'.toNat + 10)
  else none

/-- Four characters that spell a code point: hexadecimal digits, or a plus sign and three of them. -/
def codePoint? (cs : List Char) : Option Nat :=
  let digits := if cs.head? = some '+' then cs.tail else cs
  (digits.mapM hexValue?).map (·.foldl (16 * · + ·) 0)

/-- Every backslash begins one of the known escapes. -/
def escapesValid : List Char → Bool
  | [] => true
  | '\\' :: 'u' :: a :: b :: c :: d :: rest =>
    match codePoint? [a, b, c, d] with
    | some n => (n < 0xd800 || 0xe000 ≤ n) && escapesValid rest
    | none => false
  | '\\' :: c :: rest => c ∈ ['"', '\\', '/', 'b', 'f', 'n', 'r', 't'] && escapesValid rest
  | ['\\'] => false
  | _ :: rest => escapesValid rest

/-! ## Scanning -/

/-- The text after a comment, and whether a line break ended it. -/
def skipComment : List Char → Option (List Char)
  | [] => none
  | c :: rest => if c = '\n' || c = '\r' then some rest else skipComment rest

theorem length_of_skipComment {cs rest : List Char} (h : skipComment cs = some rest) :
    rest.length < cs.length := by
  fun_induction skipComment cs with
  | case1 => simp at h
  | case2 => cases h; simp
  | case3 _ _ _ ih => exact Nat.lt_succ_of_lt (ih h)

theorem length_of_splitString {escaped : Bool} {cs inside rest : List Char}
    (h : splitString escaped cs = some (inside, rest)) : rest.length < cs.length := by
  fun_induction splitString escaped cs generalizing inside with
  | case1 => simp at h
  | case2 => simp at h
  | case3 => cases h; simp
  | case4 _ _ _ _ _ ih =>
    obtain ⟨_, hsplit, heq⟩ := Option.map_eq_some_iff.1 h
    cases heq
    exact Nat.lt_succ_of_lt (ih hsplit)

theorem length_of_splitBlock {escaped : Bool} {cs inside rest : List Char}
    (h : splitBlock escaped cs = some (inside, rest)) : rest.length < cs.length := by
  fun_induction splitBlock escaped cs generalizing inside with
  | case1 _ ih =>
    obtain ⟨_, hsplit, heq⟩ := Option.map_eq_some_iff.1 h
    cases heq
    have := ih hsplit
    simp only [List.length_cons]
    omega
  | case2 => cases h; simp only [List.length_cons]; omega
  | case3 _ _ _ _ ih =>
    obtain ⟨_, hsplit, heq⟩ := Option.map_eq_some_iff.1 h
    cases heq
    exact Nat.lt_succ_of_lt (ih hsplit)
  | case4 => simp at h

theorem length_dropWhile_le (test : Char → Bool) (cs : List Char) :
    (cs.dropWhile test).length ≤ cs.length :=
  (List.dropWhile_suffix test).length_le

/-- A string or block string at a position, read from behind its first quote: the place behind it and
the text after it. -/
def scanString (p : Position) : List Char → Option (Position × List Char)
  | '"' :: '"' :: inner =>
    (splitBlock false inner).map fun (inside, after) =>
      ((inside.foldl Position.step (p.advance 3)).advance 3, after)
  | cs =>
    match splitString false cs with
    | some (inside, after) =>
      if escapesValid inside then some (p.advance (inside.length + 2), after) else none
    | none => none

theorem length_of_scanString {p next : Position} {cs rest : List Char}
    (h : scanString p cs = some (next, rest)) : rest.length < cs.length := by
  unfold scanString at h
  split at h
  · obtain ⟨_, hsplit, heq⟩ := Option.map_eq_some_iff.1 h
    cases heq
    have := length_of_splitBlock hsplit
    simp only [List.length_cons]
    omega
  · split at h
    · next hsplit =>
      split at h
      · cases h; exact length_of_splitString hsplit
      · simp at h
    · simp at h

/-- The stream of a text that begins at a position, with at most `room` further brackets open at a
time. -/
def scan (room : Nat) (p : Position) : List Char → Stream
  | [] => .finish p
  | c :: rest =>
    if c = ' ' || c = ',' then scan room (p.advance 1) rest
    else if c = '\t' then scan room (p.advance 8) rest
    else if c = '\n' then scan room p.nextLine rest
    else if c = '\r' || c = '\ufeff' then scan room p rest
    else if c = '#' then
      match _h : skipComment rest with
      | some after => scan room p.nextLine after
      | none => .finish p
    else if isPlainMark c then .cons (.mark c) p (scan room (p.advance 1) rest)
    else if isOpening c then
      match room with
      | 0 => .fault p
      | left + 1 => .cons (.mark c) p (scan left (p.advance 1) rest)
    else if isClosing c then .cons (.mark c) p (scan (room + 1) (p.advance 1) rest)
    else if c = '.' then
      match rest with
      | '.' :: '.' :: after => .cons .spread p (scan room (p.advance 3) after)
      | _ => .fault p
    else if isNameStart c then
      let more := rest.takeWhile isNameChar
      .cons (.name (String.ofList (c :: more))) p
        (scan room (p.advance (more.length + 1)) (rest.dropWhile isNameChar))
    else if c = '-' || c.isDigit then
      let more := rest.takeWhile (!endsNumber ·)
      if isNumber (c :: more) then
        .cons .number p
          (scan room (p.advance (more.length + 1)) (rest.dropWhile (!endsNumber ·)))
      else .fault p
    else if c = '"' then
      match _h : scanString p rest with
      | some (next, after) => .cons .string p (scan room next after)
      | none => .fault p
    else .fault p
termination_by cs => cs.length
decreasing_by
  all_goals simp only [List.length_cons]
  all_goals try omega
  · have := length_of_skipComment _h; omega
  · have := length_dropWhile_le isNameChar rest; omega
  · have := length_dropWhile_le (!endsNumber ·) rest; omega
  · have := length_of_scanString _h; omega

/-- At most this many brackets are open at a time. -/
def bracketLimit : Nat := 50

/-- The stream of a whole text. -/
def Stream.ofText (text : String) : Stream :=
  scan bracketLimit .start text.toList

end TypedQuery.Sdl
