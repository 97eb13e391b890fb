-- SUMMARY: Hosts of addresses.
import TypedQuery.Error
import TypedQuery.Source.DomainName
import TypedQuery.Text.FromBytes

/-!
# Host names

A host is a domain name or a numeric address. Numeric addresses of the short form are read the way
they are commonly written, with one to four decimal, octal or hexadecimal numbers; those of the long
form stand in brackets. Services of other kinds give their hosts names of their own.
-/
namespace TypedQuery.HostName

/-! ## The short form -/

def isHexDigit (c : Char) : Bool :=
  c.isDigit || ('a' ≤ c && c ≤ 'f') || ('A' ≤ c && c ≤ 'F')

def digitValue (c : Char) : Nat :=
  if c.isDigit then c.toNat - '0'.toNat
  else if 'a' ≤ c then 10 + (c.toNat - 'a'.toNat)
  else 10 + (c.toNat - 'A'.toNat)

/-- The value of digits. -/
def digits? (base : Nat) (cs : List Char) : Option Nat :=
  if cs.all fun c => isHexDigit c && digitValue c < base then
    some (cs.foldl (fun n c => base * n + digitValue c) 0)
  else none

/-- A part of a numeric address: hexadecimal behind `0x`, octal behind another zero, or decimal. -/
def part? : List Char → Option Nat
  | [] => none
  | '0' :: 'x' :: rest => digits? 16 rest
  | '0' :: 'X' :: rest => digits? 16 rest
  | '0' :: c :: rest => digits? 8 (c :: rest)
  | cs => digits? 10 cs

/-- The parts between dots; a dot at the end does not count. -/
def parts (cs : List Char) : List (List Char) :=
  let all := ((String.ofList cs).splitOn ".").map String.toList
  if 1 < all.length && all.getLast? = some [] then all.dropLast else all

/-- The last part is a number, so that the host has to be a numeric address. -/
def isNumeric (cs : List Char) : Bool :=
  match (parts cs).getLast? with
  | none => false
  | some [] => false
  | some last => last.all Char.isDigit || (part? last).isSome

/-- The value of a numeric address: the last number fills what the others, of a byte each, leave. -/
def value? (cs : List Char) : Option Nat :=
  match (parts cs).mapM part? with
  | none => none
  | some numbers =>
    let front := numbers.dropLast
    let last := numbers.getLast?.getD 0
    let room := Nat.pow 256 (4 - front.length)
    if 4 < numbers.length || front.any (255 < ·) || room ≤ last then none
    else some (front.foldl (fun n b => 256 * n + b) 0 * room + last)

/-- A numeric address in its usual spelling. -/
def dotted (value : Nat) : String :=
  ".".intercalate ([3, 2, 1, 0].map fun place => toString (value / Nat.pow 256 place % 256))

/-! ## The long form -/

/-- Up to four hexadecimal digits. -/
def isGroup (cs : List Char) : Bool := !cs.isEmpty && cs.length ≤ 4 && cs.all isHexDigit

/-- A number of a byte without zeros in front. -/
def isByte (cs : List Char) : Bool :=
  !cs.isEmpty && cs.all Char.isDigit && (cs.head? ≠ some '0' || cs.length = 1) &&
    (digits? 10 cs).any (· ≤ 255)

/-- The last two groups can be written as the four bytes of the short form. -/
def isDotted (cs : List Char) : Bool :=
  let bytes := ((String.ofList cs).splitOn ".").map String.toList
  bytes.length = 4 && bytes.all isByte

/-- How many groups there are, the last two possibly in the short form. -/
def groupCount? : List String → Option Nat
  | [] => some 0
  | [g] => if isGroup g.toList then some 1 else if isDotted g.toList then some 2 else none
  | g :: rest => if isGroup g.toList then (groupCount? rest).map (· + 1) else none

/-- The groups of a numeric address of the long form: eight, or fewer around one gap. -/
def isLongForm (cs : List Char) : Bool :=
  let groups (s : String) : List String := if s.isEmpty then [] else s.splitOn ":"
  match (String.ofList cs).splitOn "::" with
  | [whole] => groupCount? (groups whole) = some 8
  | [front, back] =>
    (groups front).all (fun g => isGroup g.toList) &&
      (groupCount? (groups back)).any fun n => (groups front).length + n ≤ 7
  | _ => false

/-- A numeric address of the long form in its brackets. -/
def parseLongForm (cs : List Char) : Except AddressFault String :=
  if cs.getLast? = some ']' && isLongForm ((cs.drop 1).dropLast) then .ok (String.ofList cs)
  else .error .invalidIPv6

/-! ## Hosts -/

/-- The bytes of a text in which a percent sign with two hexadecimal digits stands for a byte. -/
def unescaped : List Char → List UInt8
  | '%' :: a :: b :: rest =>
    if isHexDigit a && isHexDigit b then
      UInt8.ofNat (16 * digitValue a + digitValue b) :: unescaped rest
    else '%'.toUInt8 :: unescaped (a :: b :: rest)
  | c :: rest => c.toString.toUTF8.toList ++ unescaped rest
  | [] => []

/-- Read the host of a service on the web. -/
def parse (cs : List Char) : Except AddressFault String :=
  if cs.head? = some '[' then parseLongForm cs
  else
    match DomainName.parse? (Text.decode none (unescaped cs)) with
    | none => .error .invalidDomain
    | some [] => .error .emptyHost
    | some name =>
      if isNumeric name then
        match value? name with
        | some value => .ok (dotted value)
        | none => .error .invalidIPv4
      else .ok (String.ofList name)

/-- The characters that cannot stand in the host of another service. -/
def isReserved (c : Char) : Bool :=
  c ∈ ['\x00', '\t', '\n', '\r', ' ', '#', '/', ':', '<', '>', '?', '@', '[', '\\', ']', '^', '|']

/-- Read the host of another service. -/
def parseOpaque (cs : List Char) : Except AddressFault String :=
  if cs.head? = some '[' then parseLongForm cs
  else if cs.any isReserved then .error .invalidCharacter
  else .ok (String.ofList cs)

/-- A letter with a colon or a bar: a part of the path to a file. -/
def isDrive : List Char → Bool
  | [letter, mark] => letter.isAlpha && (mark = ':' || mark = '|')
  | _ => false

/-- Read the host of a file, if there is one. -/
def parseOfFile (cs : List Char) : Except AddressFault String :=
  if cs.isEmpty || isDrive cs then .ok "" else parse cs

end TypedQuery.HostName
