-- SUMMARY: Addresses of schema services.
import TypedQuery.Source.HostName

/-!
# Addresses

An absolute address is read as far as a request needs it: its scheme, its host with the number behind
it, and the path with the query that is asked for. What a user gives is normalised on the way:
backslashes count as slashes, dots in the path are resolved, and characters that cannot stand in a
request are encoded.
-/
namespace TypedQuery

/-- An absolute address. -/
structure Address where
  scheme : String
  host : String
  /-- The number behind the host. -/
  portNumber : Option Nat
  /-- The path with the query behind it. -/
  target : String
  deriving DecidableEq, Repr

namespace Address

/-! ## Percent encoding -/

/-- Two hexadecimal digits in upper case. -/
def hexByte (b : UInt8) : List Char :=
  let digit (n : Nat) : Char := Char.ofNat (if n < 10 then '0'.toNat + n else 'A'.toNat + (n - 10))
  [digit (b.toNat / 16), digit (b.toNat % 16)]

/-- The bytes of a character, each behind a percent sign. -/
def percent (c : Char) : List Char :=
  c.toString.toUTF8.toList.flatMap fun b => '%' :: hexByte b

/-- Encode the control characters, the characters beyond ASCII, and those in a list. -/
def encode (special : List Char) (cs : List Char) : List Char :=
  cs.flatMap fun c =>
    if c.toNat ≤ 0x1f || 0x7f ≤ c.toNat || c ∈ special then percent c else [c]

/-- What is encoded in a path. -/
def pathSpecials : List Char := [' ', '"', '#', '<', '>', '?', '\x60', '\x7b', '\x7d']

/-- What is encoded in a query. -/
def querySpecials : List Char := [' ', '"', '#', '<', '>', '\'']

/-! ## Paths -/

def isSlash (c : Char) : Bool := c = '/' || c = '\\'

/-- The segments between slashes. -/
def segments : List Char → List (List Char)
  | [] => [[]]
  | c :: rest =>
    if isSlash c then [] :: segments rest
    else
      match segments rest with
      | [] => [[c]]
      | first :: others => (c :: first) :: others

/-- A segment in lower case with its encoded dots decoded. -/
def dots (segment : List Char) : String :=
  ((String.ofList segment).map Char.toLower).replace "%2e" "."

/-- Resolve the segments that are dots. `done` holds the segments before, last one first. -/
def resolve (done : List (List Char)) : List (List Char) → List (List Char)
  | [] => done.reverse
  | segment :: rest =>
    if dots segment = "." then resolve (if rest.isEmpty then [] :: done else done) rest
    else if dots segment = ".." then
      resolve (if rest.isEmpty then [] :: done.drop 1 else done.drop 1) rest
    else resolve (segment :: done) rest

/-- A path as it is asked for. -/
def normalPath (cs : List Char) : List Char :=
  let inner := if cs.head?.any isSlash then cs.tail else cs
  (resolve [] (segments inner)).flatMap fun segment => '/' :: encode pathSpecials segment

/-! ## Numbers behind hosts -/

/-- Split behind the first bracketed part, or before the first colon outside of brackets. -/
def splitPort (bracketed : Bool) : List Char → List Char × List Char
  | [] => ([], [])
  | c :: rest =>
    if c = ':' && !bracketed then ([], c :: rest)
    else
      let inside := if c = '[' then true else if c = ']' then false else bracketed
      let (host, behind) := splitPort inside rest
      (c :: host, behind)

/-- The number behind its colon; it can be left out, and a backslash ends it. -/
def checkPort (cs : List Char) : Except AddressFault (Option Nat) :=
  let digits := (cs.drop 1).takeWhile Char.isDigit
  let value := digits.foldl (fun n c => 10 * n + (c.toNat - '0'.toNat)) 0
  if 65535 < value || ((cs.drop 1).dropWhile Char.isDigit).head?.any (· ≠ '\\') then
    .error .invalidPort
  else .ok (if digits.isEmpty then none else some value)

/-! ## Parts of addresses -/

/-- What an address needs, according to its scheme. -/
inductive Kind where
  /-- A host behind slashes. -/
  | web
  /-- A host behind two slashes, or none. -/
  | file
  /-- A host of any form behind two slashes, or none. -/
  | other
  deriving DecidableEq, Repr

def kind (scheme : String) : Kind :=
  if scheme ∈ ["http", "https", "ws", "wss", "ftp"] then .web
  else if scheme = "file" then .file
  else .other

def isSchemeChar (c : Char) : Bool := c.isAlphanum || c = '+' || c = '-' || c = '.'

/-- The scheme before the first colon, and what follows. -/
def splitScheme? (cs : List Char) : Option (String × List Char) :=
  let name := cs.takeWhile isSchemeChar
  match cs.dropWhile isSchemeChar with
  | ':' :: rest =>
    if name.head?.any Char.isAlpha then some ((String.ofList name).map Char.toLower, rest) else none
  | _ => none

/-- Without control characters and blanks at the ends, and without tabs and line breaks anywhere. -/
def trimmed (text : String) : List Char :=
  let outer (c : Char) : Bool := c.toNat ≤ 0x20
  let front := text.toList.dropWhile outer
  (front.reverse.dropWhile outer).reverse.filter fun c => c ≠ '\t' && c ≠ '\n' && c ≠ '\r'

/-- The character ends the part with the host. -/
def endsAuthority (k : Kind) (c : Char) : Bool :=
  c = '/' || c = '?' || c = '#' || (k ≠ .other && c = '\\')

/-- The user before the last `@`, if there is one, and what follows. -/
def splitUser (cs : List Char) : Option (List Char) × List Char :=
  let back := (cs.reverse.takeWhile (· ≠ '@')).reverse
  if back.length = cs.length then (none, cs)
  else (some (cs.take (cs.length - back.length - 1)), back)

/-- A user is named: there is more than the colon in front of a password. -/
def namesUser (user : Option (List Char)) : Bool :=
  user.any fun cs => !cs.isEmpty && cs ≠ [':']

/-- The host, and the number behind it, of the part of an address that holds them. `more` tells that
the address goes on behind that part. A user and a number need a host. -/
def readAuthority (k : Kind) (authority : List Char) (more : Bool) :
    Except AddressFault (String × Option Nat) := do
  let (user, place) := splitUser authority
  if user = some [] && place.isEmpty && more then throw .emptyHost
  let (hostPart, portPart) := splitPort false place
  let host ← if k = .other then HostName.parseOpaque hostPart else HostName.parse hostPart
  if host.isEmpty && (!portPart.isEmpty || namesUser user) then throw .emptyHost
  let portNumber ← checkPort portPart
  return (host, portNumber)

/-! ## Addresses -/

/-- Host, number and target behind the slashes. -/
def ofAuthority (scheme : String) (cs : List Char) : Except AddressFault Address := do
  let ends := endsAuthority (kind scheme)
  let rest := cs.dropWhile (!ends ·)
  let (host, portNumber) ← readAuthority (kind scheme) (cs.takeWhile (!ends ·)) !rest.isEmpty
  let path := rest.takeWhile fun c => c ≠ '?' && c ≠ '#'
  let query :=
    match rest.dropWhile fun c => c ≠ '?' && c ≠ '#' with
    | '?' :: more => '?' :: encode querySpecials (more.takeWhile (· ≠ '#'))
    | _ => []
  return { scheme, host, portNumber, target := String.ofList (normalPath path ++ query) }

/-- An address without a host. It has no target, for nothing can be asked for. -/
def hostless (scheme : String) : Address := { scheme, host := "", portNumber := none, target := "" }

/-- The address of a file behind the slashes. -/
def ofFile (cs : List Char) : Except AddressFault Address := do
  let host ← HostName.parseOfFile (cs.takeWhile (!endsAuthority .file ·))
  return { hostless "file" with host }

/-- Read an absolute address. -/
def parse (text : String) : Except AddressFault Address :=
  match splitScheme? (trimmed text) with
  | none => .error .noScheme
  | some (scheme, rest) =>
    match kind scheme, rest with
    | .web, _ => ofAuthority scheme (rest.dropWhile isSlash)
    | .file, a :: b :: more => if isSlash a && isSlash b then ofFile more else .ok (hostless scheme)
    | .other, '/' :: '/' :: more => ofAuthority scheme more
    | _, _ => .ok (hostless scheme)

/-- Requests can be sent to the address. -/
def isWeb (a : Address) : Bool := a.scheme = "http" || a.scheme = "https"

end Address

end TypedQuery
