-- SUMMARY: Which reports are shown.
import TypedQuery.Event
import TypedQuery.Text.Alphanumeric
import TypedQuery.Text.Blank

/-!
# Log filters

A filter is a list of directives with commas between them. A directive names a part of the program and
the least severe report of that part that is shown, as in `part=level`; either of them can be left out.
In brackets it can ask for a span around the report, and in braces for a field that the report has, as
in `part[span\x7bfield\x7d]=level`. Directives that cannot be read are left out, with a warning.

Reports are made outside of spans and have one field, their message.
-/
namespace TypedQuery

/-- What is shown of the parts of the program whose name begins with a text. -/
structure LogRule where
  part : String := ""
  /-- A field that the reports have. -/
  field : Option String := none
  rank : Nat := 5
  deriving DecidableEq, Repr

/-- A directive that can be read. -/
inductive LogDirective where
  | rule (r : LogRule)
  /-- It is about spans alone. -/
  | spans
  deriving DecidableEq, Repr

/-- Why a directive cannot be read. -/
inductive LogFault where
  | malformed
  | noLevel
  deriving DecidableEq, Repr

def LogFault.message : LogFault → String
  | malformed => "invalid filter directive"
  | noLevel =>
    "error parsing level filter: expected one of \"off\", \"error\", \"warn\", \"info\", " ++
      "\"debug\", \"trace\", or a number 0-5"

/-! ## Levels -/

/-- A level by its number, possibly with a plus sign and zeros in front. -/
def numericRank? (word : List Char) : Option Nat :=
  let digits := if word.head? = some '+' then word.tail else word
  if digits.isEmpty || !digits.all Char.isDigit then none
  else
    let value := digits.foldl (fun n c => 10 * n + (c.toNat - '0'.toNat)) 0
    if value ≤ 5 then some value else none

/-- A level by its number or name. -/
def levelRank? (word : String) : Option Nat :=
  match word.map Char.toLower with
  | "off" => some 0
  | "error" => some 1
  | "warn" => some 2
  | "info" => some 3
  | "debug" => some 4
  | "trace" => some 5
  | _ => numericRank? word.toList

/-! ## Directives -/

namespace LogDirective

/-- Without the characters that take up the first bytes. -/
def dropBytes (size : Nat) : List Char → List Char
  | [] => []
  | c :: rest => if size = 0 then c :: rest else dropBytes (size - c.utf8Size) rest

/-- The characters that take up the first bytes. -/
def takeBytes (size : Nat) : List Char → List Char
  | [] => []
  | c :: rest => if size = 0 then [] else c :: takeBytes (size - c.utf8Size) rest

def byteSize (cs : List Char) : Nat := cs.foldl (fun n c => n + c.utf8Size) 0

/-- Some bytes of a text, counted from its start. -/
def slice (whole : List Char) (start size : Nat) : String :=
  String.ofList (takeBytes size (dropBytes start whole))

/-- A level that goes on to the end; left out, it shows everything. -/
def level (whole : List Char) (start : Nat) : Except LogFault Nat :=
  match dropBytes start whole with
  | [] => .ok 5
  | cs =>
    match levelRank? (String.ofList cs) with
    | some rank => .ok rank
    | none => .error .noLevel

/-- The level behind a bracket, if there is one. -/
def levelBehind (whole : List Char) (start : Nat) : List Char → Except LogFault Nat
  | [] => .ok 5
  | '=' :: _ => level whole (start + 1)
  | _ => .error .malformed

/-- A directive from behind its opening bracket on. -/
def bracketed (whole : List Char) (part : String) (start : Nat) (inside : List Char) :
    Except LogFault LogDirective :=
  let name := inside.takeWhile fun c => c ≠ ']' && c ≠ '\x7b'
  let named := start + byteSize name
  match inside.drop name.length with
  | ']' :: rest => (levelBehind whole (named + 1) rest).map fun _ => .spans
  | '\x7b' :: rest =>
    let field := rest.takeWhile (· ≠ '\x7d')
    let closed := named + 1 + byteSize field
    match rest.drop field.length with
    | '\x7d' :: ']' :: behind =>
      if field.isEmpty then .error .malformed
      else
        let text := slice whole (named + 1) (byteSize field)
        (levelBehind whole (closed + 2) behind).map fun rank =>
          if name.isEmpty && !text.contains '=' then .rule ⟨part, some text, rank⟩ else .spans
    | _ => .error .malformed
  | _ => .error .malformed

/-- The name of a part can begin with this character. -/
def startsPart (c : Char) : Bool := c = '-' || c = ':' || c = '_' || Text.isAlphanumeric c

/-- A directive of one word: a level, or a part that is shown with everything. -/
def word (text : String) : LogRule :=
  match levelRank? text with
  | some rank => { rank }
  | none => { part := text }

/-- Read a directive. Where its pieces are is found without the blanks at its ends; they are taken
from the same places of the whole text. -/
def read (text : String) : Except LogFault LogDirective :=
  let whole := text.toList
  match (Text.trim text).toList with
  | [] => .error .malformed
  | '[' :: inside => bracketed whole "" 1 inside
  | c :: rest =>
    if !startsPart c then .error .malformed
    else
      let part := (c :: rest).takeWhile fun c => c ≠ '=' && c ≠ '['
      let size := byteSize part
      match (c :: rest).drop part.length with
      | [] => .ok (.rule (word text))
      | '[' :: inside => bracketed whole (slice whole 0 size) (size + 1) inside
      | _ => (level whole (size + 1)).map fun rank => .rule { part := slice whole 0 size, rank }

/-- The rule of a directive about more than spans. -/
def rule? : LogDirective → Option LogRule
  | rule r => some r
  | spans => none

end LogDirective

/-! ## Filters -/

/-- The rules that decide which reports are shown, and the warnings about the other directives. -/
structure LogFilter where
  rules : List LogRule
  warnings : List String := []
  deriving DecidableEq, Repr

namespace LogFilter

/-- Only errors are shown unless a directive says otherwise. -/
def usual : List LogRule := [{ rank := 1 }]

/-- The filter of a text. -/
def parse (text : String) : LogFilter :=
  let read := ((text.splitOn ",").filter (!·.isEmpty)).map fun piece =>
    (piece, LogDirective.read piece)
  let directives := read.filterMap (·.2.toOption)
  { rules := if directives.isEmpty then usual else directives.filterMap LogDirective.rule?
    warnings := read.filterMap fun
      | (piece, .error fault) => some ("ignoring \x60" ++ piece ++ "\x60: " ++ fault.message)
      | _ => none }

/-- The filter that a user asks for, if any. -/
def ofSetting (text : Option String) : LogFilter := parse (text.getD "")

/-- The rule is about the report. -/
def concerns (r : LogRule) (e : Event) : Bool :=
  e.origin.startsWith r.part && r.field.all (· = "message")

/-- The first rule is about more than the second one. -/
def isBroader (a b : LogRule) : Bool :=
  a.part.length < b.part.length ||
    (a.part.length = b.part.length && a.field.isNone && b.field.isSome)

/-- The narrower of two rules, of equally narrow ones the later one. -/
def narrower (a : Option LogRule) (b : LogRule) : Option LogRule :=
  if a.any (isBroader b) then a else some b

/-- The report is shown: the narrowest rule about it lets it through. -/
def admits (f : LogFilter) (e : Event) : Bool :=
  ((f.rules.filter (concerns · e)).foldl narrower none).any fun r => e.severity.rank ≤ r.rank

end LogFilter

end TypedQuery
