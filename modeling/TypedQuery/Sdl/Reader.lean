-- SUMMARY: Reading with one token of lookahead.
import TypedQuery.Sdl.Token

/-!
# Readers

A reader consumes a prefix of a stream of tokens, or fails at the position of the first token that
cannot continue. It decides by the next token alone and never goes back.
-/
namespace TypedQuery.Sdl

/-- Consume some tokens, or fail at a position. -/
abbrev Reader (α : Type) : Type := StateT Stream (Except Position) α

namespace Reader

variable {α : Type}

/-- The next token, left in place. -/
def peek : Reader (Option Token) := fun s =>
  match s with
  | .token t _ _ _ => .ok (some t, s)
  | _ => .ok (none, s)

/-- The position of what comes next. -/
def position : Reader Position := fun s => .ok (s.position, s)

/-- Fail at what comes next. -/
def fail : Reader α := fun s => .error s.position

/-- Fail at an earlier position unless a condition holds. -/
def require (condition : Bool) (earlier : Position) : Reader Unit := fun s =>
  if condition then .ok ((), s) else .error earlier

/-- The next token has to be this one. -/
def expect (t : Token) : Reader Unit := fun s =>
  match s with
  | .token found _ _ rest => if found = t then .ok ((), rest) else .error s.position
  | _ => .error s.position

/-- Consume the next token if it is this one. -/
def accept (t : Token) : Reader Bool := fun s =>
  match s with
  | .token found _ _ rest => if found = t then .ok (true, rest) else .ok (false, s)
  | _ => .ok (false, s)

/-- The next token has to be a name. -/
def name : Reader String := fun s =>
  match s with
  | .token (.name text) _ _ rest => .ok (text, rest)
  | _ => .error s.position

/-- As many items as there are, one after the other; `starts` tells from its first token whether there
is another one. -/
def many (starts : Token → Bool) (item : Reader α) : Reader (List α)
  | .token t p n tail =>
    if starts t then
      match item (.token t p n tail) with
      | .error failed => .error failed
      | .ok (first, rest) =>
        if _h : rest.size < (Stream.token t p n tail).size then
          match many starts item rest with
          | .error failed => .error failed
          | .ok (others, after) => .ok (first :: others, after)
        else .ok ([first], rest)
    else .ok ([], .token t p n tail)
  | s => .ok ([], s)
termination_by s => s.size

/-- At least one item. -/
def many1 (starts : Token → Bool) (item : Reader α) : Reader (List α) := do
  let first ← item
  let others ← many starts item
  return first :: others

/-- Items between an opening and a closing mark, at least one; nothing without the opening mark. -/
def enclosed (opening closing : Char) (starts : Token → Bool) (item : Reader α) :
    Reader (List α) := do
  if ← accept (.mark opening) then
    let items ← many1 starts item
    expect (.mark closing)
    return items
  else return []

/-- Names with a mark between them and optionally another one in front. -/
def separated (separator : Char) : Reader (List String) := do
  let _ ← accept (.mark separator)
  let first ← name
  let others ← many (· = .mark separator) do
    expect (.mark separator)
    name
  return first :: others

end Reader

end TypedQuery.Sdl
