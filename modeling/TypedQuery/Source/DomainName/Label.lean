-- SUMMARY: The labels of domain names.
import TypedQuery.Source.DomainName.Composition
import TypedQuery.Source.DomainName.Folding
import TypedQuery.Source.DomainName.Punycode
import TypedQuery.Text.Direction
import TypedQuery.Text.Joining

/-!
# Labels

The parts of a domain name between its dots. A label does not begin with a mark, holds letters together
or apart only where that can be seen, and in a name with letters that are written to the left it is
written in one direction.
-/
namespace TypedQuery.DomainName

open Text

/-! ## Joiners -/

/-- The first character that counts passes a test. -/
def nextIs (test : Char → Bool) (cs : List Char) : Bool :=
  (cs.dropWhile fun c => isTransparent c && !test c).head?.any test

/-- The joiners stand where they have an effect. `before` holds the characters in front, last one
first. -/
def joinersHold (before : List Char) : List Char → Bool
  | [] => true
  | c :: rest =>
    let holds :=
      !isJoiner c || before.head?.any isVirama ||
        (c = '\u200c' && nextIs joinsBehind before && nextIs joinsFront rest)
    holds && joinersHold (c :: before) rest

/-! ## Directions -/

/-- The label makes a name one whose directions are looked at. -/
def turns (label : List Char) : Bool :=
  label.any fun c => direction c = .toLeft || direction c = .arabicNumber

/-- The directions go together: no letter is written against the first one, there is one kind of
numbers, and the label ends, apart from marks, with a letter or a number. -/
def isOneWay (label : List Char) : Bool :=
  let all := label.map direction
  let last := (all.reverse.dropWhile (· = .mark)).head?
  match all.head? with
  | none => true
  | some .toRight =>
    !(all.contains .toLeft || all.contains .arabicNumber) &&
      (last = some .toRight || last = some .number)
  | some .toLeft =>
    !all.contains .toRight && !(all.contains .number && all.contains .arabicNumber) &&
      last ≠ some .neutral
  | some _ => false

/-! ## Labels -/

/-- What the form in ASCII of a label begins with. -/
def asciiMark : List Char := ['x', 'n', '-', '-']

/-- The label beyond ASCII that a label stands for: one in composed form, of characters that stand only
for themselves, that is not a form in ASCII again. -/
def unfolded? (label : List Char) : Option (List Char) :=
  if asciiMark.isPrefixOf label then
    match Punycode.decode? (label.drop 4) with
    | none => none
    | some cs =>
      if cs.all isSettled && compose cs = cs && !asciiMark.isPrefixOf cs then some cs else none
  else some label

/-- The label is well formed by itself. -/
def isLabel (label : List Char) : Bool :=
  !label.head?.any isMark && joinersHold [] label

end TypedQuery.DomainName
