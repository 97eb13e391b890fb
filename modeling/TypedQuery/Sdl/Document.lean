-- SUMMARY: Schema documents, and how they are read.
import TypedQuery.Schema.TypeDef
import TypedQuery.Sdl.Reader

/-!
# Documents

A document is the list of its definitions. Reading keeps what a schema is made of: names, types and
arguments. Directives, descriptions and default values are checked and dropped.
-/
namespace TypedQuery

/-- The names of the root operation types. -/
structure RootTypes where
  query : Option String
  mutation : Option String
  subscription : Option String
  deriving DecidableEq, Repr

namespace RootTypes

/-- No root is set. -/
def unset : RootTypes := ⟨none, none, none⟩

/-- The names that are set: query, mutation, subscription. -/
def names (r : RootTypes) : List String :=
  [r.query, r.mutation, r.subscription].filterMap id

/-- Set the root of an operation; an operation can be set once. -/
def set? (r : RootTypes) (operation type : String) : Option RootTypes :=
  match operation with
  | "query" => if r.query.isNone then some { r with query := type } else none
  | "mutation" => if r.mutation.isNone then some { r with mutation := type } else none
  | "subscription" => if r.subscription.isNone then some { r with subscription := type } else none
  | _ => none

/-- The roots that a schema definition lists. -/
def ofList? (entries : List (String × String)) : Option RootTypes :=
  entries.foldlM (fun r (operation, type) => r.set? operation type) unset

end RootTypes

namespace Sdl

/-- One definition of a document. An extension holds what it adds. -/
inductive Definition where
  | type (d : TypeDef)
  | extension (d : TypeDef)
  | schema (roots : RootTypes)
  | directive (name : String)
  deriving DecidableEq, Repr

/-- The definitions of a text, in order. -/
structure Document where
  definitions : List Definition
  deriving DecidableEq, Repr

namespace Reader

/-! ## Types and values -/

/-- A type, made non-null by an exclamation mark behind it. -/
def nonNullIfMarked (type : TypeRef) (s : Stream) : TypeRef × Stream :=
  match s with
  | .token (.mark '!') _ _ rest => (.nonNull type, rest)
  | _ => (type, s)

/-- A reference to a type. -/
def typeRef : Reader TypeRef
  | .token (.name text) _ _ rest => .ok (nonNullIfMarked (.named text) rest)
  | .token (.mark '[') _ _ rest =>
    match typeRef rest with
    | .error p => .error p
    | .ok (item, .token (.mark ']') _ _ after) => .ok (nonNullIfMarked (.list item) after)
    | .ok (_, s) => .error s.position
  | s => .error s.position

/-- A bracket that is open inside a value. -/
inductive Enclosure where
  | list
  | object

/-- Read the rest of a value of which these brackets are open, innermost first. With `needed`, a value
has to come next; otherwise what comes next goes on with the innermost bracket. -/
def finishValue (mentions : Bool) : List Enclosure → Bool → Reader Unit
  | [], false, s => .ok ((), s)
  | .list :: outer, false, .token (.mark ']') _ _ rest => finishValue mentions outer false rest
  | .object :: outer, false, .token (.mark '\x7d') _ _ rest => finishValue mentions outer false rest
  | .object :: outer, false, .token (.name _) _ _ (.token (.mark ':') _ _ rest) =>
    finishValue mentions (.object :: outer) true rest
  | .object :: _, false, .token (.name _) _ _ s => .error s.position
  | .object :: _, false, s => .error s.position
  | opened, _, .token (.name _) _ _ rest => finishValue mentions opened false rest
  | opened, _, .token .number _ _ rest => finishValue mentions opened false rest
  | opened, _, .token .string _ _ rest => finishValue mentions opened false rest
  | opened, _, .token (.mark '[') _ _ rest => finishValue mentions (.list :: opened) false rest
  | opened, _, .token (.mark '\x7b') _ _ rest => finishValue mentions (.object :: opened) false rest
  | opened, _, .token (.mark '$') p _ (.token (.name _) _ _ rest) =>
    if mentions then finishValue mentions opened false rest else .error p
  | _, _, .token (.mark '$') p _ s => .error (if mentions then s.position else p)
  | _, _, s => .error s.position

/-- A value that may mention variables. -/
def value : Reader Unit := finishValue true [] true

/-- A value that mentions no variable. -/
def constant : Reader Unit := finishValue false [] true

/-! ## Parts of definitions -/

def isName : Token → Bool
  | .name _ => true
  | _ => false

/-- A described part begins with its description or its name. -/
def isNameOrString : Token → Bool
  | .name _ | .string => true
  | _ => false

/-- Drop a description, if there is one. -/
def description : Reader Unit := do
  let _ ← accept .string

def directive : Reader Unit := do
  expect (.mark '@')
  let _ ← name
  let _ ← enclosed '(' ')' isName do
    let _ ← name
    expect (.mark ':')
    value

/-- Whether there are any directives. -/
def directives : Reader Bool := do
  let applied ← many (· = .mark '@') directive
  return !applied.isEmpty

def inputValue : Reader InputValue := do
  description
  let text ← name
  expect (.mark ':')
  let type ← typeRef
  if ← accept (.mark '=') then constant
  let _ ← directives
  return ⟨text, type⟩

def arguments : Reader (List InputValue) :=
  enclosed '(' ')' isNameOrString inputValue

def field : Reader FieldDef := do
  description
  let text ← name
  let args ← arguments
  expect (.mark ':')
  let type ← typeRef
  let _ ← directives
  return ⟨text, type, args⟩

def fields : Reader (List FieldDef) :=
  enclosed '\x7b' '\x7d' isNameOrString field

def inputFields : Reader (List InputValue) :=
  enclosed '\x7b' '\x7d' isNameOrString inputValue

def enumValues : Reader (List String) :=
  enclosed '\x7b' '\x7d' isNameOrString do
    description
    let text ← name
    let _ ← directives
    return text

def interfaces : Reader (List String) := do
  if ← accept (.name "implements") then separated '&' else return []

def members : Reader (List String) := do
  if ← accept (.mark '=') then separated '|' else return []

/-! ## Definitions -/

/-- A type definition from its keyword on. An extension has to add something. -/
def typeDef (extending : Bool) : Reader TypeDef := do
  let start ← position
  match ← name with
  | "scalar" =>
    let text ← name
    let directed ← directives
    require (!extending || directed) start
    return .scalar text
  | "type" =>
    let text ← name
    let ifaces ← interfaces
    let directed ← directives
    let listed ← fields
    require (!extending || !ifaces.isEmpty || directed || !listed.isEmpty) start
    return .object ⟨text, ifaces, listed⟩
  | "interface" =>
    let text ← name
    let ifaces ← interfaces
    let directed ← directives
    let listed ← fields
    require (!extending || directed || !listed.isEmpty) start
    return .interface ⟨text, ifaces, listed⟩
  | "union" =>
    let text ← name
    let directed ← directives
    let listed ← members
    require (!extending || directed || !listed.isEmpty) start
    return .union ⟨text, listed⟩
  | "enum" =>
    let text ← name
    let directed ← directives
    let listed ← enumValues
    require (!extending || directed || !listed.isEmpty) start
    return .enum ⟨text, listed⟩
  | "input" =>
    let text ← name
    let directed ← directives
    let listed ← inputFields
    require (!extending || directed || !listed.isEmpty) start
    return .input ⟨text, listed⟩
  | _ => throw start

/-- A schema definition from its keyword on. -/
def schemaDef : Reader RootTypes := do
  let start ← position
  expect (.name "schema")
  let _ ← directives
  expect (.mark '\x7b')
  let entries ← many isName do
    let operation ← name
    expect (.mark ':')
    let type ← name
    return (operation, type)
  expect (.mark '\x7d')
  match RootTypes.ofList? entries with
  | some roots => return roots
  | none => throw start

/-- The places where a directive can be applied. -/
def directiveLocations : List String := [
  "QUERY", "MUTATION", "SUBSCRIPTION", "FIELD", "FRAGMENT_DEFINITION", "FRAGMENT_SPREAD",
  "INLINE_FRAGMENT", "SCHEMA", "SCALAR", "OBJECT", "FIELD_DEFINITION", "ARGUMENT_DEFINITION",
  "INTERFACE", "UNION", "ENUM", "ENUM_VALUE", "INPUT_OBJECT", "INPUT_FIELD_DEFINITION",
  "VARIABLE_DEFINITION"]

def isLocation : Token → Bool
  | .name text => text ∈ directiveLocations
  | _ => false

def location : Reader Unit := do
  match ← peek with
  | some t => if isLocation t then expect t else fail
  | none => fail

/-- What a list of places begins with: any name, even one that is no place, or the mark in front. -/
def startsLocations : Token → Bool
  | .name _ => true
  | t => t = .mark '|'

/-- A directive definition from its keyword on. -/
def directiveDef : Reader String := do
  expect (.name "directive")
  expect (.mark '@')
  let text ← name
  let _ ← arguments
  let _ ← accept (.name "repeatable")
  expect (.name "on")
  if (← peek).any startsLocations then
    let _ ← accept (.mark '|')
    location
    let _ ← many (· = .mark '|') do
      expect (.mark '|')
      location
  return text

/-- One definition. -/
def definition : Reader Definition := do
  match ← peek with
  | some (.name "schema") => return .schema (← schemaDef)
  | some (.name "extend") =>
    expect (.name "extend")
    return .extension (← typeDef true)
  | _ =>
    description
    match ← peek with
    | some (.name "directive") => return .directive (← directiveDef)
    | _ => return .type (← typeDef false)

/-- Definitions up to the end of the stream, at least one. -/
def definitions (s : Stream) : Except Position (List Definition) :=
  match definition s with
  | .error p => .error p
  | .ok (first, .finish _) => .ok [first]
  | .ok (first, rest) =>
    if _h : rest.size < s.size then
      match definitions rest with
      | .error p => .error p
      | .ok others => .ok (first :: others)
    else .error rest.position
termination_by s.size

end Reader

/-- Read a document. -/
def Document.parse (text : String) : Except Position Document :=
  (Reader.definitions (Stream.ofText text)).map .mk

end Sdl

end TypedQuery
