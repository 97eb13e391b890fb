-- SUMMARY: Settings written as JSON.
import TypedQuery.Json.Scan
import TypedQuery.Settings.Basic

/-!
# Settings in JSON

Settings are an object with a member per choice, or an array with the choices in their order. Choices
that are not made keep their defaults; members of other names are skipped.
-/
namespace TypedQuery.Settings

open Json

/-- A choice that can be written down. -/
inductive Choice where
  | indent | objectsEditable | arraysEditable | fetcherSuffix | excluded | defaultExcluded
  | scalarTypes | idField
  deriving DecidableEq, Repr

/-- The choices in the order in which an array lists them. -/
def Choice.all : List Choice := [
  .indent, .objectsEditable, .arraysEditable, .fetcherSuffix, .excluded, .defaultExcluded,
  .scalarTypes, .idField]

/-- The key of a choice in an object. -/
def Choice.key : Choice → String
  | indent => "indent"
  | objectsEditable => "objectEditable"
  | arraysEditable => "arrayEditable"
  | fetcherSuffix => "fetcherSuffix"
  | excluded => "excludedProperties"
  | defaultExcluded => "defaultFetcherExcluded"
  | scalarTypes => "scalarTypeMap"
  | idField => "idField"

/-- An array of names. -/
def nameSet : Scan NameSet :=
  array (fun names cs => (string cs).map fun (name, after) => (names.insert name, after)) ∅

/-- An object; of two members with one key the later one counts. -/
def nameMap {α : Type} (value : Scan α) : Scan (NameMap α) :=
  object (fun m key cs => do
    let (_, cs) ← colon cs
    let (v, after) ← value cs
    return (m.insert key v, after)) ∅

/-- Read the value of a choice. -/
def read (s : Settings) : Choice → Scan Settings
  | .indent, cs => (string cs).map fun (v, after) => ({ s with indent := v }, after)
  | .objectsEditable, cs => (boolean cs).map fun (v, after) => ({ s with objectsEditable := v }, after)
  | .arraysEditable, cs => (boolean cs).map fun (v, after) => ({ s with arraysEditable := v }, after)
  | .fetcherSuffix, cs => (string cs).map fun (v, after) => ({ s with fetcherSuffix := v }, after)
  | .excluded, cs => (nameMap nameSet cs).map fun (v, after) => ({ s with excluded := v }, after)
  | .defaultExcluded, cs =>
    (nameMap nameSet cs).map fun (v, after) => ({ s with defaultExcluded := v }, after)
  | .scalarTypes, cs => (nameMap string cs).map fun (v, after) => ({ s with scalarTypes := v }, after)
  | .idField, cs => (string cs).map fun (v, after) => ({ s with idField := v }, after)

/-- A member of the object of settings. No choice can be made twice. -/
def member (state : Settings × List Choice) (key : String) : Scan (Settings × List Choice) :=
  fun cs =>
    match Choice.all.find? (·.key = key) with
    | none => do
      let (_, cs) ← colon cs
      let (_, after) ← anything cs
      return (state, after)
    | some choice =>
      if choice ∈ state.2 then .error .mistyped
      else do
        let (_, cs) ← colon cs
        let (settings, after) ← read state.1 choice cs
        return ((settings, choice :: state.2), after)

/-- The elements of an array of settings, one choice after the other. -/
def positional (first : Bool) (s : Settings) : List Choice → Scan Settings
  | [], cs =>
    match skipGap cs with
    | [] => .error .ended
    | ']' :: rest => .ok (s, rest)
    | _ => .error .malformed
  | choice :: others, cs => do
    let (another, rest) ← nextElement first cs
    if another then
      let (settings, after) ← read s choice rest
      positional false settings others after
    else return (s, rest)

/-- An object or an array of settings. -/
def whole : Scan Settings := fun cs =>
  match skipGap cs with
  | '[' :: rest => positional true {} Choice.all rest
  | '\x7b' :: rest => (members member true ({}, []) rest).map fun (state, after) => (state.1, after)
  | _ => .error (mistyped cs)

/-- The settings of a text. -/
def parse (text : String) : Except JsonFault Settings :=
  match whole text.toList with
  | .error fault => .error fault
  | .ok (s, rest) => if (skipGap rest).isEmpty then .ok s else .error .malformed

/-- The settings of a text, if they are valid. -/
def ofJson (text : String) : Except Error Settings :=
  match parse text with
  | .error fault => .error (.json fault)
  | .ok s => s.validate.map fun _ => s

end TypedQuery.Settings
