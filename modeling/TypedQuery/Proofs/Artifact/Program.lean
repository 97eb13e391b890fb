-- SUMMARY: The helpers for casts as programs: their lines, and what evaluating them lists.
import TypedQuery.Lineage
import TypedQuery.Proofs.Emit.Lines
import TypedQuery.Proofs.Names.Walk

/-!
# Helpers for casts

The common types hold two kinds of recursive programs: the type `ImplementationType`, which is unfolded
at a name, and functions that are called with one. Here are their syntax, the lines that they are
written as, and how they are evaluated. Programs that are made from a graph list what a walk over the
graph lists: `forms_ofGraph` and `names_ofGraph`.
-/
namespace TypedQuery.CommonTypes

/-! ## The type of forms -/

/-- A member of a union type: the literal type of a name, or all forms of a name. -/
inductive FormType where
  | literal (name : String)
  | forms (name : String)
  deriving DecidableEq, Repr

def FormType.text : FormType → String
  | literal name => "'" ++ name ++ "'"
  | forms name => "ImplementationType<'" ++ name ++ "'>"

@[simp] theorem FormType.text_literal {name : String} :
    text (.literal name) = "'" ++ name ++ "'" :=
  rfl

@[simp] theorem FormType.text_forms {name : String} :
    text (.forms name) = "ImplementationType<'" ++ name ++ "'>" :=
  rfl

/-- A branch of a conditional type: what the type is if it is asked for the literal type of the name. -/
structure Branch where
  name : String
  members : List FormType
  deriving DecidableEq, Repr

def Branch.lines (b : Branch) : List Line :=
  ⟨1, "T extends '" ++ b.name ++ "' ? ("⟩ ::
    (barred (b.members.map FormType.text)).map (fun text => ⟨2, text⟩) ++ [⟨1, ") :"⟩]

/-- The type of the forms of a name: branches, the first one that matches being taken. -/
structure ImplementationType where
  branches : List Branch
  deriving DecidableEq, Repr

namespace ImplementationType

/-- The lines of the type. Behind its branches stands the name itself. -/
def lines (t : ImplementationType) : List Line :=
  ⟨0, "export type ImplementationType<T> ="⟩ ::
    (t.branches.flatMap Branch.lines ++ [⟨1, "T"⟩]) ++ [⟨0, ";"⟩]

/-- What the conditional type is at a name. -/
def choose : List Branch → String → List FormType
  | [], name => [.literal name]
  | b :: rest, name => if name = b.name then b.members else choose rest name

/-- Unfold the type at a name, and so on with the forms that this leads to, up to a depth: the names of
the literal types that the union comes to. -/
def forms (t : ImplementationType) : Nat → String → Except TooDeep (List String)
  | 0, _ => .error .tooDeep
  | depth + 1, name => do
    let members ← (choose t.branches name).mapM fun
      | .literal other => .ok [other]
      | .forms other => t.forms depth other
    return members.flatten

end ImplementationType

/-! ## Functions that list casts -/

/-- A statement in the switch of a function: a call of the function itself, or the end of a case. -/
inductive Statement where
  | call (name : String)
  | leave
  deriving DecidableEq, Repr

def Statement.text (direction : String) : Statement → String
  | call name => direction ++ "Types0('" ++ name ++ "', output);"
  | leave => "break;"

@[simp] theorem Statement.text_call {direction name : String} :
    text direction (.call name) = direction ++ "Types0('" ++ name ++ "', output);" :=
  rfl

@[simp] theorem Statement.text_leave {direction : String} : text direction .leave = "break;" :=
  rfl

/-- A case of a switch. -/
structure Case where
  name : String
  body : List Statement
  deriving DecidableEq, Repr

def Case.lines (direction : String) (c : Case) : List Line :=
  ⟨2, "case '" ++ c.name ++ "':"⟩ :: c.body.map fun s => ⟨3, s.text direction⟩

/-- A function that lists the casts of a name in one direction. It begins with an empty list and calls a
recursive function, which adds the name to the list and switches over it. -/
structure CastFunction where
  direction : String
  cases : List Case
  deriving DecidableEq, Repr

namespace CastFunction

/-- The lines of the function that is exported, and an empty one behind them. -/
def exportedLines (f : CastFunction) : List Line :=
  ⟨0, "export function " ++ f.direction ++ "Types(typeName: string): string[] \x7b"⟩ ::
    [⟨1, "const typeNames: string[] = [];"⟩,
      ⟨1, f.direction ++ "Types0(typeName, typeNames);"⟩,
      ⟨1, "return typeNames;"⟩] ++
    [⟨0, "\x7d"⟩, ⟨0, ""⟩]

/-- The lines of the recursive function. -/
def recursiveLines (f : CastFunction) : List Line :=
  ⟨0, "function " ++ f.direction ++ "Types0(typeName: string, output: string[]) \x7b"⟩ ::
    (⟨1, "output.push(typeName);"⟩ ::
      (⟨1, "switch (typeName) \x7b"⟩ :: f.cases.flatMap (Case.lines f.direction) ++ [⟨1, "\x7d"⟩])) ++
    [⟨0, "\x7d"⟩]

def lines (f : CastFunction) : List Line := f.exportedLines ++ f.recursiveLines

/-- The statements from the case of a name on, those of the cases behind it included. -/
def statementsFrom : List Case → String → List Statement
  | [], _ => []
  | c :: rest, name =>
    if c.name = name then (c :: rest).flatMap Case.body else statementsFrom rest name

/-- The names that are called with before the switch is left. -/
def callsOf : List Statement → List String
  | [] => []
  | .leave :: _ => []
  | .call name :: rest => name :: callsOf rest

/-- Run the recursive function, up to a depth of calls: the list behind the call. -/
def push (f : CastFunction) : Nat → String → List String → Except TooDeep (List String)
  | 0, _, _ => .error .tooDeep
  | depth + 1, name, output =>
    (callsOf (statementsFrom f.cases name)).foldlM (fun output other => f.push depth other output)
      (output ++ [name])

/-- Run the function that is exported. -/
def names (f : CastFunction) (depth : Nat) (name : String) : Except TooDeep (List String) :=
  f.push depth name []

end CastFunction

/-! ## The helpers of a lineage -/

/-- The helpers for casts. -/
structure Helpers where
  implementationType : ImplementationType
  upcastTypes : CastFunction
  downcastTypes : CastFunction
  deriving DecidableEq, Repr

namespace Helpers

/-- The lines of the type that stands in front of the helpers for casts. -/
def typeNameLines : List Line :=
  ⟨0, "export type WithTypeName<T, TypeName extends string> ="⟩ ::
    [⟨1, "T extends \x7breadonly __typename: string\x7d ?"⟩,
      ⟨1, "T :"⟩,
      ⟨1, "T & \x7breadonly __typename: TypeName\x7d"⟩] ++
    [⟨0, ";"⟩]

/-- The lines of the file that the helpers are in. -/
def lines (h : Helpers) : List Line :=
  typeNameLines ++ ⟨0, ""⟩ :: h.implementationType.lines ++ ⟨0, ""⟩ :: h.upcastTypes.lines ++
    ⟨0, ""⟩ :: h.downcastTypes.lines

end Helpers

/-- The branch of a name with its casts. -/
def Branch.ofEntry (entry : String × NameSet) : Branch :=
  ⟨entry.1, .literal entry.1 :: entry.2.toList.map .forms⟩

/-- The case of a name with its casts. -/
def Case.ofEntry (entry : String × NameSet) : Case :=
  ⟨entry.1, entry.2.toList.map .call ++ [.leave]⟩

def ImplementationType.ofGraph (g : NameGraph) : ImplementationType :=
  ⟨g.entries.map Branch.ofEntry⟩

def CastFunction.ofGraph (direction : String) (g : NameGraph) : CastFunction :=
  ⟨direction, g.entries.map Case.ofEntry⟩

def Helpers.ofLineage (l : Lineage) : Helpers :=
  { implementationType := .ofGraph l.downcasts
    upcastTypes := .ofGraph "upcast" l.upcasts
    downcastTypes := .ofGraph "downcast" l.downcasts }

/-! ## What the helpers list -/

variable {g : NameGraph} {name : String}

namespace ImplementationType

/-- At a name the type is the literal type of the name, and the forms of each of its casts. -/
theorem choose_ofGraph :
    choose (ofGraph g).branches name = .literal name :: (g.targets name).map .forms := by
  unfold ofGraph NameGraph.targets NameMap.get?
  dsimp only
  induction g.entries with
  | nil => rfl
  | cons entry rest ih =>
    rw [List.map_cons, choose, NameMap.lookup_cons, Branch.ofEntry]
    by_cases hname : name = entry.1
    · rw [if_pos hname, if_pos hname, ← hname]
    · rw [if_neg hname, if_neg hname]
      exact ih

/-- Unfolding the type lists what a walk lists. -/
theorem forms_ofGraph (depth : Nat) (name : String) :
    (ofGraph g).forms depth name = g.walk depth name := by
  induction depth generalizing name with
  | zero => rfl
  | succ depth ih =>
    -- The bound is used up by one at each level, on both sides.
    have hcasts : (ofGraph g).forms depth = g.walk depth := funext ih
    rw [forms, choose_ofGraph, List.mapM_cons, List.mapM_map, NameGraph.walk, ← hcasts]
    change (((g.targets name).mapM ((ofGraph g).forms depth) >>= fun below =>
      .ok ([name] :: below)) >>= fun members => .ok members.flatten) = _
    cases (g.targets name).mapM ((ofGraph g).forms depth) <;> rfl

end ImplementationType

namespace CastFunction

variable {direction : String}

theorem callsOf_body {names : List String} {behind : List Statement} :
    callsOf (names.map .call ++ .leave :: behind) = names := by
  induction names with
  | nil => rfl
  | cons name rest ih => exact congrArg _ ih

/-- At a name the recursive function calls itself with each of the casts, and leaves the switch before
the case of another name begins. -/
theorem calls_ofGraph :
    callsOf (statementsFrom (ofGraph direction g).cases name) = g.targets name := by
  unfold ofGraph NameGraph.targets NameMap.get?
  dsimp only
  induction g.entries with
  | nil => rfl
  | cons entry rest ih =>
    rw [List.map_cons, statementsFrom, NameMap.lookup_cons, Case.ofEntry]
    by_cases hname : name = entry.1
    · rw [if_pos hname, if_pos hname.symm, List.flatMap_cons, List.append_assoc]
      exact callsOf_body
    · rw [if_neg hname, if_neg (Ne.symm hname)]
      exact ih

/-- Calls that each add something to the list add everything in their order. -/
theorem foldlM_append {listed : String → Except TooDeep (List String)} {names output : List String} :
    names.foldlM (fun output other => (listed other).map (output ++ ·)) output =
      (names.mapM listed).map fun below => output ++ below.flatten := by
  induction names generalizing output with
  | nil => simp [Except.map, pure, Except.pure]
  | cons name rest ih =>
    rw [List.foldlM_cons, List.mapM_cons]
    cases listed name with
    | error failure => rfl
    | ok first =>
      change rest.foldlM _ (output ++ first) = ((rest.mapM listed >>= fun below =>
        .ok (first :: below)).map fun below => output ++ below.flatten)
      rw [ih]
      cases rest.mapM listed with
      | error failure => rfl
      | ok below => simp [Except.map, bind, Except.bind]

/-- The recursive function adds what a walk lists. -/
theorem push_ofGraph (depth : Nat) (name : String) (output : List String) :
    (ofGraph direction g).push depth name output = (g.walk depth name).map (output ++ ·) := by
  induction depth generalizing name output with
  | zero => rfl
  | succ depth ih =>
    rw [push, calls_ofGraph, NameGraph.walk]
    simp only [ih]
    rw [foldlM_append]
    cases (g.targets name).mapM (g.walk depth) with
    | error failure => rfl
    | ok below => simp [Except.map, bind, Except.bind, pure, Except.pure]

/-- The exported function lists what a walk lists. -/
theorem names_ofGraph (depth : Nat) (name : String) :
    (ofGraph direction g).names depth name = g.walk depth name := by
  rw [names, push_ofGraph]
  cases g.walk depth name <;> rfl

end CastFunction

end TypedQuery.CommonTypes
