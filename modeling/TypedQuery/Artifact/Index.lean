-- SUMMARY: The index files of the output directory and its folders.
import TypedQuery.Emit.Writing

/-!
# Indexes

An index exports again what the modules next to it export.
-/
namespace TypedQuery

open Writing

/-- What an index exports from one module. -/
structure ModuleExports where
  module : String
  types : List String := []
  values : List String := []
  /-- Everything that the module exports. -/
  everything : Bool := false
  deriving DecidableEq, Repr

namespace ModuleExports

/-- A line that exports names. -/
def line (keyword : String) (names : List String) (module : String) : String :=
  keyword ++ " \x7b " ++ ", ".intercalate names ++ " \x7d from './" ++ module ++ "';\n"

def code (e : ModuleExports) : Writing Unit := do
  if e.everything then text ("export * from './" ++ e.module ++ "';\n")
  if !e.types.isEmpty then text (line "export type" e.types e.module)
  if !e.values.isEmpty then text (line "export" e.values e.module)

end ModuleExports

/-- The index of a folder. -/
structure Index where
  folder : Folder
  exports : List ModuleExports
  deriving DecidableEq, Repr

namespace Index

def location (i : Index) : Location := { folder := i.folder, stem := "index" }

def code (i : Index) : Writing Unit := i.exports.forM ModuleExports.code

end Index

end TypedQuery
