-- SUMMARY: Which file a module path leads to.
import TypedQuery.Emit.Location

/-!
# Module paths

Files name each other by module paths. A relative one leads on from the directory of the file that it
stands in; it leaves out the ending of the file that is meant or, where that is the index of a directory,
the name of the index. `Path.moduleFile?` finds the file. The files of the generator lie in folders of the
output directory, so that two steps suffice: to a file of the same folder, and to the directory above.
-/
namespace TypedQuery

namespace Path

/-- The path leads on from the directory of the file that it stands in. -/
def isRelative (module : String) : Bool := module.startsWith "./" || module.startsWith "../"

/-- The path from a directory on, step by step while there are dots. -/
def resolve (directory : String) : List Char → String
  | '.' :: '/' :: rest => resolve directory rest
  | '.' :: '.' :: '/' :: rest => resolve (parent directory) rest
  | rest => join directory (String.ofList rest)

/-- The one of some files that a module path in a file leads to: a file by that name, or else the index
of a directory by that name. -/
def moduleFile? (files : List String) (file module : String) : Option String :=
  let base := resolve (parent file) module.toList
  [base ++ ".ts", join base "index.ts"].find? (· ∈ files)

variable {a b stem directory : String}

/-- A component of a path. -/
def IsComponent (s : String) : Prop := '/' ∉ s.toList

theorem not_startsWith_slash (h : IsComponent b) : b.startsWith "/" = false := by
  rw [Bool.eq_false_iff, ne_eq, String.startsWith_string_iff]
  rintro ⟨rest, hrest⟩
  exact h (hrest ▸ List.mem_cons_self)

theorem IsComponent.append (ha : IsComponent a) (hb : IsComponent b) : IsComponent (a ++ b) := by
  simpa [IsComponent] using ⟨ha, hb⟩

theorem join_append (hb : IsComponent b) (hs : IsComponent stem) :
    join a (b ++ stem) = join a b ++ stem := by
  unfold join
  rw [not_startsWith_slash hb, not_startsWith_slash (hb.append hs)]
  simp only [Bool.false_or]
  split
  · rfl
  · split <;> simp [String.append_assoc]

theorem resolve_component {cs : List Char} (h : '/' ∉ cs) :
    resolve directory cs = join directory (String.ofList cs) := by
  unfold resolve
  split
  · simp at h
  · simp at h
  · rfl

theorem resolve_here (h : IsComponent stem) :
    resolve directory ("./" ++ stem).toList = join directory stem := by
  rw [String.toList_append]
  change resolve directory stem.toList = _
  rw [resolve_component h, String.ofList_toList]

theorem resolve_above (h : IsComponent stem) :
    resolve directory ("../" ++ stem).toList = join (parent directory) stem := by
  rw [String.toList_append]
  change resolve (parent directory) stem.toList = _
  rw [resolve_component h, String.ofList_toList]

section Files

variable {files : List String} {file module base : String}

theorem moduleFile?_of_file (hbase : resolve (parent file) module.toList = base)
    (h : base ++ ".ts" ∈ files) : moduleFile? files file module = some (base ++ ".ts") := by
  rw [moduleFile?, hbase, List.find?_cons_of_pos (by simpa using h)]

theorem moduleFile?_of_index (hbase : resolve (parent file) module.toList = base)
    (hnot : base ++ ".ts" ∉ files) (h : join base "index.ts" ∈ files) :
    moduleFile? files file module = some (join base "index.ts") := by
  rw [moduleFile?, hbase, List.find?_cons_of_neg (by simpa using hnot),
    List.find?_cons_of_pos (by simpa using h)]

end Files

end Path

/-- The directory of a folder, seen from the output directory. -/
def Folder.directory (f : Folder) : String := f.name?.getD ""

/-- What comes before the name of a file in a folder. -/
def Folder.lead (f : Folder) : String := f.name?.elim "" (· ++ "/")

namespace Location

open TypedQuery.Path

variable {l target : Location} {files : List String} {name : String} {folder : Folder}

theorem isComponent_ending : IsComponent ".ts" := by
  unfold IsComponent
  decide

/-- A path is the name of a file behind what its folder leads with. -/
theorem path_eq_of_not_startsWith (h : (l.stem ++ ".ts").startsWith "/" = false) :
    l.path = l.folder.lead ++ (l.stem ++ ".ts") := by
  have hends : "fetchers".endsWith "/" = false ∧ "enums".endsWith "/" = false ∧
      "inputs".endsWith "/" = false := by
    simp only [← String.endsWith_toSlice, String.Slice.endsWith_string_eq_false_iff]
    decide
  rw [path, join, h]
  cases l.folder with
  | root => exact String.empty_append.symm
  | fetchers => simp [Folder.name?, Folder.lead, hends.1]
  | enums => simp [Folder.name?, Folder.lead, hends.2.1]
  | inputs => simp [Folder.name?, Folder.lead, hends.2.2]

theorem path_eq (h : IsComponent l.stem) : l.path = l.folder.lead ++ (l.stem ++ ".ts") :=
  path_eq_of_not_startsWith (not_startsWith_slash (h.append isComponent_ending))

/-- A file lies in the directory of its folder. -/
theorem parent_path (h : IsComponent l.stem) : parent l.path = l.folder.directory := by
  have hreverse : l.path.toList.reverse =
      ('s' :: 't' :: '.' :: l.stem.toList.reverse) ++ l.folder.lead.toList.reverse := by
    rw [path_eq h]
    simp
  -- The directory is what is left without the characters behind the last slash, and these are the
  -- name of the file.
  have hname : ∀ c ∈ 's' :: 't' :: '.' :: l.stem.toList.reverse, decide (c ≠ '/') = true := by
    intro c hc
    rw [decide_eq_true_eq]
    rintro rfl
    exact h (by simpa using hc)
  have hlead : String.ofList (trimReversed
      (l.folder.lead.toList.reverse.dropWhile (· ≠ '/'))).reverse = l.folder.directory := by
    cases l.folder <;> decide
  have hparent : parent? l.path = some (String.ofList (trimReversed
      (l.path.toList.reverse.dropWhile (· ≠ '/'))).reverse) := by
    rw [parent?, hreverse]
    rfl
  rw [parent, hparent, hreverse, List.dropWhile_append_of_pos hname, hlead]
  rfl

/-- A file outside of the output directory itself has a path of several components. -/
theorem not_isComponent_path (h : l.folder ≠ .root) (hstem : IsComponent l.stem) :
    ¬ IsComponent l.path := by
  have hlead : '/' ∈ l.folder.lead.toList := by
    cases hfolder : l.folder with
    | root => exact absurd hfolder h
    | fetchers | enums | inputs => decide
  rw [IsComponent, path_eq hstem, String.toList_append]
  exact fun hnot => hnot (List.mem_append_left _ hlead)

theorem path_eq_join (h : IsComponent l.stem) : l.path = join l.folder.directory l.stem ++ ".ts" :=
  join_append h isComponent_ending

/-- A file of the same folder. -/
theorem moduleFile?_here (hl : IsComponent l.stem) (htarget : IsComponent target.stem)
    (hfolder : target.folder = l.folder) (h : target.path ∈ files) :
    moduleFile? files l.path ("./" ++ target.stem) = some target.path := by
  rw [path_eq_join htarget] at h ⊢
  rw [hfolder] at h ⊢
  exact moduleFile?_of_file (by rw [resolve_here htarget, parent_path hl]) h

theorem resolve_above_path (hl : IsComponent l.stem) (hfolder : l.folder ≠ .root)
    (hname : IsComponent name) : resolve (parent l.path) ("../" ++ name).toList = name := by
  have hparent : parent l.folder.directory = "" := by
    cases h : l.folder with
    | root => exact absurd h hfolder
    | fetchers | enums | inputs => decide
  rw [resolve_above hname, parent_path hl, hparent, join, not_startsWith_slash hname]
  rfl

/-- A file of the output directory, from one of a folder in it. -/
theorem moduleFile?_above (hl : IsComponent l.stem) (hfolder : l.folder ≠ .root)
    (htarget : IsComponent target.stem) (hroot : target.folder = .root) (h : target.path ∈ files) :
    moduleFile? files l.path ("../" ++ target.stem) = some target.path := by
  have hpath : target.path = target.stem ++ ".ts" := by
    rw [path_eq htarget, hroot]
    exact String.empty_append
  rw [hpath] at h ⊢
  exact moduleFile?_of_file (resolve_above_path hl hfolder htarget) h

/-- The module path of a folder in a file. -/
def toFolder (l : Location) (name : String) : String :=
  (if l.folder = .root then "./" else "../") ++ name

/-- The index of a folder, from anywhere else. -/
theorem moduleFile?_folder (hl : IsComponent l.stem) (hname : folder.name? = some name)
    (hnot : name ++ ".ts" ∉ files) (h : (Location.mk folder "index" none).path ∈ files) :
    moduleFile? files l.path (l.toFolder name) = some (Location.mk folder "index" none).path := by
  have hcomponent : IsComponent name := by
    unfold IsComponent
    cases folder with
    | root => cases hname
    | fetchers | enums | inputs =>
      cases hname
      decide
  have hindex : (Location.mk folder "index" none).path = join name "index.ts" := by
    rw [path, hname]
    rfl
  have hbase : resolve (parent l.path) (l.toFolder name).toList = name := by
    rw [toFolder]
    split
    · next hroot =>
      rw [resolve_here hcomponent, parent_path hl, hroot, Folder.directory, join,
        not_startsWith_slash hcomponent]
      rfl
    · next hroot => exact resolve_above_path hl hroot hcomponent
  rw [hindex] at h ⊢
  exact moduleFile?_of_index hbase hnot h

end Location

end TypedQuery
