-- SUMMARY: What files leave behind that are written one after another.
import TypedQuery.Proofs.Output.Growth

/-!
# Written files

A file that is written leaves directories above it, which are made if need be. Of several files the last
one that lies at a path or below decides what lies there in the end. Where no file lies, all stays as it
was.
-/
namespace TypedQuery

/-! ## Nodes that files leave -/

namespace Node

/-- What a file leaves at a path: itself, or a directory above it. -/
def ofFile (file : List String × ByteArray) (path : List String) : Option Node :=
  if path = file.1 then some (.file file.2)
  else if path <+: file.1 then some .directory
  else none

/-- What files leave at a path that are written one after another. -/
def ofFiles (files : List (List String × ByteArray)) (path : List String) : Option Node :=
  files.reverse.findSome? (ofFile · path)

variable {files others : List (List String × ByteArray)} {file : List String × ByteArray}
  {path place : List String} {content : ByteArray}

theorem ofFile_eq_none_iff : ofFile file path = none ↔ ¬ path <+: file.1 := by
  unfold ofFile
  split
  · next h => simp [h]
  · split <;> simp_all

theorem ofFiles_append : ofFiles (files ++ others) path =
    (ofFiles others path).or (ofFiles files path) := by
  rw [ofFiles, List.reverse_append, List.findSome?_append]
  rfl

theorem ofFiles_singleton : ofFiles [file] path = ofFile file path := by
  unfold ofFiles
  rw [List.reverse_singleton, List.findSome?_singleton]

theorem ofFiles_eq_none_iff : ofFiles files path = none ↔ ∀ file ∈ files, ¬ path <+: file.1 := by
  simp only [ofFiles, List.findSome?_eq_none_iff, List.mem_reverse, ofFile_eq_none_iff]

/-- A file that is left is one of those that were written. -/
theorem mem_of_ofFiles (h : ofFiles files path = some (.file content)) :
    (path, content) ∈ files := by
  obtain ⟨file, hfile, hleft⟩ := List.exists_of_findSome?_eq_some h
  rw [ofFile] at hleft
  split at hleft
  · next hpath =>
    cases hleft
    exact hpath ▸ List.mem_reverse.1 hfile
  · split at hleft <;> cases hleft

end Node

namespace Disk

/-- Files have been written, and nothing else has changed. -/
structure Written (files : List (List String × ByteArray)) (d d' : Disk) : Prop where
  workingDirectory : d'.workingDirectory = d.workingDirectory
  node? : ∀ q, d'.root.node? q = (Node.ofFiles files q).or (d.root.node? q)
  isDirectory : ∀ q, d.root.node? q = some .directory → d'.root.node? q = some .directory
  file : ∀ q content, d.root.node? q = some (.file content) → (∀ file ∈ files, q ≠ file.1) →
    d'.root.node? q = some (.file content)
  ordered : d.root.Ordered → d'.root.Ordered

variable {files others : List (List String × ByteArray)} {d d' d'' : Disk} {p q : List String}
  {content other : ByteArray} {root : FileTree} {path out rel : String}

theorem Written.refl : d.Written [] d := ⟨rfl, fun _ => rfl, fun _ => id, fun _ _ h _ => h, id⟩

theorem Written.trans (h : d.Written files d') (h' : d'.Written others d'') :
    d.Written (files ++ others) d'' where
  workingDirectory := h'.workingDirectory.trans h.workingDirectory
  node? q := by rw [h'.node?, h.node?, Node.ofFiles_append, Option.or_assoc]
  isDirectory q hq := h'.isDirectory q (h.isDirectory q hq)
  file q content hq hne := by
    rw [List.forall_mem_append] at hne
    exact h'.file q content (h.file q content hq hne.1) hne.2
  ordered hd := h'.ordered (h.ordered hd)

/-- A file is written after directories have been made on the way to it. -/
theorem written_of_write (hgrows : d.Grows (· <+: p) d') (h : d'.root.write p content = .ok root) :
    d.Written [(p, content)] { d' with root } := by
  obtain ⟨hnot, hnodes⟩ := FileTree.node?_write h
  refine ⟨hgrows.workingDirectory, fun q => ?_, fun q hq => ?_, fun q other hq hne => ?_,
    fun hd => (hgrows.ordered hd).write h⟩
  · rw [Node.ofFiles_singleton, Node.ofFile]
    have hp : root.node? p = some (.file content) := by rw [hnodes, if_pos rfl]
    by_cases hq : q = p
    · rw [if_pos hq, hq, hp]
      rfl
    · rw [if_neg hq]
      -- On the way to the file there are directories now; elsewhere none has been made.
      by_cases hleads : q <+: p
      · rw [if_pos hleads]
        exact FileTree.isDirectory_above hleads hq (by simp [hp])
      · rw [if_neg hleads, hnodes, if_neg hq]
        rcases hgrows.node? q with hsame | ⟨-, -, habove⟩
        · exact hsame
        · exact absurd habove hleads
  · have hdir := hgrows.isDirectory hq
    rw [hnodes, if_neg (by rintro rfl; exact hnot hdir), hdir]
  · rw [hnodes, if_neg (hne _ (List.mem_singleton_self _)), hgrows.file hq]

/-- A file that has just been written can be written again. -/
theorem Written.rewrite (h : d.Written [(p, other)] d') (hwrite : d'.root.write p content = .ok root) :
    d.Written [(p, content)] { d' with root } := by
  have hagain := h.trans (written_of_write (Grows.refl (P := (· <+: p))) hwrite)
  refine ⟨hagain.workingDirectory, fun q => ?_, hagain.isDirectory, fun q other hq hne => ?_,
    hagain.ordered⟩
  · rw [hagain.node?, Node.ofFiles_append, Node.ofFiles_singleton, Node.ofFiles_singleton]
    unfold Node.ofFile
    split
    · rfl
    · split <;> rfl
  · have hne : q ≠ p := hne _ (List.mem_singleton_self _)
    exact hagain.file q other hq (by simpa using hne)

/-! ## Files below a directory -/

/-- The stops of a path text lie on the way to its place, or are directories. -/
def Anchored (d : Disk) (out : String) : Prop :=
  ∀ stop ∈ d.stops out, stop <+: d.place out ∨ d.root.node? stop = some .directory

theorem Anchored.of_isDirectory (h : d.Anchored out) (hwd : d'.workingDirectory = d.workingDirectory)
    (hdir : ∀ q, d.root.node? q = some .directory → d'.root.node? q = some .directory) :
    d'.Anchored out := by
  intro stop hstop
  rw [stops_congr hwd] at hstop
  rw [place_congr hwd]
  exact (h stop hstop).imp_right (hdir stop)

/-- Directories that are made where a path text leads lie on the way to its place. -/
theorem Anchored.prefix_of_reaches (h : d.Anchored out) (hreaches : d.Reaches out q)
    (hnone : d.root.node? q = none) : q <+: d.place out := by
  refine hreaches.cases.elim id fun hstop => ?_
  exact (h q hstop).resolve_right fun hdir => nomatch hnone.symm.trans hdir

theorem Anchored.join (h : d.Anchored out) (hrel : Descends rel) :
    d.Anchored (Path.join out rel) := by
  intro stop hstop
  rw [place_join hrel]
  refine (h stop (stops_join_subset hrel hstop)).imp_left fun hleads => ?_
  exact hleads.trans (List.prefix_append _ _)

theorem Anchored.grows (h : d.Anchored out)
    (hgrows : d.Grows (fun q => ∃ path ∈ Path.leading out, d.Reaches path q) d') :
    d.Grows (· <+: d.place out) d' := by
  refine hgrows.mono ?_
  rintro q hnone ⟨path, hpath, hreaches⟩
  obtain ⟨hne, rfl | habove⟩ := Path.mem_leading hpath
  · exact h.prefix_of_reaches hreaches hnone
  · exact h.prefix_of_reaches (hreaches.of_isAbove habove hne) hnone

theorem Anchored.grows_parent (h : d.Anchored path)
    (hgrows : d.Grows (fun q => ∃ above ∈ Path.leading (Path.parent path), d.Reaches above q) d') :
    d.Grows (· <+: d.place path) d' := by
  refine hgrows.mono ?_
  rintro q hnone ⟨above, hmem, hreaches⟩
  obtain ⟨hne, habove⟩ := Path.mem_leading_parent hmem
  exact h.prefix_of_reaches (hreaches.of_isAbove habove hne) hnone

end Disk

end TypedQuery
