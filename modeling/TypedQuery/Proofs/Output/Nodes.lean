-- SUMMARY: What the operations on a file tree change about what lies where.
import TypedQuery.Output.FileTree
import TypedQuery.Proofs.Fallible
import TypedQuery.Proofs.Names.Extensional

/-!
# Nodes of file trees

`FileTree.node?` tells what lies at a path: a file with its content, a directory, or nothing. An operation
that succeeds changes the nodes at one path, or below it, and no others. A tree whose directories are in
order is determined by its nodes.
-/
namespace TypedQuery

/-- A file with its content, or a directory. -/
inductive Node where
  | file (content : ByteArray)
  | directory

instance Node.decEq : DecidableEq Node
  | .file a, .file b =>
    decidable_of_iff (a.data = b.data) (by rw [Node.file.injEq, ByteArray.ext_iff])
  | .directory, .directory => isTrue rfl
  | .file _, .directory | .directory, .file _ => isFalse nofun

namespace FileTree

def node : FileTree → Node
  | file content => .file content
  | directory _ => .directory

/-- What lies at a path, if there is something. -/
def node? (t : FileTree) (path : List String) : Option Node :=
  match t.find path with
  | .ok found => some found.node
  | .error _ => none

variable {t t' u : FileTree} {path base rest : List String} {name other : String}
  {content : ByteArray} {entries : List (String × FileTree)} {fault : FileFault}

@[simp] theorem node?_nil : t.node? [] = some t.node := by
  cases t <;> rfl

@[simp] theorem node?_file_cons : (file content).node? (name :: path) = none := rfl

@[simp] theorem node?_directory_cons : (directory entries).node? (name :: path) =
    if 255 < name.utf8ByteSize then none else (entries.lookup name).bind (·.node? path) := by
  unfold node?
  rw [find, child]
  by_cases hlong : 255 < name.utf8ByteSize
  · rw [if_pos hlong, if_pos hlong]
  · rw [if_neg hlong, if_neg hlong]
    cases entries.lookup name <;> rfl

theorem node?_eq_file_iff : t.node? path = some (.file content) ↔
    t.find path = .ok (.file content) := by
  unfold node?
  cases hfind : t.find path with
  | error fault => simp
  | ok found => cases found <;> simp [node]

theorem node?_eq_directory_iff : t.node? path = some .directory ↔
    ∃ entries, t.find path = .ok (.directory entries) := by
  unfold node?
  cases hfind : t.find path with
  | error fault => simp
  | ok found => cases found <;> simp [node]

theorem node?_eq_none_iff : t.node? path = none ↔ (t.find path).isOk = false := by
  unfold node?
  cases t.find path <;> simp [Except.isOk, Except.toBool]

theorem find_append : t.find (base ++ rest) = (t.find base).bind (·.find rest) := by
  induction base generalizing t with
  | nil => cases t <;> rfl
  | cons name base ih =>
    cases t with
    | file content => rfl
    | directory entries =>
      rw [List.cons_append, find, find]
      split
      · rfl
      · rfl
      · exact ih

/-- Whatever lies somewhere lies in directories. -/
theorem isDirectory_above (hleads : base <+: path) (hne : base ≠ path)
    (h : t.node? path ≠ none) : t.node? base = some .directory := by
  obtain ⟨rest, rfl⟩ := hleads
  cases rest with
  | nil => exact absurd (List.append_nil base).symm hne
  | cons name rest =>
    rw [ne_eq, node?_eq_none_iff, find_append] at h
    rw [node?_eq_directory_iff]
    cases hbase : t.find base with
    | error fault => exact absurd (by rw [hbase]; rfl) h
    | ok found =>
      cases found with
      | directory entries => exact ⟨entries, rfl⟩
      | file content => exact absurd (by rw [hbase]; rfl) h

theorem isDirectory_of_concat (h : t.node? (base ++ [name]) ≠ none) :
    t.node? base = some .directory :=
  isDirectory_above (List.prefix_append base [name]) (by simp) h

/-- Nothing lies in a file, or where there is nothing. -/
theorem node?_eq_none_below (hleads : base <+: path) (hne : base ≠ path)
    (h : t.node? base ≠ some .directory) : t.node? path = none :=
  Decidable.byContradiction fun hpath => h (isDirectory_above hleads hne hpath)

theorem node?_concat (h : t.find base = .ok (.directory entries)) : t.node? (base ++ rest) =
    (directory entries).node? rest := by
  unfold node?
  rw [find_append, h]
  rfl

/-- A name under which something lies is short enough. -/
theorem length_of_node?_concat (h : t.node? (base ++ [name]) ≠ none) :
    ¬ 255 < name.utf8ByteSize := by
  intro hlong
  obtain ⟨entries, hbase⟩ := node?_eq_directory_iff.1 (isDirectory_of_concat h)
  rw [node?_concat hbase, node?_directory_cons, if_pos hlong] at h
  exact h rfl

/-! ## Entries of a directory -/

theorem short_of_child {found : Option FileTree} (h : child entries name = .ok found) :
    ¬ 255 < name.utf8ByteSize := by
  intro hlong
  rw [child, if_pos hlong] at h
  cases h

theorem lookup_of_child {found : Option FileTree} (h : child entries name = .ok found) :
    entries.lookup name = found := by
  rw [child, if_neg (short_of_child h)] at h
  exact Except.ok.inj h

theorem node?_eq_map_of_child {found : Option FileTree} (h : child entries name = .ok found) :
    (directory entries).node? [name] = found.map node := by
  rw [node?_directory_cons, if_neg (short_of_child h), lookup_of_child h]
  cases found <;> simp

theorem lookup_put : (put entries name t).lookup other =
    if other = name then some t else entries.lookup other := by
  induction entries with
  | nil => simp [put, NameMap.updateIn, NameMap.lookup_cons]
  | cons entry rest ih =>
    obtain ⟨first, found⟩ := entry
    rw [put] at ih ⊢
    rw [NameMap.updateIn]
    split
    · rw [NameMap.lookup_cons]
    · split
      · next h =>
        subst h
        rw [NameMap.lookup_cons, NameMap.lookup_cons]
        by_cases hother : other = name <;> simp [hother]
      · next hne =>
        rw [NameMap.lookup_cons, NameMap.lookup_cons, ih]
        by_cases hother : other = first
        · simp [hother, Ne.symm hne]
        · simp [hother]

theorem lookup_without : (without entries name).lookup other =
    if other = name then none else entries.lookup other := by
  induction entries with
  | nil => simp [without]
  | cons entry rest ih =>
    obtain ⟨first, found⟩ := entry
    rw [without] at ih ⊢
    rw [List.filter_cons]
    by_cases hfirst : first = name
    · subst hfirst
      rw [if_neg (by simp), ih, NameMap.lookup_cons]
      by_cases hother : other = first <;> simp [hother]
    · rw [if_pos (by simpa using hfirst), NameMap.lookup_cons, NameMap.lookup_cons, ih]
      by_cases hother : other = first
      · simp [hother, hfirst]
      · simp [hother]

theorem mem_put {entry : String × FileTree} (h : entry ∈ put entries name t) :
    entry = (name, t) ∨ entry ∈ entries := by
  induction entries with
  | nil => simpa [put, NameMap.updateIn] using h
  | cons first rest ih =>
    rw [put] at ih h
    rw [NameMap.updateIn] at h
    split at h
    · simpa using h
    · split at h
      · next heq =>
        rcases List.mem_cons.1 h with hfirst | hrest
        · exact .inl (heq ▸ hfirst)
        · exact .inr (List.mem_cons_of_mem _ hrest)
      · rcases List.mem_cons.1 h with hfirst | hrest
        · exact .inr (hfirst ▸ List.mem_cons_self)
        · exact (ih hrest).imp_right (List.mem_cons_of_mem _)

/-! ## Changes -/

section Changes

variable {change : Option FileTree → Except FileFault (Option FileTree)} {slot : Option FileTree}

theorem alter_cons_concat : alter change (name :: (base ++ [other])) (directory entries) =
    match child entries name with
    | .error fault => .error fault
    | .ok none => .error .notFound
    | .ok (some t) =>
      (alter change (base ++ [other]) t).map fun t => .directory (put entries name t) := by
  cases base <;> rfl

/-- Inside a directory, a change goes as it goes for what the directory has under the name. -/
theorem alter_unit_of_find (name : String)
    (change : Option FileTree → Except FileFault (Option FileTree))
    (h : t.find base = .ok (.directory entries)) :
    (alter change (base ++ [name]) t).map (fun _ => ()) =
      ((child entries name).bind change).map fun _ => () := by
  induction base generalizing t with
  | nil =>
    cases t with
    | file content => cases h
    | directory others =>
      cases h
      rw [List.nil_append, alter]
      split <;> next hchange => rw [hchange]; rfl
  | cons first base ih =>
    cases t with
    | file content => cases h
    | directory others =>
      rw [find] at h
      rw [List.cons_append, alter_cons_concat]
      cases hchild : child others first with
      | error fault =>
        rw [hchild] at h
        cases h
      | ok found =>
        rw [hchild] at h
        cases found with
        | none => cases h
        | some t =>
          rw [← ih h]
          dsimp only
          cases alter change (base ++ [name]) t <;> rfl

/-- A change of an entry puts what it makes of the entry in its place. -/
theorem exists_of_alter_here (h : alter change [name] t = .ok t') :
    ∃ entries old slot others, t = directory entries ∧ child entries name = .ok old ∧
      change old = .ok slot ∧ t' = directory others ∧
      ∀ other, others.lookup other = if other = name then slot else entries.lookup other := by
  cases t with
  | file content => cases h
  | directory entries =>
    rw [alter] at h
    cases hchange : (child entries name).bind change with
    | error fault =>
      rw [hchange] at h
      cases h
    | ok slot =>
      rw [hchange] at h
      obtain ⟨old, hold, hslot⟩ := bind_eq_ok_iff.1 hchange
      cases slot with
      | none =>
        cases h
        exact ⟨entries, old, none, _, rfl, hold, hslot, rfl, fun other => lookup_without⟩
      | some u =>
        cases h
        exact ⟨entries, old, some u, _, rfl, hold, hslot, rfl, fun other => lookup_put⟩

/-- A change further inside changes the entry that leads there. -/
theorem exists_of_alter_inside (h : alter change (name :: (base ++ [other])) t = .ok t') :
    ∃ entries u u', t = directory entries ∧ child entries name = .ok (some u) ∧
      alter change (base ++ [other]) u = .ok u' ∧ t' = directory (put entries name u') := by
  cases t with
  | file content => cases base <;> cases h
  | directory entries =>
    rw [alter_cons_concat] at h
    cases hchild : child entries name with
    | error fault =>
      rw [hchild] at h
      cases h
    | ok found =>
      rw [hchild] at h
      cases found with
      | none => cases h
      | some u =>
        obtain ⟨u', hu', rfl⟩ := map_eq_ok_iff.1 h
        exact ⟨entries, u, u', rfl, hchild, hu', rfl⟩

/-- What a successful change makes of what lies at a path takes its place. All else stays. -/
theorem node?_of_alter (h : alter change (base ++ [name]) t = .ok t') :
    ∃ old slot, t.node? (base ++ [name]) = old.map node ∧ change old = .ok slot ∧
      (∀ rest, t'.node? (base ++ name :: rest) = slot.bind (·.node? rest)) ∧
      ∀ path, ¬ base ++ [name] <+: path → t'.node? path = t.node? path := by
  -- The induction is on the directories that lead to the entry.
  induction base generalizing t t' with
  | nil =>
    obtain ⟨entries, old, slot, others, rfl, hold, hslot, rfl, hlookup⟩ := exists_of_alter_here h
    refine ⟨old, slot, node?_eq_map_of_child hold, hslot, fun rest => ?_, fun path hpath => ?_⟩
    · rw [List.nil_append, node?_directory_cons, if_neg (short_of_child hold), hlookup, if_pos rfl]
    · cases path with
      | nil => rfl
      | cons first rest =>
        have hfirst : first ≠ name := by
          rintro rfl
          exact hpath (by simp)
        rw [node?_directory_cons, node?_directory_cons, hlookup, if_neg hfirst]
  | cons first base ih =>
    obtain ⟨entries, u, u', rfl, hu, hu', rfl⟩ := exists_of_alter_inside h
    obtain ⟨old, slot, hplace, hslot, hbelow, hframe⟩ := ih hu'
    have hshort := short_of_child hu
    refine ⟨old, slot, ?_, hslot, fun rest => ?_, fun path hpath => ?_⟩
    · rw [List.cons_append, node?_directory_cons, if_neg hshort, lookup_of_child hu]
      exact hplace
    · rw [List.cons_append, node?_directory_cons, if_neg hshort, lookup_put, if_pos rfl]
      exact hbelow rest
    · cases path with
      | nil => rfl
      | cons other rest =>
        rw [node?_directory_cons, node?_directory_cons, lookup_put]
        by_cases hother : other = first
        · subst hother
          have hrest : ¬ base ++ [name] <+: rest := fun hrest =>
            hpath (List.cons_prefix_cons.2 ⟨rfl, hrest⟩)
          rw [if_pos rfl, lookup_of_child hu, Option.bind_some, Option.bind_some, hframe rest hrest]
        · rw [if_neg hother]

/-- A change that no directory allows is none of the root. -/
theorem exists_concat_of_alter (h : alter change path t = .ok t')
    (hchange : ∀ entries slot, change (some (directory entries)) ≠ .ok slot) :
    ∃ base name, path = base ++ [name] := by
  rcases List.eq_nil_or_concat path with rfl | ⟨base, name, rfl⟩
  · cases t with
    | file content => cases h
    | directory entries =>
      obtain ⟨slot, hslot, -⟩ := map_eq_ok_iff.1 h
      exact absurd hslot (hchange entries slot)
  · exact ⟨base, name, List.concat_eq_append⟩

theorem exists_alter (slot : Option FileTree) (h : t.find base = .ok (.directory entries))
    (hchange : (child entries name).bind change = .ok slot) :
    ∃ t', alter change (base ++ [name]) t = .ok t' := by
  have hunit := alter_unit_of_find name change h
  rw [hchange] at hunit
  obtain ⟨t', ht', -⟩ := map_eq_ok_iff.1 hunit
  exact ⟨t', ht'⟩

theorem alter_eq_error (h : t.find base = .ok (.directory entries))
    (hchange : (child entries name).bind change = .error fault) :
    alter change (base ++ [name]) t = .error fault := by
  have hunit := alter_unit_of_find name change h
  rw [hchange] at hunit
  cases halter : alter change (base ++ [name]) t with
  | ok t' =>
    rw [halter] at hunit
    cases hunit
  | error other =>
    rw [halter] at hunit
    cases hunit
    rfl

/-- A change that puts something bare in the place of what is no directory changes one node. -/
theorem node?_of_alter_bare (h : alter change (base ++ [name]) t = .ok t')
    (hchange : ∀ old slot, change old = .ok slot →
      slot = some u ∧ old.map node ≠ some .directory)
    (hbare : ∀ first rest, u.node? (first :: rest) = none) :
    (∃ old, t.node? (base ++ [name]) = old.map node ∧ change old = .ok (some u)) ∧
      t.node? (base ++ [name]) ≠ some .directory ∧
      ∀ path, t'.node? path = if path = base ++ [name] then some u.node else t.node? path := by
  obtain ⟨old, slot, hplace, hslot, hbelow, hframe⟩ := node?_of_alter h
  obtain ⟨rfl, hnot⟩ := hchange old slot hslot
  rw [← hplace] at hnot
  refine ⟨⟨old, hplace, hslot⟩, hnot, fun path => ?_⟩
  by_cases hleads : base ++ [name] <+: path
  · obtain ⟨rest, rfl⟩ := hleads
    cases rest with
    | nil => simpa using hbelow []
    | cons first rest =>
      -- Below the place there was nothing before, since it was no directory, and what is put there
      -- is bare.
      have hbefore : t.node? (base ++ [name] ++ first :: rest) = none :=
        node?_eq_none_below (List.prefix_append _ _) (by simp) hnot
      have hafter := hbelow (first :: rest)
      rw [Option.bind_some, hbare] at hafter
      rw [if_neg (by simp), hbefore, ← hafter]
      simp
  · have hne : path ≠ base ++ [name] := by
      rintro rfl
      exact hleads (List.prefix_refl _)
    rw [if_neg hne, hframe path hleads]

end Changes

/-! ## Operations that succeed -/

/-- Writing a file changes the node at its place, and that was no directory. -/
theorem node?_write (h : t.write path content = .ok t') :
    t.node? path ≠ some .directory ∧
      ∀ other, t'.node? other = if other = path then some (.file content) else t.node? other := by
  obtain ⟨base, name, rfl⟩ := exists_concat_of_alter h (by simp)
  refine (node?_of_alter_bare (u := file content) h (fun old slot hslot => ?_)
    fun _ _ => node?_file_cons).2
  match old, hslot with
  | none, rfl => exact ⟨rfl, nofun⟩
  | some (.file _), rfl => exact ⟨rfl, nofun⟩

/-- Making a directory changes the node at its place, and there was none. -/
theorem node?_makeDirectory (h : t.makeDirectory path = .ok t') :
    t.node? path = none ∧
      ∀ other, t'.node? other = if other = path then some .directory else t.node? other := by
  obtain ⟨base, name, rfl⟩ := exists_concat_of_alter h (by simp)
  obtain ⟨⟨old, hplace, hold⟩, -, hnodes⟩ := node?_of_alter_bare (u := empty) h
    (fun old slot hslot => by
      match old, hslot with
      | none, rfl => exact ⟨rfl, nofun⟩)
    fun first rest => by simp [empty]
  match old, hold with
  | none, _ => exact ⟨hplace, hnodes⟩

/-- Removing a directory removes what lies at its place and below. -/
theorem node?_removeDirectory (h : t.removeDirectory (base ++ [name]) = .ok t') :
    t'.node? path = if base ++ [name] <+: path then none else t.node? path := by
  obtain ⟨old, slot, hplace, hslot, hbelow, hframe⟩ := node?_of_alter h
  have hnone : slot = none := by
    match old, hslot with
    | some (.directory _), rfl => rfl
  subst hnone
  split
  · next hleads =>
    obtain ⟨rest, rfl⟩ := hleads
    simpa using hbelow rest
  · next hleads => exact hframe path hleads

/-! ## When operations succeed -/

theorem exists_child (hbase : t.node? base = some .directory) (hshort : ¬ 255 < name.utf8ByteSize) :
    ∃ entries old, t.find base = .ok (.directory entries) ∧ child entries name = .ok old ∧
      t.node? (base ++ [name]) = old.map node := by
  obtain ⟨entries, hentries⟩ := node?_eq_directory_iff.1 hbase
  have hchild : child entries name = .ok (entries.lookup name) := if_neg hshort
  refine ⟨entries, entries.lookup name, hentries, hchild, ?_⟩
  rw [node?_concat hentries, node?_eq_map_of_child hchild]

theorem exists_write (hbase : t.node? base = some .directory) (hshort : ¬ 255 < name.utf8ByteSize)
    (h : t.node? (base ++ [name]) ≠ some .directory) :
    ∃ t', t.write (base ++ [name]) content = .ok t' := by
  obtain ⟨entries, old, hentries, hchild, hplace⟩ := exists_child hbase hshort
  refine exists_alter (some (file content)) hentries ?_
  rw [hchild]
  match old with
  | none => rfl
  | some (.file _) => rfl
  | some (.directory _) => exact absurd hplace h

theorem exists_makeDirectory (hbase : t.node? base = some .directory)
    (hshort : ¬ 255 < name.utf8ByteSize) (h : t.node? (base ++ [name]) = none) :
    ∃ t', t.makeDirectory (base ++ [name]) = .ok t' := by
  obtain ⟨entries, old, hentries, hchild, hplace⟩ := exists_child hbase hshort
  refine exists_alter (some empty) hentries ?_
  rw [hchild]
  match old with
  | none => rfl
  | some _ => exact absurd (hplace.symm.trans h) nofun

/-- A directory is not made where there is one. -/
theorem makeDirectory_of_directory (h : t.node? path = some .directory) :
    t.makeDirectory path = .error .alreadyExists := by
  rcases List.eq_nil_or_concat path with rfl | ⟨base, name, rfl⟩
  · cases t with
    | file content => cases h
    | directory entries => rfl
  · rw [List.concat_eq_append] at h ⊢
    have hsome : t.node? (base ++ [name]) ≠ none := by simp [h]
    obtain ⟨entries, old, hentries, hchild, hplace⟩ :=
      exists_child (isDirectory_of_concat hsome) (length_of_node?_concat hsome)
    refine alter_eq_error hentries ?_
    rw [hchild]
    match old with
    | none => exact absurd hplace hsome
    | some _ => rfl

theorem exists_removeDirectory (h : t.node? (base ++ [name]) = some .directory) :
    ∃ t', t.removeDirectory (base ++ [name]) = .ok t' := by
  have hsome : t.node? (base ++ [name]) ≠ none := by simp [h]
  obtain ⟨entries, old, hentries, hchild, hplace⟩ :=
    exists_child (isDirectory_of_concat hsome) (length_of_node?_concat hsome)
  refine exists_alter none hentries ?_
  rw [hchild]
  rw [hplace] at h
  match old with
  | some (.directory _) => rfl
  | none => cases h
  | some (.file _) => cases h

end FileTree

end TypedQuery
