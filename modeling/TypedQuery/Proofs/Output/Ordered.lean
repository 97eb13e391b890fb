-- SUMMARY: File trees whose directories are in order are determined by what lies where.
import TypedQuery.Proofs.Output.Nodes

/-!
# Ordered file trees

The names of the entries of a directory ascend, and none is too long. Operations keep it that way, and
between trees of this kind what lies at the paths makes all the difference.
-/
namespace TypedQuery.FileTree

/-- The names in each directory ascend, and none of them is too long. -/
inductive Ordered : FileTree → Prop
  | file {content : ByteArray} : Ordered (.file content)
  | directory {entries : List (String × FileTree)}
      (ascending : (entries.map (·.1)).Pairwise (· < ·))
      (short : ∀ entry ∈ entries, ¬ 255 < entry.1.utf8ByteSize)
      (ordered : ∀ entry ∈ entries, Ordered entry.2) : Ordered (.directory entries)

variable {t t' : FileTree} {path : List String} {content : ByteArray}
  {entries : List (String × FileTree)} {name : String}
  {change : Option FileTree → Except FileFault (Option FileTree)}

theorem Ordered.put (h : (FileTree.directory entries).Ordered)
    (hname : ¬ 255 < name.utf8ByteSize) (ht : t.Ordered) :
    (FileTree.directory (FileTree.put entries name t)).Ordered := by
  cases h with
  | directory ascending short ordered =>
    refine .directory (NameMap.ascending_updateIn ascending) (fun entry hentry => ?_)
      fun entry hentry => ?_
    · rcases mem_put hentry with rfl | hentry
      · exact hname
      · exact short entry hentry
    · rcases mem_put hentry with rfl | hentry
      · exact ht
      · exact ordered entry hentry

theorem Ordered.without (h : (FileTree.directory entries).Ordered) :
    (FileTree.directory (FileTree.without entries name)).Ordered := by
  cases h with
  | directory ascending short ordered =>
    have hmem : ∀ entry ∈ FileTree.without entries name, entry ∈ entries := fun entry hentry =>
      List.mem_of_mem_filter hentry
    exact .directory (ascending.sublist (List.filter_sublist.map _))
      (fun entry hentry => short entry (hmem entry hentry))
      fun entry hentry => ordered entry (hmem entry hentry)

theorem Ordered.child (h : (FileTree.directory entries).Ordered)
    (hchild : FileTree.child entries name = .ok (some t)) : t.Ordered := by
  cases h with
  | directory ascending short ordered =>
    exact ordered _ ((NameMap.lookup_eq_some_iff ascending).1 (lookup_of_child hchild))

/-- A change that gives ordered trees keeps a tree ordered. -/
theorem Ordered.alter (ht : t.Ordered) (h : alter change path t = .ok t')
    (hchange : ∀ old u, change old = .ok (some u) → u.Ordered) : t'.Ordered := by
  induction path, t using FileTree.alter.induct change generalizing t' with
  | case1 path content => cases path <;> cases h
  | case2 entries =>
    obtain ⟨slot, hslot, rfl⟩ := map_eq_ok_iff.1 h
    cases slot with
    | none => exact .directory (by simp) (by simp) (by simp)
    | some u => exact hchange _ u hslot
  | case3 name entries fault hfault =>
    rw [FileTree.alter, hfault] at h
    cases h
  | case4 name entries hnone =>
    rw [FileTree.alter, hnone] at h
    cases h
    exact ht.without
  | case5 name entries u hu =>
    rw [FileTree.alter, hu] at h
    cases h
    obtain ⟨old, hold, hnew⟩ := bind_eq_ok_iff.1 hu
    exact ht.put (short_of_child hold) (hchange old u hnew)
  | case6 name next rest entries fault hfault =>
    rw [FileTree.alter, hfault] at h
    cases h
  | case7 name next rest entries hnone =>
    rw [FileTree.alter, hnone] at h
    cases h
  | case8 name next rest entries u hu ih =>
    rw [FileTree.alter, hu] at h
    obtain ⟨u', hu', rfl⟩ := map_eq_ok_iff.1 h
    exact ht.put (short_of_child hu) (ih (ht.child hu) hu')

theorem Ordered.write (ht : t.Ordered) (h : t.write path content = .ok t') : t'.Ordered := by
  refine ht.alter h fun old u hu => ?_
  match old, hu with
  | none, rfl => exact .file
  | some (.file _), rfl => exact .file

theorem Ordered.makeDirectory (ht : t.Ordered) (h : t.makeDirectory path = .ok t') :
    t'.Ordered := by
  refine ht.alter h fun old u hu => ?_
  match old, hu with
  | none, rfl => exact .directory (by simp) (by simp) (by simp)

theorem Ordered.removeDirectory (ht : t.Ordered) (h : t.removeDirectory path = .ok t') :
    t'.Ordered := by
  refine ht.alter h fun old u hu => ?_
  match old, hu with
  | some (.directory _), hu => cases hu

theorem eq_of_node?_eq {a b : Option FileTree}
    (h : ∀ path, a.bind (·.node? path) = b.bind (·.node? path))
    (hsome : ∀ u, a = some u → ∀ u', b = some u' → (∀ path, u.node? path = u'.node? path) → u = u') :
    a = b := by
  match a, b with
  | none, none => rfl
  | none, some u' => exact absurd (h []) (by simp)
  | some u, none => exact absurd (h []) (by simp)
  | some u, some u' => rw [hsome u rfl u' rfl h]

/-- Ordered trees with the same nodes are equal. -/
theorem Ordered.ext (ht : t.Ordered) (ht' : t'.Ordered)
    (h : ∀ path, t.node? path = t'.node? path) : t = t' := by
  induction ht generalizing t' with
  | file =>
    have hroot := h []
    cases ht' with
    | file =>
      cases hroot
      rfl
    | directory => cases hroot
  | @directory entries ascending short ordered ih =>
    have hroot := h []
    cases ht' with
    | file => cases hroot
    | @directory others ascending' short' ordered' =>
      -- The nodes below a name are those of its entry, so that the entries are equal by induction.
      have hlookup (name : String) (hname : ¬ 255 < name.utf8ByteSize) :
          entries.lookup name = others.lookup name := by
        refine eq_of_node?_eq (fun rest => ?_) fun u hu u' hu' hnodes => ?_
        · simpa only [node?_directory_cons, if_neg hname] using h (name :: rest)
        · exact ih _ ((NameMap.lookup_eq_some_iff ascending).1 hu)
            (ordered' _ ((NameMap.lookup_eq_some_iff ascending').1 hu')) hnodes
      have hentries : entries = others := by
        refine eq_of_ascending (List.pairwise_map.1 ascending) (List.pairwise_map.1 ascending') ?_
        rintro ⟨name, u⟩
        rw [← NameMap.lookup_eq_some_iff ascending, ← NameMap.lookup_eq_some_iff ascending']
        constructor
        · intro hu
          rw [← hlookup name (short _ ((NameMap.lookup_eq_some_iff ascending).1 hu)), hu]
        · intro hu
          rw [hlookup name (short' _ ((NameMap.lookup_eq_some_iff ascending').1 hu)), hu]
      rw [hentries]

end TypedQuery.FileTree
