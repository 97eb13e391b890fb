-- SUMMARY: What a run of the generator that meets no fault has done to the disk.
import TypedQuery.Output.Generation
import TypedQuery.Proofs.Output.Files

/-!
# Runs of the generator

The file system may refuse an operation; the fault ends the run. A run that meets no fault has carried out
every operation that it has come to, so that its end says what all of them have done.
-/
namespace TypedQuery

namespace World

variable {α β : Type} {x : ExceptT Error (StateM World) α}
  {f : α → ExceptT Error (StateM World) β} {w w' : World} {r : Except Error β} {path : String}
  {operation : StateM World (Except FileFault Unit)} {next : Unit → ExceptT Error (StateM World) β}

/-- No operation on files has failed. -/
def Unfaulted (r : Except Error α) : Prop := ∀ fault, r ≠ .error (.file fault)

theorem run_bind : (x >>= f).run.run w = match x.run.run w with
    | (.ok a, w') => (f a).run.run w'
    | (.error failure, w') => (.error failure, w') := by
  rw [ExceptT.run_bind, StateT.run_bind]
  obtain ⟨r, w'⟩ := x.run.run w
  cases r <;> rfl

theorem exists_of_bind (h : (x >>= f).run.run w = (r, w')) (hr : Unfaulted r) :
    (∃ a w₁, x.run.run w = (.ok a, w₁) ∧ (f a).run.run w₁ = (r, w')) ∨
      ∃ failure, x.run.run w = (.error failure, w') ∧ r = .error failure ∧
        Unfaulted (.error failure : Except Error α) := by
  rw [run_bind] at h
  revert h
  obtain ⟨found, w₁⟩ := x.run.run w
  intro h
  cases found with
  | ok a => exact .inl ⟨a, w₁, rfl, h⟩
  | error failure =>
    cases h
    refine .inr ⟨failure, rfl, rfl, fun fault => ?_⟩
    rintro ⟨⟩
    exact hr fault rfl

theorem exists_of_bind_pure {g : α → β} (h : (x >>= fun a => pure (g a)).run.run w = (r, w'))
    (hr : Unfaulted r) : ∃ found, x.run.run w = (found, w') ∧ Unfaulted found ∧ r = found.map g := by
  rcases exists_of_bind h hr with ⟨a, w₁, ha, hend⟩ | ⟨failure, hfailure, rfl, hunfaulted⟩
  · cases hend
    exact ⟨.ok a, ha, nofun, rfl⟩
  · exact ⟨.error failure, hfailure, hunfaulted, rfl⟩

theorem run_attempt : (host.attempt path operation).run.run w = match operation.run w with
    | (.ok (), w') => (.ok (), w')
    | (.error fault, w') =>
      (.error (.file fault), { w' with events := w'.events ++ [.fileFailure path fault] }) := by
  have hrun : (host.attempt path operation).run.run w =
      (host.attempt path fun _ => operation.run w).run.run w := rfl
  rw [hrun]
  obtain ⟨made, w₁⟩ := operation.run w
  cases made <;> rfl

/-- A run that meets no fault has carried out what it attempts. -/
theorem exists_of_attempt_bind (h : (host.attempt path operation >>= next).run.run w = (r, w'))
    (hr : Unfaulted r) :
    ∃ w₁, operation.run w = (.ok (), w₁) ∧ (next ()).run.run w₁ = (r, w') := by
  rw [run_bind, run_attempt] at h
  revert h
  obtain ⟨made, w₁⟩ := operation.run w
  intro h
  cases made with
  | ok _ => exact ⟨w₁, rfl, h⟩
  | error fault =>
    cases h
    exact absurd rfl (hr fault)

end World

/-! ## Removed folders -/

/-- What is left at a path when folders of a directory are removed. -/
def FileTree.outside (t : FileTree) (base folders q : List String) : Option Node :=
  if ∃ folder ∈ folders, base ++ [folder] <+: q then none else t.node? q

namespace Disk

variable {d d' d'' : Disk} {out rel folder : String} {base folders others stop q : List String}

/-- Folders of a directory have been removed, and nothing else has changed. -/
structure Cleared (base folders : List String) (d d' : Disk) : Prop where
  workingDirectory : d'.workingDirectory = d.workingDirectory
  node? : ∀ q, d'.root.node? q = d.root.outside base folders q
  ordered : d.root.Ordered → d'.root.Ordered

theorem Cleared.refl : d.Cleared base [] d := ⟨rfl, fun _ => by simp [FileTree.outside], id⟩

theorem Cleared.trans (h : d.Cleared base folders d') (h' : d'.Cleared base others d'') :
    d.Cleared base (folders ++ others) d'' where
  workingDirectory := h'.workingDirectory.trans h.workingDirectory
  node? q := by
    rw [h'.node?, FileTree.outside, h.node?, FileTree.outside, FileTree.outside]
    simp only [List.mem_append, or_and_right, exists_or]
    by_cases hfolders : ∃ folder ∈ folders, base ++ [folder] <+: q
    · simp [hfolders]
    · simp [hfolders]
  ordered hd := h'.ordered (h.ordered hd)

/-- The stops of a path text lie on the way to its place, or they are directories that stay when the
folders of the generator are removed from there. -/
def Steady (d : Disk) (out : String) : Prop :=
  ∀ stop ∈ d.stops out, stop <+: d.place out ∨ d.root.node? stop = some .directory ∧
    ∀ folder ∈ Folder.owned, ¬ d.place out ++ [folder] <+: stop

/-- A path text that never goes back up is steady, whatever is there. -/
theorem steady_of_not_mem (h : ".." ∉ components out) : d.Steady out := by
  intro stop hstop
  exact .inl (prefix_of_mem_halts h hstop)

theorem Steady.anchored (h : d.Steady out) : d.Anchored out :=
  fun stop hstop => (h stop hstop).imp_right And.left

theorem Steady.cleared (h : d.Steady out) (hcleared : d.Cleared (d.place out) folders d')
    (hfolders : folders ⊆ Folder.owned) : d'.Steady out := by
  intro stop hstop
  rw [stops_congr hcleared.workingDirectory] at hstop
  rw [place_congr hcleared.workingDirectory]
  refine (h stop hstop).imp_right fun ⟨hdir, houtside⟩ => ⟨?_, houtside⟩
  rw [hcleared.node?, FileTree.outside, if_neg, hdir]
  rintro ⟨folder, hfolder, hleads⟩
  exact houtside folder (hfolders hfolder) hleads

theorem cleared_of_removeDirectory (hfolder : components folder = [folder]) (hname : ¬ IsDots folder)
    (h : d.removeDirectory (Path.join out folder) = .ok d') :
    d.Cleared (d.place out) [folder] d' := by
  obtain ⟨p, hp, hrest⟩ := bind_eq_ok_iff.1 h
  obtain ⟨root, hroot, hd⟩ := bind_eq_ok_iff.1 hrest
  cases hd
  obtain ⟨-, -, rfl⟩ := resolve_eq_ok_iff.1 hp
  rw [place_join_of_name hfolder hname] at hroot
  refine ⟨rfl, fun q => ?_, fun hd => hd.removeDirectory hroot⟩
  rw [FileTree.node?_removeDirectory hroot, FileTree.outside]
  simp

/-- Where no folder is seen, there is none. -/
theorem cleared_of_contains (hd : d.Anchored out) (hfolder : components folder = [folder])
    (hname : ¬ IsDots folder) (hcheck : checkText (Path.join out folder) = .ok ())
    (h : d.contains (Path.join out folder) = false) : d.Cleared (d.place out) [folder] d := by
  have hdescends := descends_of_name hfolder hname
  have hnone : d.root.node? (d.place out ++ [folder]) = none := by
    by_cases hstops : ∀ stop ∈ d.stops (Path.join out folder), d.root.node? stop = some .directory
    · rw [contains, find, resolve_eq_ok_iff.2 ⟨hcheck, hstops, rfl⟩, place_join_of_name hfolder
        hname] at h
      exact FileTree.node?_eq_none_iff.2 h
    · push Not at hstops
      -- Some directory on the way is missing, so nothing can lie further down.
      obtain ⟨stop, hstop, hnot⟩ := hstops
      have habove : stop <+: d.place out :=
        (hd stop (stops_join_subset hdescends hstop)).resolve_right hnot
      refine FileTree.node?_eq_none_below (habove.trans (List.prefix_append _ _)) ?_ hnot
      rintro rfl
      have hlength := habove.length_le
      rw [List.length_append, List.length_singleton] at hlength
      omega
  refine ⟨rfl, fun q => ?_, id⟩
  rw [FileTree.outside]
  split
  · next hbelow =>
    obtain ⟨other, hother, hleads⟩ := hbelow
    rw [List.mem_singleton.1 hother] at hleads
    by_cases hq : d.place out ++ [folder] = q
    · exact hq ▸ hnone
    · exact FileTree.node?_eq_none_below hleads hq (by simp [hnone])
  · rfl

/-- Where a path text stops on its way and no directory is there, nothing is seen of what lies at its
place. -/
theorem contains_join_of_stop (hrel : Descends rel) (hstop : stop ∈ d.stops out)
    (hne : stop ≠ d.place out) (h : d.root.node? stop ≠ some .directory) :
    d.contains (Path.join out rel) = false := by
  rw [contains, Bool.eq_false_iff]
  intro hfound
  obtain ⟨found, hfind⟩ := exists_of_isOk hfound
  obtain ⟨p, hp, -⟩ := bind_eq_ok_iff.1 hfind
  obtain ⟨-, hstops, -⟩ := resolve_eq_ok_iff.1 hp
  exact h (hstops stop ((mem_stops_of_join hrel hstop).resolve_right hne))

end Disk

namespace World

variable {out folder path : String} {folders : List String} {w w' : World} {r : Except Error Unit}

theorem run_clearFolder : (host.clearFolder out folder).run.run w =
    if w.disk.contains (Path.join out folder) then
      (host.attempt (Path.join out folder) (host.removeDirectory (Path.join out folder))).run.run
        { w with events := w.events ++ [.removing (Path.join out folder)] }
    else (.ok (), w) := by
  have hrun : (host.clearFolder out folder).run.run w =
      ((if w.disk.contains (Path.join out folder) then do
        host.report (.removing (Path.join out folder))
        host.attempt (Path.join out folder) (host.removeDirectory (Path.join out folder))
      else pure ()) : ExceptT Error (StateM World) Unit).run.run w := rfl
  rw [hrun]
  split <;> rfl

theorem run_removeDirectory : (host.removeDirectory path).run w =
    match w.disk.removeDirectory path with
    | .ok disk => (.ok (), { w with disk })
    | .error fault => (.error fault, w) :=
  run_change (·.removeDirectory path)

theorem cleared_of_clearFolder (hfolder : Disk.components folder = [folder])
    (hname : ¬ Disk.IsDots folder) (h : (host.clearFolder out folder).run.run w = (r, w'))
    (hr : Unfaulted r) : r = .ok () ∧
      (w.disk.Anchored out → Disk.checkText (Path.join out folder) = .ok () →
        w.disk.Cleared (w.disk.place out) [folder] w'.disk) := by
  rw [run_clearFolder] at h
  split at h
  · rw [run_attempt, run_removeDirectory] at h
    dsimp only at h
    cases hremove : w.disk.removeDirectory (Path.join out folder) with
    | ok disk =>
      rw [hremove] at h
      cases h
      exact ⟨rfl, fun _ _ => Disk.cleared_of_removeDirectory hfolder hname hremove⟩
    | error fault =>
      rw [hremove] at h
      cases h
      exact absurd rfl (hr fault)
  · next hcontains =>
    cases h
    exact ⟨rfl, fun hw hcheck =>
      Disk.cleared_of_contains hw hfolder hname hcheck (Bool.eq_false_iff.2 hcontains)⟩

/-- A text that stands for a folder of the generator. -/
theorem folder_of_mem_owned (h : folder ∈ Folder.owned) :
    Disk.components folder = [folder] ∧ ¬ Disk.IsDots folder := by
  revert folder
  decide

/-- Folders that are not seen are not removed. -/
theorem run_clearFolders_of_unseen
    (h : ∀ folder ∈ folders, w.disk.contains (Path.join out folder) = false) :
    (folders.forM (host.clearFolder out)).run.run w = (.ok (), w) := by
  induction folders with
  | nil => rfl
  | cons folder rest ih =>
    obtain ⟨hfolder, hrest⟩ := List.forall_mem_cons.1 h
    change (host.clearFolder out folder >>= fun _ => rest.forM (host.clearFolder out)).run.run w = _
    rw [run_bind, run_clearFolder, hfolder]
    exact ih hrest

/-- A run that meets no fault removes the folders that are there, if they can be named. -/
theorem cleared_of_clearFolders (hfolders : folders ⊆ Folder.owned)
    (h : (folders.forM (host.clearFolder out)).run.run w = (r, w')) (hr : Unfaulted r) :
    r = .ok () ∧ (w.disk.Steady out →
      (∀ folder ∈ Folder.owned, Disk.checkText (Path.join out folder) = .ok ()) →
        w.disk.Cleared (w.disk.place out) folders w'.disk) := by
  induction folders generalizing w with
  | nil =>
    cases h
    exact ⟨rfl, fun _ _ => Disk.Cleared.refl⟩
  | cons folder rest ih =>
    obtain ⟨hfolder, hrest⟩ := List.cons_subset.1 hfolders
    obtain ⟨hcomponents, hname⟩ := folder_of_mem_owned hfolder
    have hbind : (host.clearFolder out folder >>= fun _ =>
        rest.forM (host.clearFolder out)).run.run w = (r, w') := h
    rcases exists_of_bind hbind hr with ⟨_, w₁, hfirst, hothers⟩ | ⟨failure, hfirst, -, hfailure⟩
    · obtain ⟨-, hclearedFirst⟩ := cleared_of_clearFolder hcomponents hname hfirst nofun
      obtain ⟨hok, hclearedRest⟩ := ih hrest hothers
      refine ⟨hok, fun hw hcheck => ?_⟩
      have hcleared := hclearedFirst hw.anchored (hcheck folder hfolder)
      -- The text stays steady when one folder goes, so the others are still found at the same
      -- place.
      have hothers := hclearedRest (hw.cleared hcleared (by simpa using hfolder)) hcheck
      rw [Disk.place_congr hcleared.workingDirectory] at hothers
      exact hcleared.trans hothers
    · cases (cleared_of_clearFolder hcomponents hname hfirst hfailure).1

end World

/-! ## Written files -/

theorem Disk.exists_of_write {d d' : Disk} {path : String} {content : ByteArray}
    (h : d.write path content = .ok d') : checkText path = .ok () ∧
      (∀ stop ∈ d.stops path, d.root.node? stop = some .directory) ∧
      ∃ root, d.root.write (d.place path) content = .ok root ∧ d' = { d with root } := by
  obtain ⟨p, hp, hrest⟩ := bind_eq_ok_iff.1 h
  obtain ⟨root, hroot, hd⟩ := bind_eq_ok_iff.1 hrest
  cases hd
  obtain ⟨hcheck, hstops, rfl⟩ := resolve_eq_ok_iff.1 hp
  exact ⟨hcheck, hstops, root, hroot, rfl⟩

/-- What a file is left with for which there is a text, or none. -/
def contentOf : Except Error String → ByteArray
  | .ok text => text.toUTF8
  | .error _ => .empty

namespace World

variable {out rel path : String} {text : Except Error String} {w w' : World}
  {r : Except Error String}

theorem disk_of_change (change : Disk → Except FileFault Disk)
    (h : (World.change change).run w = (.ok (), w')) : change w.disk = .ok w'.disk := by
  rw [run_change] at h
  cases hchange : change w.disk with
  | ok disk =>
    rw [hchange] at h
    cases h
    rfl
  | error fault =>
    rw [hchange] at h
    cases h

/-- What a run writes that meets no fault. Where the directories are made that are missing is known if
they can only be missing on the way. -/
theorem written_of_writeFile (h : (host.writeFile path text).run.run w = (r, w'))
    (hr : Unfaulted r) : r = text.map (fun _ => path) ∧ Disk.checkText path = .ok () ∧
      (w.disk.Anchored path → w.disk.Written [(w.disk.place path, contentOf text)] w'.disk ∧
        ∀ stop ∈ w.disk.stops path, w'.disk.root.node? stop = some .directory) := by
  unfold Host.writeFile at h
  obtain ⟨w₁, hmake, hrest⟩ := exists_of_attempt_bind h hr
  obtain ⟨w₂, hcreate, hend⟩ := exists_of_attempt_bind hrest hr
  obtain ⟨hcheck, hstops, root, hroot, hw₂⟩ :=
    Disk.exists_of_write (disk_of_change (·.write path .empty) hcreate)
  have hspreads := spreads_makeDirectories (w := w) (Path.parent path)
  rw [hmake] at hspreads
  have hwd : w₁.disk.workingDirectory = w.disk.workingDirectory := hspreads.workingDirectory
  rw [Disk.place_congr hwd] at hroot
  have hcreated (hw : w.disk.Anchored path) :
      w.disk.Written [(w.disk.place path, .empty)] w₂.disk ∧
        ∀ stop ∈ w.disk.stops path, w₂.disk.root.node? stop = some .directory := by
    have hwritten := Disk.written_of_write (hw.grows_parent hspreads) hroot
    rw [← hw₂] at hwritten
    refine ⟨hwritten, fun stop hstop => ?_⟩
    rw [← Disk.stops_congr hwd] at hstop
    -- A stop is a directory, and so it is not where the file was put.
    obtain ⟨hnot, hnodes⟩ := FileTree.node?_write hroot
    rw [hw₂, hnodes, if_neg, hstops stop hstop]
    rintro rfl
    exact hnot (hstops _ hstop)
  cases text with
  | error failure =>
    cases hend
    exact ⟨rfl, hcheck, hcreated⟩
  | ok text =>
    obtain ⟨w₃, hwrite, hreport⟩ := exists_of_attempt_bind hend hr
    cases hreport
    obtain ⟨-, -, root', hroot', hw₃⟩ := Disk.exists_of_write
      (disk_of_change (·.write path text.toUTF8) hwrite)
    refine ⟨rfl, hcheck, fun hw => ?_⟩
    obtain ⟨hwritten, hafter⟩ := hcreated hw
    rw [Disk.place_congr hwritten.workingDirectory] at hroot'
    have hagain := Disk.written_of_write (Disk.Grows.refl (P := (· <+: w.disk.place path))) hroot'
    rw [← hw₃] at hagain
    exact ⟨hw₃ ▸ hwritten.rewrite hroot', fun stop hstop =>
      hagain.isDirectory stop (hafter stop hstop)⟩

end World

end TypedQuery
