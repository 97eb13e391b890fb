-- SUMMARY: Where the generator meets no fault.
import Mathlib
import TypedQuery.Proofs.Output.Generation

/-!
# Readiness

A disk is ready for files if the output directory is there, nothing but directories stands where its
folders go, and no directory stands where the files go. Removing a folder, making one, and writing a file
keep it ready, so that no operation of a run fails (`Catalog.exists_run_of_ready`).
-/
namespace TypedQuery

/-- Nothing stands in the way of writing the files of artifacts below an output directory. -/
structure Disk.Ready (artifacts : List Artifact) (out : String) (d : Disk) : Prop where
  checkText : ∀ a ∈ artifacts, Disk.checkText (Path.join out a.path) = .ok ()
  stem : ∀ a ∈ artifacts, Path.IsComponent a.location.stem
  short : ∀ a ∈ artifacts, ¬ 255 < (a.location.stem ++ ".ts").utf8ByteSize
  stops : ∀ stop ∈ d.stops out, d.root.node? stop = some .directory
  apart : ∀ stop ∈ d.stops out, ∀ folder ∈ Folder.owned, ¬ d.place out ++ [folder] <+: stop
  base : d.root.node? (d.place out) = some .directory
  folder : ∀ folder ∈ Folder.owned, d.root.node? (d.place out ++ [folder]) = none ∨
    d.root.node? (d.place out ++ [folder]) = some .directory
  file : ∀ a ∈ artifacts, d.root.node? (d.place out ++ a.location.names) ≠ some .directory

/-- The paths of files can be named, unless they are too long. -/
theorem Disk.checkText_location {out : String} {l : Location} (hout : '\x00' ∉ out.toList)
    (hstem : '\x00' ∉ l.stem.toList) (hsize : out.utf8ByteSize + l.stem.utf8ByteSize < 4080) :
    checkText (Path.join out l.path) = .ok () := by
  have hfolder : '\x00' ∉ (l.folder.name?.getD "").toList ∧
      (l.folder.name?.getD "").utf8ByteSize ≤ 8 := by
    cases l.folder <;> decide
  have hfile : '\x00' ∉ (l.stem ++ ".ts").toList := by
    rw [String.toList_append, List.mem_append]
    exact not_or.2 ⟨hstem, by decide⟩
  have hfileSize : (l.stem ++ ".ts").utf8ByteSize = l.stem.utf8ByteSize + 3 :=
    String.utf8ByteSize_append
  have hpathSize : l.path.utf8ByteSize ≤
      (l.folder.name?.getD "").utf8ByteSize + 1 + (l.stem ++ ".ts").utf8ByteSize :=
    Path.utf8ByteSize_join
  have hsizes : (Path.join out l.path).utf8ByteSize ≤ out.utf8ByteSize + 1 + l.path.utf8ByteSize :=
    Path.utf8ByteSize_join
  refine checkText_eq_ok_iff.2
    ⟨?_, Path.join_ne_empty (Path.join_ne_empty (by simp)), by omega⟩
  exact Path.not_mem_join hout (Path.not_mem_join hfolder.1 hfile (by decide)) (by decide)

namespace Disk.Ready

variable {artifacts : List Artifact} {out folder path : String} {d d' : Disk} {a : Artifact}
  {root : FileTree} {p : List String} {content : ByteArray}

/-- Whether a disk is ready depends on where the files go. -/
theorem of_locations {locations : List Location} (h : artifacts.map Artifact.location = locations)
    (hout : '\x00' ∉ out.toList)
    (hlocations : ∀ l ∈ locations, Path.IsComponent l.stem ∧ '\x00' ∉ l.stem.toList ∧
      out.utf8ByteSize + l.stem.utf8ByteSize < 4080 ∧ ¬ 255 < (l.stem ++ ".ts").utf8ByteSize ∧
      d.root.node? (d.place out ++ l.names) ≠ some .directory)
    (hstops : ∀ stop ∈ d.stops out, d.root.node? stop = some .directory ∧
      ∀ folder ∈ Folder.owned, ¬ d.place out ++ [folder] <+: stop)
    (hbase : d.root.node? (d.place out) = some .directory)
    (hfolder : ∀ folder ∈ Folder.owned, d.root.node? (d.place out ++ [folder]) = none ∨
      d.root.node? (d.place out ++ [folder]) = some .directory) : d.Ready artifacts out where
  checkText a ha := by
    obtain ⟨-, hnul, hsize, -⟩ := hlocations _ (h ▸ List.mem_map_of_mem ha)
    exact checkText_location hout hnul hsize
  stem a ha := (hlocations _ (h ▸ List.mem_map_of_mem ha)).1
  short a ha := (hlocations _ (h ▸ List.mem_map_of_mem ha)).2.2.2.1
  stops stop hstop := (hstops stop hstop).1
  apart stop hstop := (hstops stop hstop).2
  base := hbase
  folder := hfolder
  file a ha := (hlocations _ (h ▸ List.mem_map_of_mem ha)).2.2.2.2

theorem not_prefix_base : ¬ d.place out ++ [folder] <+: d.place out := by
  intro h
  have hlength := h.length_le
  rw [List.length_append, List.length_singleton] at hlength
  omega

/-- A disk stays ready when one of the folders goes. -/
theorem cleared (h : d.Ready artifacts out) (hfolder : folder ∈ Folder.owned)
    (hcleared : d.Cleared (d.place out) [folder] d') : d'.Ready artifacts out := by
  have hnodes (q : List String) : d'.root.node? q =
      if d.place out ++ [folder] <+: q then none else d.root.node? q := by
    rw [hcleared.node?, FileTree.outside]
    simp
  have hplace : d'.place out = d.place out := place_congr hcleared.workingDirectory
  have hstops : d'.stops out = d.stops out := stops_congr hcleared.workingDirectory
  refine ⟨h.checkText, h.stem, h.short, ?_, ?_, ?_, ?_, ?_⟩
  · intro stop hstop
    rw [hstops] at hstop
    rw [hnodes, if_neg (h.apart stop hstop folder hfolder), h.stops stop hstop]
  · rw [hstops, hplace]
    exact h.apart
  · rw [hplace, hnodes, if_neg not_prefix_base, h.base]
  · intro other hother
    rw [hplace, hnodes]
    split
    · exact .inl rfl
    · exact h.folder other hother
  · intro a ha
    rw [hplace, hnodes]
    split
    · simp
    · exact h.file a ha

/-- A disk stays ready when one of the folders or one of the files comes. -/
theorem put (h : d.Ready artifacts out) (hwd : d'.workingDirectory = d.workingDirectory) {n : Node}
    (hnodes : ∀ q, d'.root.node? q = if q = p then some n else d.root.node? q)
    (hp : (∃ folder ∈ Folder.owned, p = d.place out ++ [folder]) ∧ n = .directory ∨
      (∃ a ∈ artifacts, p = d.place out ++ a.location.names) ∧ n ≠ .directory) :
    d'.Ready artifacts out := by
  have hplace : d'.place out = d.place out := place_congr hwd
  have hstops : d'.stops out = d.stops out := stops_congr hwd
  have hdirectory (q : List String) (hq : d.root.node? q = some .directory) :
      d'.root.node? q = some .directory := by
    rw [hnodes]
    split
    · next heq =>
      subst heq
      rcases hp with ⟨-, rfl⟩ | ⟨⟨a, ha, rfl⟩, -⟩
      · rfl
      · exact absurd hq (h.file a ha)
    · exact hq
  refine ⟨h.checkText, h.stem, h.short, ?_, ?_, ?_, ?_, ?_⟩
  · rw [hstops]
    exact fun stop hstop => hdirectory stop (h.stops stop hstop)
  · rw [hstops, hplace]
    exact h.apart
  · rw [hplace]
    exact hdirectory _ h.base
  · intro other hother
    rw [hplace]
    rcases h.folder other hother with hnone | hdir
    · rw [hnodes]
      split
      · next heq =>
        rcases hp with ⟨-, rfl⟩ | ⟨⟨a, ha, rfl⟩, -⟩
        · exact .inr rfl
        · exact absurd (List.append_cancel_left heq).symm (Location.names_ne_folder hother)
      · exact .inl hnone
    · exact .inr (hdirectory _ hdir)
  · intro a ha
    rw [hplace, hnodes]
    split
    · next heq =>
      rcases hp with ⟨⟨folder, hfolder, rfl⟩, rfl⟩ | ⟨-, hn⟩
      · exact absurd (List.append_cancel_left heq) (Location.names_ne_folder hfolder)
      · simpa using hn
    · exact h.file a ha

theorem descends (h : d.Ready artifacts out) (ha : a ∈ artifacts) : Descends a.path :=
  Location.descends_path (h.stem a ha)

theorem place_join (h : d.Ready artifacts out) (ha : a ∈ artifacts) :
    d.place (Path.join out a.path) = d.place out ++ a.location.names :=
  Artifact.place_join (h.stem a ha)

theorem stops_join (h : d.Ready artifacts out) (ha : a ∈ artifacts) :
    ∀ stop ∈ d.stops (Path.join out a.path), d.root.node? stop = some .directory :=
  fun stop hstop => h.stops stop (stops_join_subset (h.descends ha) hstop)

/-- A file can be written if its directory is there. -/
theorem exists_write (h : d.Ready artifacts out) (ha : a ∈ artifacts)
    (hparent : d.root.node? (d.place out ++ a.location.folder.name?.toList) = some .directory)
    (content : ByteArray) : ∃ d', d.write (Path.join out a.path) content = .ok d' ∧
      d'.Ready artifacts out ∧
      d'.root.node? (d'.place out ++ a.location.folder.name?.toList) = some .directory := by
  have hnames : d.place out ++ a.location.names =
      d.place out ++ a.location.folder.name?.toList ++ [a.location.stem ++ ".ts"] := by
    rw [Location.names, List.append_assoc]
  obtain ⟨root, hroot⟩ : ∃ root, d.root.write (d.place out ++ a.location.names) content = .ok root := by
    rw [hnames]
    exact FileTree.exists_write hparent (h.short a ha) (hnames ▸ h.file a ha)
  obtain ⟨hnot, hnodes⟩ := FileTree.node?_write hroot
  refine ⟨{ d with root }, ?_, ?_, ?_⟩
  · refine bind_eq_ok_iff.2 ⟨_, resolve_eq_ok_iff.2 ⟨h.checkText a ha, h.stops_join ha, rfl⟩, ?_⟩
    rw [h.place_join ha]
    exact bind_eq_ok_iff.2 ⟨root, hroot, rfl⟩
  · exact h.put rfl hnodes (.inr ⟨⟨a, ha, rfl⟩, by simp⟩)
  · change root.node? (d.place out ++ a.location.folder.name?.toList) = some .directory
    rw [hnodes, if_neg (by simp [Location.names]), hparent]

end Disk.Ready

namespace World

open Disk (Ready)

variable {artifacts : List Artifact} {out folder path text : String} {folders : List String}
  {w w₁ : World} {a : Artifact} {α : Type} {operation : StateM World (Except FileFault Unit)}
  {next : Unit → ExceptT Error (StateM World) α}

theorem run_attempt_bind_of_ok (h : operation.run w = (.ok (), w₁)) :
    (host.attempt path operation >>= next).run.run w = (next ()).run.run w₁ := by
  rw [run_bind, run_attempt, h]

theorem exists_clearFolder (h : w.disk.Ready artifacts out) (hfolder : folder ∈ Folder.owned) :
    ∃ w₁, (host.clearFolder out folder).run.run w = (.ok (), w₁) ∧ w₁.disk.Ready artifacts out := by
  obtain ⟨hcomponents, hname⟩ := folder_of_mem_owned hfolder
  rw [run_clearFolder]
  split
  · next hcontains =>
    obtain ⟨found, hfound⟩ := exists_of_isOk hcontains
    obtain ⟨p, hp, hfind⟩ := bind_eq_ok_iff.1 hfound
    have hplace := (Disk.resolve_eq_ok_iff.1 hp).2.2
    rw [Disk.place_join_of_name hcomponents hname] at hplace
    have hdir : w.disk.root.node? (w.disk.place out ++ [folder]) = some .directory := by
      refine (h.folder folder hfolder).resolve_left fun hnone => ?_
      rw [hplace, FileTree.node?_eq_none_iff, hfind] at hnone
      cases hnone
    obtain ⟨root, hroot⟩ := FileTree.exists_removeDirectory hdir
    have hremove : w.disk.removeDirectory (Path.join out folder) = .ok { w.disk with root } :=
      bind_eq_ok_iff.2 ⟨p, hp, bind_eq_ok_iff.2 ⟨root, hplace ▸ hroot, rfl⟩⟩
    rw [run_attempt, run_removeDirectory]
    dsimp only
    rw [hremove]
    exact ⟨_, rfl, h.cleared hfolder (Disk.cleared_of_removeDirectory hcomponents hname hremove)⟩
  · exact ⟨w, rfl, h⟩

theorem exists_clearFolders (h : w.disk.Ready artifacts out) (hfolders : folders ⊆ Folder.owned) :
    ∃ w₁, (folders.forM (host.clearFolder out)).run.run w = (.ok (), w₁) ∧
      w₁.disk.Ready artifacts out := by
  induction folders generalizing w with
  | nil => exact ⟨w, rfl, h⟩
  | cons folder rest ih =>
    obtain ⟨hfolder, hrest⟩ := List.cons_subset.1 hfolders
    obtain ⟨w₁, hfirst, hw₁⟩ := exists_clearFolder h hfolder
    obtain ⟨w₂, hothers, hw₂⟩ := ih hw₁ hrest
    refine ⟨w₂, ?_, hw₂⟩
    change (host.clearFolder out folder >>= fun _ => rest.forM (host.clearFolder out)).run.run w = _
    rw [run_bind, hfirst]
    exact hothers

/-- The output directory is there. -/
theorem run_makeDirectories_out (h : w.disk.Ready artifacts out) (ha : a ∈ artifacts) :
    (host.makeDirectories out).run w = (.ok (), w) := by
  by_cases hempty : out = ""
  · rw [hempty, run_makeDirectories, Path.leading_empty]
    rfl
  · obtain ⟨lead, slash, rfl, hlead⟩ := Path.exists_join_eq_append out
    have hcheck := h.checkText a ha
    rw [hlead _ (Disk.not_startsWith_of_descends (h.descends ha)), String.append_assoc] at hcheck
    exact run_makeDirectories_of_directory (Disk.checkText_of_append hcheck hempty) h.stops h.base

/-- The directory of a path is there if what its components but the last lead to is a directory. -/
theorem run_makeDirectories_parent (hcheck : Disk.checkText path = .ok ())
    (hstops : ∀ stop ∈ w.disk.stops path, w.disk.root.node? stop = some .directory)
    {lead : List String} {name : String} (hcomponents : Disk.components path = lead ++ [name])
    (hlead : w.disk.root.node? (Disk.walk (w.disk.origin path) lead) = some .directory) :
    (host.makeDirectories (Path.parent path)).run w = (.ok (), w) := by
  by_cases hempty : Path.parent path = ""
  · rw [hempty, run_makeDirectories, Path.leading_empty]
    rfl
  · have hparent : Path.parent path = "/" ∨ Path.IsAbove (Path.parent path) path :=
      Path.isAbove_parent.resolve_left hempty
    rcases hparent with hslash | habove
    · rw [hslash, run_makeDirectories, Path.leading_slash]
      rfl
    · have horigin : w.disk.origin (Path.parent path) = w.disk.origin path :=
        habove.origin hempty
      have hleads : Disk.components (Path.parent path) <+: lead := habove.components_above hcomponents
      have hhalts : ∀ stop ∈ Disk.halts (w.disk.origin path) lead,
          w.disk.root.node? stop = some .directory := by
        intro stop hstop
        refine hstops stop ?_
        rw [Disk.stops, hcomponents, Disk.halts_append]
        exact List.mem_append_left _ hstop
      have hcheckParent : Disk.checkText (Path.parent path) = .ok () := by
        obtain ⟨ending, hending⟩ := habove
        rw [hending, String.append_assoc] at hcheck
        exact Disk.checkText_of_append hcheck hempty
      refine run_makeDirectories_of_directory hcheckParent (fun stop hstop => ?_) ?_
      · rw [Disk.stops, horigin] at hstop
        obtain ⟨others, rfl⟩ := hleads
        refine hhalts stop ?_
        rw [Disk.halts_append]
        exact List.mem_append_left _ hstop
      · rw [Disk.place, horigin]
        -- Where the text of the directory leads is on the way, or it is a stop.
        rcases Disk.walk_prefix_or_mem_halts hleads with hwalk | hwalk
        · by_cases heq : Disk.walk (w.disk.origin path) (Disk.components (Path.parent path)) =
              Disk.walk (w.disk.origin path) lead
          · rw [heq, hlead]
          · exact FileTree.isDirectory_above hwalk heq (by simp [hlead])
        · exact hhalts _ hwalk

theorem isComponent_of_mem_owned (h : folder ∈ Folder.owned) : Path.IsComponent folder := by
  change '/' ∉ folder.toList
  revert folder
  decide

theorem endsPlain_join (h : folder ∈ Folder.owned) : Path.EndsPlain (Path.join out folder) := by
  have hlast : folder.toList.getLast? = some 's' := by
    revert folder
    decide
  obtain ⟨cs, hcs⟩ := List.getLast?_eq_some_iff.1 hlast
  have hplain : Path.EndsPlain folder := ⟨cs, 's', hcs, by decide, by decide⟩
  obtain ⟨lead, -, -, hlead⟩ := Path.exists_join_eq_append out
  rw [hlead _ (Path.not_startsWith_slash (isComponent_of_mem_owned h))]
  exact hplain.append

theorem short_of_mem_owned (h : folder ∈ Folder.owned) : ¬ 255 < folder.utf8ByteSize := by
  revert folder
  decide

/-- A folder is there, or it can be made. -/
theorem exists_makeDirectories_folder (h : w.disk.Ready artifacts out)
    (hfolder : folder ∈ Folder.owned) (hcheck : Disk.checkText (Path.join out folder) = .ok ()) :
    ∃ w₁, (host.makeDirectories (Path.join out folder)).run w = (.ok (), w₁) ∧
      w₁.disk.Ready artifacts out ∧
      w₁.disk.root.node? (w₁.disk.place out ++ [folder]) = some .directory := by
  obtain ⟨hcomponents, hname⟩ := folder_of_mem_owned hfolder
  have hdescends := Disk.descends_of_name hcomponents hname
  have hstops : ∀ stop ∈ w.disk.stops (Path.join out folder),
      w.disk.root.node? stop = some .directory :=
    fun stop hstop => h.stops stop (Disk.stops_join_subset hdescends hstop)
  have hplace : w.disk.place (Path.join out folder) = w.disk.place out ++ [folder] :=
    Disk.place_join_of_name hcomponents hname
  rcases h.folder folder hfolder with hnone | hdir
  · obtain ⟨root, hroot⟩ :=
      FileTree.exists_makeDirectory h.base (short_of_mem_owned hfolder) hnone
    obtain ⟨-, hnodes⟩ := FileTree.node?_makeDirectory hroot
    obtain ⟨lead, hjoin, -⟩ := Path.components_join out (Disk.not_startsWith_of_descends hdescends)
    rw [hcomponents] at hjoin
    refine ⟨_, run_makeDirectories_of_missing hcheck hstops ?_ hjoin hname (hplace ▸ hroot), ?_, ?_⟩
    · exact (endsPlain_join hfolder).exists_leading
    · exact h.put rfl hnodes (.inl ⟨⟨folder, hfolder, rfl⟩, rfl⟩)
    · change root.node? (w.disk.place out ++ [folder]) = _
      rw [hnodes, if_pos rfl]
  · exact ⟨w, run_makeDirectories_of_directory hcheck hstops (hplace ▸ hdir), h, hdir⟩

/-- The directory of a file is there, or it is a folder that can be made. -/
theorem exists_makeDirectories_parent (h : w.disk.Ready artifacts out) (ha : a ∈ artifacts) :
    ∃ w₁, (host.makeDirectories (Path.parent (Path.join out a.path))).run w = (.ok (), w₁) ∧
      w₁.disk.Ready artifacts out ∧
      w₁.disk.root.node? (w₁.disk.place out ++ a.location.folder.name?.toList) =
        some .directory := by
  have hstem := h.stem a ha
  have hrelative := Disk.not_startsWith_of_descends (h.descends ha)
  have hnames : Disk.components a.path = a.location.names := Location.components_path hstem
  cases hname : a.location.folder.name? with
  | none =>
    obtain ⟨lead, hcomponents, -⟩ := Path.components_join out hrelative
    rw [hnames, Location.names, hname] at hcomponents
    -- Next to the folders: the directory is the output directory, which is there.
    have hwalk := h.place_join ha
    rw [Disk.place, hcomponents, Location.names, hname, Option.toList_none, List.nil_append,
      Disk.walk_append,
      Disk.walk_name (Location.not_isDots_of_endsPlain Location.endsPlain_file)] at hwalk
    refine ⟨w, ?_, h, by rw [Option.toList_none, List.append_nil, h.base]⟩
    refine run_makeDirectories_parent (h.checkText a ha) (h.stops_join ha) hcomponents ?_
    rw [List.append_cancel_right hwalk, h.base]
  | some folder =>
    -- In a folder: that is made if it is not there.
    have hfolder := Location.mem_owned_of_name? hname
    have hplain : Path.EndsPlain (Path.join out folder) := endsPlain_join hfolder
    have hpath : Path.join out a.path =
        Path.join out folder ++ "/" ++ (a.location.stem ++ ".ts") := by
      obtain ⟨lead, -, -, hlead⟩ := Path.exists_join_eq_append out
      rw [hlead _ hrelative, hlead _ (Path.not_startsWith_slash (isComponent_of_mem_owned hfolder)),
        Artifact.path, Location.exists_path_eq hstem hname]
      simp only [String.append_assoc]
    rw [Option.toList_some, hpath, Path.parent_append_slash hplain Location.endsPlain_file
      (hstem.append Location.isComponent_ending)]
    refine exists_makeDirectories_folder h hfolder ?_
    have hcheck := h.checkText a ha
    rw [hpath, String.append_assoc] at hcheck
    refine Disk.checkText_of_append hcheck ?_
    obtain ⟨cs, c, hcs, -⟩ := hplain
    rintro hempty
    simp [hempty] at hcs

theorem run_change_of_ok (change : Disk → Except FileFault Disk) {d : Disk}
    (h : change w.disk = .ok d) :
    (World.change change).run w = (.ok (), { w with disk := d }) := by
  rw [run_change, h]

/-- The file of an artifact can be made, and written if there is a text for it. -/
theorem exists_writeFile (h : w.disk.Ready artifacts out) (ha : a ∈ artifacts)
    (text : Except Error String) :
    ∃ w₁, (host.writeFile (Path.join out a.path) text).run.run w =
      (text.map fun _ => Path.join out a.path, w₁) ∧ w₁.disk.Ready artifacts out := by
  obtain ⟨w₁, hmake, hw₁, hparent₁⟩ := exists_makeDirectories_parent h ha
  obtain ⟨d₂, hcreate, hd₂, hparent₂⟩ := hw₁.exists_write ha hparent₁ .empty
  have hcreated : (host.create (Path.join out a.path)).run w₁ = (.ok (), { w₁ with disk := d₂ }) :=
    run_change_of_ok (·.write (Path.join out a.path) .empty) hcreate
  unfold Host.writeFile
  rw [run_attempt_bind_of_ok hmake, run_attempt_bind_of_ok hcreated]
  cases text with
  | error failure => exact ⟨{ w₁ with disk := d₂ }, rfl, hd₂⟩
  | ok text =>
    obtain ⟨d₃, hwrite, hd₃, -⟩ := hd₂.exists_write ha hparent₂ text.toUTF8
    have hwritten : (host.write (Path.join out a.path) text).run { w₁ with disk := d₂ } =
        (.ok (), { w₁ with disk := d₃ }) :=
      run_change_of_ok (·.write (Path.join out a.path) text.toUTF8) hwrite
    refine ⟨{ w₁ with disk := d₃, events := w₁.events ++ [.wrote (Path.join out a.path)] }, ?_, hd₃⟩
    dsimp only
    rw [run_attempt_bind_of_ok hwritten]
    rfl

end World

namespace Catalog

open World

variable {c : Catalog} {s : Schema} {settings : Settings} {out : String}
  {artifacts others : List Artifact} {w w₁ : World} {stop : List String}

theorem exists_writeAll (h : w.disk.Ready artifacts out) (hothers : others ⊆ artifacts) :
    ∃ w₁, (c.writeAll host out others).run.run w =
      (c.outcome out others, w₁) := by
  induction others generalizing w with
  | nil => exact ⟨w, rfl⟩
  | cons a rest ih =>
    obtain ⟨ha, hrest⟩ := List.cons_subset.1 hothers
    obtain ⟨w₁, hfile, hw₁⟩ := exists_writeFile h ha (c.render a)
    rw [writeAll, run_bind, hfile]
    cases hrender : c.render a with
    | error failure => exact ⟨w₁, by rw [outcome_cons_of_error hrender]; rfl⟩
    | ok text =>
      obtain ⟨w₂, hfiles⟩ := ih hw₁ hrest
      refine ⟨w₂, ?_⟩
      rw [outcome_cons_of_ok hrender, Except.map]
      dsimp only
      rw [run_bind, hfiles]
      cases c.outcome out rest <;> rfl

/-- The steps of a run that meets no fault. -/
theorem exists_run_of_steps {w₂ w₃ : World} (h : c.artifacts = .ok artifacts)
    (hclear : (Folder.owned.forM (host.clearFolder out)).run.run w = (.ok (), w₁))
    (hmake : (host.makeDirectories out).run w₁ = (.ok (), w₂))
    (hwrite : (c.writeAll host out artifacts).run.run w₂ = (c.outcome out artifacts, w₃)) :
    ∃ w', (c.generate host out).run.run w = (c.outcome out artifacts, w') ∧
      w'.disk = w₃.disk := by
  have hartifacts : (ExceptT.mk (pure c.artifacts) : ExceptT Error (StateM World) _).run.run w =
      (.ok artifacts, w) := by
    rw [h]
    rfl
  rw [generate, run_bind, hartifacts]
  dsimp only
  rw [run_bind, hclear]
  dsimp only
  rw [run_attempt_bind_of_ok hmake, run_bind, hwrite]
  cases c.outcome out artifacts with
  | error failure => exact ⟨w₃, rfl, rfl⟩
  | ok paths =>
    exact ⟨{ w₃ with events := w₃.events ++ [.generated paths.length out] }, rfl, rfl⟩

/-- On a disk that is ready, a run meets no fault. -/
theorem exists_run_of_ready (h : c.artifacts = .ok artifacts)
    (hready : w.disk.Ready artifacts out) :
    ∃ w', (c.generate host out).run.run w = (c.outcome out artifacts, w') := by
  obtain ⟨w₁, hclear, hw₁⟩ := exists_clearFolders hready (List.Subset.refl Folder.owned)
  obtain ⟨w₂, hwrite⟩ := exists_writeAll hw₁ (List.Subset.refl artifacts)
  obtain ⟨rest, hcommon⟩ := exists_eq_commonTypes_cons h
  have hmake := run_makeDirectories_out hw₁ (hcommon ▸ List.mem_cons_self)
  obtain ⟨w', hrun, -⟩ := exists_run_of_steps h hclear hmake hwrite
  exact ⟨w', hrun⟩

/-- If the output directory is not seen at first because its path text stops where there is no directory,
and can be made nonetheless, then its folders stay as they are. -/
theorem exists_run_of_unseen (h : c.artifacts = .ok artifacts) (hstop : stop ∈ w.disk.stops out)
    (hne : stop ≠ w.disk.place out) (hunseen : w.disk.root.node? stop ≠ some .directory)
    (hmake : (host.makeDirectories out).run w = (.ok (), w₁)) (hready : w₁.disk.Ready artifacts out) :
    ∃ w', (c.generate host out).run.run w = (c.outcome out artifacts, w') ∧
      w₁.disk.Written ((c.reached artifacts).map (c.fileOf (w₁.disk.place out))) w'.disk := by
  have hclear : (Folder.owned.forM (host.clearFolder out)).run.run w = (.ok (), w) := by
    refine run_clearFolders_of_unseen fun folder hfolder => ?_
    obtain ⟨hcomponents, hname⟩ := folder_of_mem_owned hfolder
    have hdescends := Disk.descends_of_name hcomponents hname
    exact Disk.contains_join_of_stop hdescends hstop hne hunseen
  obtain ⟨w₂, hwrite⟩ := exists_writeAll hready (List.Subset.refl artifacts)
  obtain ⟨w', hrun, hdisk⟩ := exists_run_of_steps h hclear hmake hwrite
  obtain ⟨-, -, hwritten⟩ := written_of_writeAll hready.stem hwrite unfaulted_outcome
  have hanchored : w₁.disk.Anchored out := fun stop hstop => .inr (hready.stops stop hstop)
  exact ⟨w', hrun, hdisk ▸ (hwritten hanchored).1⟩

end Catalog

/-! ## A directory with a file that is left over -/

/-- A schema text with a scalar that settings can map. -/
def marketText : String := "type Query \x7b price: Money \x7d scalar Money"

/-- Where the files for that schema go. -/
def marketLocations : List Location :=
  [⟨.root, "CommonTypes", none⟩, ⟨.fetchers, "QueryFetcher", some "Query"⟩,
    ⟨.fetchers, "index", none⟩, ⟨.root, "index", none⟩]

/-- An output directory with a file in a folder of the generator that is not written, and one outside. -/
def staleEntries : List (String × FileTree) :=
  [("gen", .directory [("fetchers", .directory [("Stale.ts", .file "stale".toUTF8)]),
    ("notes.txt", .file "kept".toUTF8)])]

def staleDisk : Disk := ⟨.directory staleEntries, []⟩

def stalePath : List String := ["gen", "fetchers", "Stale.ts"]

/-- The same with an empty directory next to it. -/
def detourDisk : Disk := ⟨.directory (("build", .empty) :: staleEntries), []⟩

namespace Disk

variable {artifacts : List Artifact} {a : Artifact}

theorem ordered_staleDisk : staleDisk.root.Ordered := by
  refine .directory (by decide) (by decide) ?_
  simp only [staleEntries, List.forall_mem_singleton]
  refine .directory (by decide) (by decide) ?_
  simp only [List.forall_mem_cons]
  refine ⟨.directory (by decide) (by decide) ?_, .file, nofun⟩
  exact List.forall_mem_singleton.2 .file

theorem not_stalePath_above (h : artifacts.map Artifact.location = marketLocations)
    (ha : a ∈ artifacts) : ¬ stalePath <+: ["gen"] ++ a.location.names := by
  have hlocations : ∀ l ∈ marketLocations, ¬ stalePath <+: ["gen"] ++ l.names := by decide +kernel
  exact hlocations _ (h ▸ List.mem_map_of_mem ha)

theorem ready_staleDisk (h : artifacts.map Artifact.location = marketLocations) :
    staleDisk.Ready artifacts "gen" := by
  refine Ready.of_locations h (by decide) ?_ (by decide +kernel) (by decide +kernel)
    (by decide +kernel)
  unfold Path.IsComponent
  decide +kernel

theorem ready_detourDisk (h : artifacts.map Artifact.location = marketLocations) :
    detourDisk.Ready artifacts "build/../gen" := by
  refine Ready.of_locations h (by decide) ?_ (by decide +kernel) (by decide +kernel)
    (by decide +kernel)
  unfold Path.IsComponent
  decide +kernel

/-- A path text that leads through a directory that is not there makes that directory. -/
theorem run_makeDirectories_detour : (World.host.makeDirectories "build/../gen").run
    { disk := staleDisk } = (.ok (), { disk := detourDisk }) := by
  cbv

end Disk

end TypedQuery
