-- SUMMARY: A run of the generator leaves the files of the artifacts, and a second run changes nothing.
import TypedQuery.Proofs.Output.Readiness

/-!
# Regeneration

After a run that succeeds, every path of an artifact has a file with what the last artifact of that path
renders to. In the folders of the generator there is nothing else, and outside of them nothing else has
changed. The disk is then ready for another run, which leaves it as it is.

The folders are looked for before the output directory is made. If its path text leads through a directory
that is missing until then, they are not seen, and old files stay in them. So the path text has to be
`Disk.Steady`, as it is whenever it never goes back up.
-/
namespace TypedQuery

namespace Location

variable {l other : Location} {q : List String}

theorem path_eq_iff_names (hl : Path.IsComponent l.stem) (hother : Path.IsComponent other.stem) :
    l.path = other.path ↔ l.names = other.names := by
  constructor
  · intro h
    rw [← components_path hl, ← components_path hother, h]
  · rw [names, names]
    intro h
    cases hname : l.folder.name? with
    | none =>
      cases hname' : other.folder.name? with
      | none =>
        rw [hname, hname'] at h
        rw [path_eq_of_root hl hname, path_eq_of_root hother hname']
        simpa using h
      | some name => simp [hname, hname'] at h
    | some name =>
      cases hname' : other.folder.name? with
      | none => simp [hname, hname'] at h
      | some name' =>
        rw [hname, hname'] at h
        rw [exists_path_eq hl hname, exists_path_eq hother hname']
        simp only [Option.toList_some, List.singleton_append, List.cons.injEq, and_true] at h
        rw [h.1, h.2]

/-- On the way to a file there is at most one of the folders. -/
theorem prefix_names (h : q <+: l.names) :
    q = [] ∨ q = l.names ∨ ∃ folder ∈ Folder.owned, q = [folder] := by
  rw [names] at h ⊢
  cases hname : l.folder.name? with
  | none =>
    rw [hname] at h
    rcases List.prefix_concat_iff.1 h with rfl | hnil
    · exact .inr (.inl rfl)
    · exact .inl (List.prefix_nil.1 hnil)
  | some name =>
    rw [hname] at h
    rcases List.prefix_concat_iff.1 h with rfl | hfolder
    · exact .inr (.inl rfl)
    · rw [Option.toList_some, List.prefix_cons_iff] at hfolder
      rcases hfolder with hnil | ⟨rest, rfl, hrest⟩
      · exact .inl hnil
      · rw [List.prefix_nil.1 hrest]
        exact .inr (.inr ⟨name, mem_owned_of_name? hname, rfl⟩)

end Location

/-- Among artifacts with the same path, one is the last. -/
theorem Artifact.exists_last {artifacts : List Artifact} {a : Artifact} (ha : a ∈ artifacts) :
    ∃ last ∈ artifacts, artifacts.reverse.find? (·.path = a.path) = some last := by
  have hsome : (artifacts.reverse.find? (·.path = a.path)).isSome :=
    List.find?_isSome.2 ⟨a, List.mem_reverse.2 ha, decide_eq_true rfl⟩
  obtain ⟨last, hlast⟩ := Option.isSome_iff_exists.1 hsome
  exact ⟨last, List.mem_reverse.1 (List.mem_of_find?_eq_some hlast), hlast⟩

namespace Catalog

variable {c : Catalog} {s : Schema} {settings : Settings} {out folder : String} {l : Location}
  {a last : Artifact} {artifacts : List Artifact} {d d' : Disk} {base q : List String}

/-- At the place of a file, the last artifact of that path decides what lies there. -/
theorem ofFiles_fileOf (hstems : ∀ a ∈ artifacts, Path.IsComponent a.location.stem)
    (hl : Path.IsComponent l.stem) :
    Node.ofFiles (artifacts.map (c.fileOf base)) (base ++ l.names) =
      (artifacts.reverse.find? (·.path = l.path)).map fun a => .file (contentOf (c.render a)) := by
  rw [Node.ofFiles, ← List.map_reverse, List.findSome?_map, ← findSome?_ite]
  refine findSome?_congr fun a ha => ?_
  have hstem := hstems a (List.mem_reverse.1 ha)
  have hsame : a.path = l.path ↔ a.location.names = l.names :=
    Location.path_eq_iff_names hstem hl
  simp only [Function.comp_apply, Node.ofFile, fileOf, List.append_cancel_left_eq,
    List.prefix_append_right_inj, decide_eq_true_eq, hsame]
  by_cases h : a.location.names = l.names
  · rw [if_pos h.symm, if_pos h]
  · rw [if_neg (Ne.symm h), if_neg h, if_neg fun hleads => h (Location.names_eq_of_above hleads).symm]

namespace Generated

/-- Where a file may lie there is the last one of its path, or what lay there outside the folders. -/
theorem node?_names (h : c.Generated artifacts out d d')
    (hstems : ∀ a ∈ artifacts, Path.IsComponent a.location.stem) (hl : Path.IsComponent l.stem) :
    d'.root.node? (d.place out ++ l.names) =
      ((artifacts.reverse.find? (·.path = l.path)).map fun a => .file (contentOf (c.render a))).or
        (d.root.outside (d.place out) Folder.owned (d.place out ++ l.names)) := by
  rw [h.node?, ofFiles_fileOf hstems hl]

/-- The file at the path of an artifact is that of the last one with the path. -/
theorem read (h : c.Generated artifacts out d d')
    (hstems : ∀ a ∈ artifacts, Path.IsComponent a.location.stem) (ha : a ∈ artifacts)
    (hlast : artifacts.reverse.find? (·.path = a.path) = some last) :
    d'.read (Path.join out a.path) = .ok (contentOf (c.render last)) := by
  have hdescends := Location.descends_path (hstems a ha)
  have hplace : d'.place (Path.join out a.path) = d.place out ++ a.location.names := by
    rw [Disk.place_congr h.workingDirectory, Artifact.place_join (hstems a ha)]
  have hresolve : d'.resolve (Path.join out a.path) = .ok (d.place out ++ a.location.names) := by
    refine Disk.resolve_eq_ok_iff.2 ⟨h.checkText a ha, fun stop hstop => ?_, hplace⟩
    rw [Disk.stops_congr h.workingDirectory] at hstop
    exact h.stops stop (Disk.stops_join_subset hdescends hstop)
  have hnode := h.node?_names hstems (hstems a ha)
  rw [← Artifact.path, hlast, Option.map_some, Option.some_or, FileTree.node?_eq_file_iff] at hnode
  refine bind_eq_ok_iff.2 ⟨_, hresolve, ?_⟩
  rw [FileTree.read, hnode]

theorem node?_ne_none (h : c.Generated artifacts out d d') (ha : a ∈ artifacts) :
    d'.root.node? (d.place out ++ a.location.names) ≠ none := by
  rw [h.node?, ne_eq, Option.or_eq_none_iff, not_and_or, Node.ofFiles_eq_none_iff]
  exact .inl fun hnot => hnot _ (List.mem_map_of_mem ha) (List.prefix_refl _)

/-- In the folders of the generator there are the files, and the directories that lead to them. -/
theorem exists_below (h : c.Generated artifacts out d d') (hfolder : folder ∈ Folder.owned)
    (hq : d.place out ++ [folder] <+: q) (hnode : d'.root.node? q ≠ none) :
    ∃ a ∈ artifacts, q <+: d.place out ++ a.location.names := by
  by_contra hnot
  push Not at hnot
  refine hnode ?_
  rw [h.node?, Option.or_eq_none_iff, Node.ofFiles_eq_none_iff]
  refine ⟨fun file hfile => ?_, if_pos ⟨folder, hfolder, hq⟩⟩
  obtain ⟨a, ha, rfl⟩ := List.mem_map.1 hfile
  exact hnot a ha

/-- Outside the folders of the generator nothing has changed but for the files, and the directories that
lead to the output directory. -/
theorem node?_outside (h : c.Generated artifacts out d d')
    (hq : ∀ folder ∈ Folder.owned, ¬ d.place out ++ [folder] <+: q)
    (hne : ∀ a ∈ artifacts, q ≠ d.place out ++ a.location.names) :
    d'.root.node? q = d.root.node? q ∨
      d.root.node? q = none ∧ d'.root.node? q = some .directory ∧ q <+: d.place out := by
  have houtside : d.root.outside (d.place out) Folder.owned q = d.root.node? q :=
    if_neg fun ⟨folder, hfolder, hleads⟩ => hq folder hfolder hleads
  have hnode := h.node? q
  rw [houtside] at hnode
  by_cases hfiles : ∀ a ∈ artifacts, ¬ q <+: d.place out ++ a.location.names
  · left
    have hnone : Node.ofFiles (artifacts.map (c.fileOf (d.place out))) q = none :=
      Node.ofFiles_eq_none_iff.2 (List.forall_mem_map.2 hfiles)
    rw [hnode, hnone, Option.none_or]
  · push Not at hfiles
    obtain ⟨a, ha, hleads⟩ := hfiles
    -- What leads to a file is above the output directory, or is a folder or the file itself.
    have hbase : q <+: d.place out := by
      rcases List.prefix_or_prefix_of_prefix hleads (List.prefix_append _ _) with habove | hbelow
      · exact habove
      · obtain ⟨rest, rfl⟩ := hbelow
        rcases Location.prefix_names ((List.prefix_append_right_inj _).1 hleads) with
          rfl | rfl | ⟨folder, hfolder, rfl⟩
        · simp
        · exact absurd rfl (hne a ha)
        · exact absurd (List.prefix_refl _) (hq folder hfolder)
    have hdir : d'.root.node? q = some .directory :=
      FileTree.isDirectory_above hleads (hne a ha) (h.node?_ne_none ha)
    cases hbefore : d.root.node? q with
    | none => exact .inr ⟨rfl, hdir, hbase⟩
    | some node =>
      cases node with
      | directory => exact .inl hdir
      | file content =>
        have hkept := h.file q content (houtside.trans hbefore) hne
        cases hkept.symm.trans hdir

/-! ### Once more -/

theorem apart (h : c.Generated artifacts out d d') (hd : d.Steady out) :
    ∀ stop ∈ d'.stops out, ∀ folder ∈ Folder.owned, ¬ d'.place out ++ [folder] <+: stop := by
  intro stop hstop folder hfolder hleads
  rw [Disk.stops_congr h.workingDirectory] at hstop
  rw [Disk.place_congr h.workingDirectory] at hleads
  rcases hd stop hstop with habove | ⟨-, hapart⟩
  · exact Disk.Ready.not_prefix_base (hleads.trans habove)
  · exact hapart folder hfolder hleads

theorem steady (h : c.Generated artifacts out d d') (hd : d.Steady out) : d'.Steady out := by
  intro stop hstop
  refine .inr ⟨?_, h.apart hd stop hstop⟩
  rw [Disk.stops_congr h.workingDirectory] at hstop
  exact h.stops stop hstop

/-- After a run, nothing stands in the way of another one. -/
theorem ready (h : c.Generated artifacts out d d') (hd : d.Steady out)
    (hstems : ∀ a ∈ artifacts, Path.IsComponent a.location.stem) (ha : a ∈ artifacts) :
    d'.Ready artifacts out := by
  have hplace : d'.place out = d.place out := Disk.place_congr h.workingDirectory
  have hfile (b : Artifact) (hb : b ∈ artifacts) :
      d'.root.node? (d.place out ++ b.location.names) ≠ some .directory := by
    obtain ⟨last, -, hlast⟩ := Artifact.exists_last hb
    rw [h.node?_names hstems (hstems b hb), ← Artifact.path, hlast]
    simp
  refine ⟨h.checkText, hstems, fun b hb => ?_, ?_, h.apart hd, ?_, fun folder hfolder => ?_, ?_⟩
  · -- Since the file is there, its name is not too long.
    have hnode := h.node?_ne_none hb
    rw [Location.names, ← List.append_assoc] at hnode
    exact FileTree.length_of_node?_concat hnode
  · rw [Disk.stops_congr h.workingDirectory]
    exact h.stops
  · rw [hplace]
    exact FileTree.isDirectory_above (List.prefix_append _ _) (by simp [Location.names])
      (h.node?_ne_none ha)
  · rw [hplace]
    by_cases hnone : d'.root.node? (d.place out ++ [folder]) = none
    · exact .inl hnone
    · obtain ⟨b, hb, hleads⟩ := h.exists_below hfolder (List.prefix_refl _) hnone
      refine .inr (FileTree.isDirectory_above hleads ?_ (h.node?_ne_none hb))
      exact fun heq => Location.names_ne_folder hfolder (List.append_cancel_left heq).symm
  · rw [hplace]
    exact hfile

/-- Generating the same files again changes nothing. -/
theorem node?_again {d'' : Disk} (h : c.Generated artifacts out d d')
    (h' : c.Generated artifacts out d' d'') : d''.root.node? q = d'.root.node? q := by
  rw [h'.node?, Disk.place_congr h.workingDirectory, FileTree.outside, h.node?, FileTree.outside]
  -- The files are the same, and what lies elsewhere was outside the folders the first time.
  cases Node.ofFiles (artifacts.map (c.fileOf (d.place out))) q with
  | some node => rfl
  | none =>
    rw [Option.none_or, Option.none_or]
    split <;> rfl

end Generated

open World

/-- After files have been generated, another run gives back the same and changes nothing. -/
theorem exists_run_again {w : World} (h : c.Run s settings artifacts)
    (hrender : ∀ a ∈ artifacts, ∃ text, c.render a = .ok text) (hd : d.Steady out)
    (hdone : c.Generated artifacts out d w.disk) :
    ∃ w', (c.generate host out).run.run w = (c.outcome out artifacts, w') ∧
      (∀ q, w'.disk.root.node? q = w.disk.root.node? q) ∧
      (d.root.Ordered → w'.disk = w.disk) := by
  have hcommon := commonTypes_mem_reached h.artifacts
  rw [reached_of_succeeds hrender] at hcommon
  have hready : w.disk.Ready artifacts out :=
    hdone.ready hd (fun a ha => h.isComponent_stem ha) hcommon
  obtain ⟨w', hagain⟩ := exists_run_of_ready h.artifacts hready
  obtain ⟨-, hgenerated⟩ := generated_of_run h hagain unfaulted_outcome
  have hdone' := hgenerated (hdone.steady hd)
  rw [reached_of_succeeds hrender] at hdone'
  have hnodes (q : List String) : w'.disk.root.node? q = w.disk.root.node? q :=
    hdone.node?_again hdone'
  refine ⟨w', hagain, hnodes, fun hordered => ?_⟩
  have hordered' := hdone.ordered hordered
  have hroot : w'.disk.root = w.disk.root := (hdone'.ordered hordered').ext hordered' hnodes
  exact congrArg₂ Disk.mk hroot hdone'.workingDirectory

/-- In a run that succeeds, the output directory is recreated. -/
theorem generate_recreates {source : String} {paths : List String} {w w' : World}
    (hs : Schema.parse source = .ok s) (hsuffix : '/' ∉ settings.fetcherSuffix.toList)
    (hc : ofSchema s settings = .ok c) (hout : w.disk.Steady out)
    (hrun : (c.generate World.host out).run.run w = (.ok paths, w')) :
    ∃ artifacts, c.artifacts = .ok artifacts ∧
      -- The paths of the artifacts are given back in order.
      paths = artifacts.map (fun a => Path.join out a.path) ∧
      -- The file at a path is what the last artifact of the path renders to.
      (∀ a ∈ artifacts, ∃ last text, artifacts.reverse.find? (·.path = a.path) = some last ∧
        c.render last = .ok text ∧ w'.disk.read (Path.join out a.path) = .ok text.toUTF8) ∧
      -- In the folders of the generator, there is nothing that does not lead to these files.
      (∀ folder ∈ Folder.owned, ∀ q, w.disk.place out ++ [folder] <+: q →
        w'.disk.root.node? q ≠ none → ∃ a ∈ artifacts, q <+: w.disk.place (Path.join out a.path)) ∧
      -- Elsewhere nothing changes, except that the output directory may have been made.
      (∀ q, (∀ folder ∈ Folder.owned, ¬ w.disk.place out ++ [folder] <+: q) →
        (∀ a ∈ artifacts, q ≠ w.disk.place (Path.join out a.path)) →
        w'.disk.root.node? q = w.disk.root.node? q ∨
          w.disk.root.node? q = none ∧ w'.disk.root.node? q = some .directory ∧
            q <+: w.disk.place out) ∧
      -- Another run gives back the same and changes nothing.
      ∃ w'', (c.generate World.host out).run.run w' = (.ok paths, w'') ∧
        (∀ q, w''.disk.root.node? q = w'.disk.root.node? q) ∧
        (w.disk.root.Ordered → w''.disk = w'.disk) := by
  cases hartifacts : c.artifacts with
  | error failure =>
    rw [run_of_artifacts_error hartifacts] at hrun
    cases hrun
  | ok artifacts =>
    have h : c.Run s settings artifacts := .of_parse hs hsuffix hc hartifacts
    have hstems : ∀ a ∈ artifacts, Path.IsComponent a.location.stem :=
      fun a ha => h.isComponent_stem ha
    obtain ⟨houtcome, hgenerated⟩ := generated_of_run h hrun nofun
    obtain ⟨hrender, rfl⟩ := outcome_eq_ok_iff.1 houtcome.symm
    have hdone := hgenerated hout
    rw [reached_of_succeeds hrender] at hdone
    have hplace : ∀ a ∈ artifacts, w.disk.place (Path.join out a.path) =
        w.disk.place out ++ a.location.names := fun a ha => Artifact.place_join (hstems a ha)
    refine ⟨artifacts, rfl, rfl, fun a ha => ?_, fun folder hfolder q hq hnode => ?_,
      fun q hq hne => ?_, ?_⟩
    · obtain ⟨last, hmem, hlast⟩ := Artifact.exists_last ha
      obtain ⟨text, htext⟩ := hrender last hmem
      have hread := hdone.read hstems ha hlast
      rw [htext] at hread
      exact ⟨last, text, hlast, htext, hread⟩
    · obtain ⟨a, ha, hleads⟩ := hdone.exists_below hfolder hq hnode
      exact ⟨a, ha, hplace a ha ▸ hleads⟩
    · exact hdone.node?_outside hq fun a ha => hplace a ha ▸ hne a ha
    · rw [houtcome]
      exact exists_run_again h hrender hout hdone

/-- Settings that map the scalar of `marketText`. -/
def pricing : Settings := { scalarTypes := (∅ : NameMap String).insert "Money" "number" }

set_option maxRecDepth 8000 in
theorem exists_market_pricing : ∃ s c artifacts, Schema.parse marketText = .ok s ∧
    ofSchema s pricing = .ok c ∧ c.artifacts = .ok artifacts ∧
    artifacts.map Artifact.location = marketLocations ∧
    ∀ a ∈ artifacts, ∃ text, c.render a = .ok text := by
  obtain ⟨s, c, artifacts, hs, hc, hartifacts, hlocations, hrendered⟩ :=
    exists_artifacts_of_listing marketText pricing (marketLocations.map (·, true)) (by cbv)
  have hall : ∀ ok ∈ artifacts.map (fun a => (c.render a).isOk), ok = true := by
    rw [hrendered]
    decide
  exact ⟨s, c, artifacts, hs, hc, hartifacts, hlocations, fun a ha =>
    exists_of_isOk (hall _ (List.mem_map_of_mem ha))⟩

theorem generate_recreates_market : ∃ s c artifacts w', Schema.parse marketText = .ok s ∧
    ofSchema s pricing = .ok c ∧ c.artifacts = .ok artifacts ∧ staleDisk.Steady "gen" ∧
    (c.generate host "gen").run.run { disk := staleDisk } =
      (.ok (artifacts.map fun a => Path.join "gen" a.path), w') ∧
    w'.disk.root.node? stalePath = none ∧
    w'.disk.root.node? ["gen", "notes.txt"] = some (.file "kept".toUTF8) ∧
    ∃ w'', (c.generate host "gen").run.run w' =
      (.ok (artifacts.map fun a => Path.join "gen" a.path), w'') ∧ w''.disk = w'.disk := by
  obtain ⟨s, c, artifacts, hs, hc, hartifacts, hlocations, hrender⟩ := exists_market_pricing
  have hready := Disk.ready_staleDisk hlocations
  have hsteady : staleDisk.Steady "gen" := Disk.steady_of_not_mem (by decide +kernel)
  have hbase : staleDisk.place "gen" = ["gen"] := by decide +kernel
  have houtcome : c.outcome "gen" artifacts = .ok (artifacts.map fun a => Path.join "gen" a.path) :=
    outcome_eq_ok_iff.2 ⟨hrender, rfl⟩
  obtain ⟨w', hrun⟩ := exists_run_of_ready (w := { disk := staleDisk }) hartifacts hready
  rw [houtcome] at hrun
  obtain ⟨found, hfound, -, -, hbelow, houtside, w'', hagain, -, hsame⟩ :=
    generate_recreates hs (by decide) hc hsteady hrun
  obtain rfl : artifacts = found := Except.ok.inj (hartifacts.symm.trans hfound)
  have hplace (a : Artifact) (ha : a ∈ artifacts) :
      staleDisk.place (Path.join "gen" a.path) = ["gen"] ++ a.location.names := by
    rw [hready.place_join ha, hbase]
  refine ⟨s, c, artifacts, w', hs, hc, hartifacts, hsteady, hrun, ?_, ?_, w'', hagain,
    hsame Disk.ordered_staleDisk⟩
  · by_contra hstale
    obtain ⟨a, ha, hleads⟩ := hbelow "fetchers" (by decide) stalePath (by decide +kernel) hstale
    exact Disk.not_stalePath_above hlocations ha (hplace a ha ▸ hleads)
  · have hnotes : staleDisk.root.node? ["gen", "notes.txt"] = some (.file "kept".toUTF8) := by
      decide +kernel
    have hnames : ∀ l ∈ marketLocations, ["gen", "notes.txt"] ≠ ["gen"] ++ l.names := by
      decide +kernel
    rcases houtside ["gen", "notes.txt"] (by decide +kernel) (fun a ha => by
      rw [hplace a ha]
      exact hnames _ (hlocations ▸ List.mem_map_of_mem ha)) with hkept | ⟨hnone, -⟩
    · rw [hkept, hnotes]
    · cases hnotes.symm.trans hnone

/-- If the path text of the output directory leads through a directory that is not there yet, a run that
succeeds leaves an old file in a folder of the generator. -/
theorem exists_stale_after_run : ∃ s c artifacts w', Schema.parse marketText = .ok s ∧
    '/' ∉ pricing.fetcherSuffix.toList ∧ ofSchema s pricing = .ok c ∧ c.artifacts = .ok artifacts ∧
    (c.generate host "build/../gen").run.run { disk := staleDisk } =
      (.ok (artifacts.map fun a => Path.join "build/../gen" a.path), w') ∧
    w'.disk.place "build/../gen" ++ ["fetchers"] <+: stalePath ∧
    w'.disk.root.node? stalePath = some (.file "stale".toUTF8) ∧
    ∀ a ∈ artifacts, ¬ stalePath <+: w'.disk.place (Path.join "build/../gen" a.path) := by
  obtain ⟨s, c, artifacts, hs, hc, hartifacts, hlocations, hrender⟩ := exists_market_pricing
  have hready := Disk.ready_detourDisk hlocations
  have houtcome : c.outcome "build/../gen" artifacts =
      .ok (artifacts.map fun a => Path.join "build/../gen" a.path) :=
    outcome_eq_ok_iff.2 ⟨hrender, rfl⟩
  have hstop : ["build"] ∈ staleDisk.stops "build/../gen" := by decide +kernel
  obtain ⟨w', hrun, hwritten⟩ := exists_run_of_unseen hartifacts hstop (by decide +kernel)
    (by decide +kernel) Disk.run_makeDirectories_detour hready
  have hbase : detourDisk.place "build/../gen" = ["gen"] := by decide +kernel
  have hapart (a : Artifact) (ha : a ∈ artifacts) :
      ¬ stalePath <+: detourDisk.place "build/../gen" ++ a.location.names := by
    rw [hbase]
    exact Disk.not_stalePath_above hlocations ha
  rw [houtcome] at hrun
  rw [reached_of_succeeds hrender] at hwritten
  refine ⟨s, c, artifacts, w', hs, by decide, hc, hartifacts, hrun, ?_, ?_, fun a ha => ?_⟩
  · rw [Disk.place_congr hwritten.workingDirectory, hbase]
    decide
  · refine hwritten.file stalePath _ (by decide +kernel) (List.forall_mem_map.2 fun a ha hstale => ?_)
    exact hapart a ha (hstale ▸ List.prefix_refl _)
  · rw [Disk.place_congr hwritten.workingDirectory, hready.place_join ha]
    exact hapart a ha

end Catalog

end TypedQuery
