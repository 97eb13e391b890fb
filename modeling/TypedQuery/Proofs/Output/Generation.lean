-- SUMMARY: What lies where after a run of the generator that meets no fault.
import TypedQuery.Proofs.Artifact.Closed
import TypedQuery.Proofs.Output.Runs

/-!
# Generated files

A run that meets no fault writes the files of the artifacts in order, up to the first one that cannot be
rendered, which is left empty. Before that, it has removed the folders of the generator. So what lies at a
path in the end is what these files leave there or, where they leave nothing, what lay there before outside
the folders (`Catalog.node?_of_generate`).
-/
namespace TypedQuery

/-! ## Places of files -/

/-- The names that lead from the output directory to a file. -/
def Location.names (l : Location) : List String := l.folder.name?.toList ++ [l.stem ++ ".ts"]

namespace Location

variable {l other : Location} {folder : Folder} {name : String}

theorem endsPlain_file : Path.EndsPlain (l.stem ++ ".ts") := by
  have hending : Path.EndsPlain ".ts" := ⟨['.', 't'], 's', rfl, by decide, by decide⟩
  exact hending.append

theorem not_isDots_of_endsPlain (h : Path.EndsPlain name) : ¬ Disk.IsDots name := by
  obtain ⟨cs, c, hname, -, hdot⟩ := h
  have hlast : name.toList.getLast? = some c := by simp [hname]
  rintro (rfl | rfl | rfl)
  · cases hlast
  · exact hdot (Option.some.inj hlast).symm
  · exact hdot (Option.some.inj hlast).symm

theorem exists_path_eq (h : Path.IsComponent l.stem) (hname : l.folder.name? = some name) :
    l.path = name ++ "/" ++ (l.stem ++ ".ts") := by
  rw [path_eq h, Folder.lead, hname]
  rfl

theorem path_eq_of_root (h : Path.IsComponent l.stem) (hroot : l.folder.name? = none) :
    l.path = l.stem ++ ".ts" := by
  rw [path_eq h, Folder.lead, hroot]
  exact String.empty_append

theorem mem_owned_of_name? (h : folder.name? = some name) : name ∈ Folder.owned := by
  cases folder <;> cases h <;> decide

theorem components_path (h : Path.IsComponent l.stem) : Disk.components l.path = l.names := by
  have hfile := Disk.components_of_isComponent (h.append isComponent_ending)
  rw [names]
  cases hname : l.folder.name? with
  | none => rw [path_eq_of_root h hname, hfile]; rfl
  | some name =>
    rw [exists_path_eq h hname, Path.components_append_slash, hfile,
      (World.folder_of_mem_owned (mem_owned_of_name? hname)).1]
    rfl

theorem descends_path (h : Path.IsComponent l.stem) : Disk.Descends l.path := by
  rw [Disk.Descends, components_path h, names, List.forall_mem_append, List.forall_mem_singleton]
  refine ⟨fun c hc => ?_, not_isDots_of_endsPlain endsPlain_file⟩
  exact (World.folder_of_mem_owned (mem_owned_of_name? (Option.mem_toList.1 hc))).2

theorem file_ne_folder (h : name ∈ Folder.owned) : l.stem ++ ".ts" ≠ name := by
  have hending : name.toList.reverse.take 3 ≠ ['s', 't', '.'] := by
    revert name
    decide
  rintro rfl
  simp at hending

theorem names_ne_folder (h : name ∈ Folder.owned) : l.names ≠ [name] := by
  rw [names]
  cases l.folder.name? with
  | none => simpa using file_ne_folder h
  | some folder => simp

/-- No file lies on the way to another one. -/
theorem names_eq_of_above (h : l.names <+: other.names) : l.names = other.names := by
  rw [names, names] at h ⊢
  cases hl : l.folder.name? with
  | none =>
    rw [hl] at h
    cases hother : other.folder.name? with
    | none => simpa [hother] using h
    | some name =>
      rw [hother] at h
      exact absurd (List.cons_prefix_cons.1 h).1
        (file_ne_folder (mem_owned_of_name? hother))
  | some name =>
    rw [hl] at h
    cases hother : other.folder.name? with
    | none =>
      rw [hother] at h
      simpa using h.length_le
    | some name => simpa [hother] using h

end Location

/-- The place of the file of an artifact. -/
theorem Artifact.place_join {a : Artifact} {d : Disk} {out : String}
    (h : Path.IsComponent a.location.stem) :
    d.place (Path.join out a.path) = d.place out ++ a.location.names := by
  rw [path, Disk.place_join (Location.descends_path h), Location.components_path h]

namespace Catalog

open World

/-- The place of the file of an artifact below a directory, and what the file is left with. -/
def fileOf (c : Catalog) (base : List String) (a : Artifact) : List String × ByteArray :=
  (base ++ a.location.names, contentOf (c.render a))

/-- The artifacts that a run comes to: up to the first one that cannot be rendered. -/
def reached (c : Catalog) : List Artifact → List Artifact
  | [] => []
  | a :: rest =>
    match c.render a with
    | .ok _ => a :: c.reached rest
    | .error _ => [a]

/-- What a run gives back that meets no fault: the paths of all files, or what the first artifact fails
with that cannot be rendered. -/
def outcome (c : Catalog) (out : String) : List Artifact → Except Error (List String)
  | [] => .ok []
  | a :: rest =>
    match c.render a with
    | .ok _ => (c.outcome out rest).map (Path.join out a.path :: ·)
    | .error failure => .error failure

variable {c : Catalog} {s : Schema} {settings : Settings} {out : String} {a : Artifact}
  {artifacts before after : List Artifact} {w w' : World} {r : Except Error (List String)}
  {failure : Error} {text : String} {paths : List String}

theorem reached_cons_of_ok (h : c.render a = .ok text) :
    c.reached (a :: artifacts) = a :: c.reached artifacts := by
  rw [reached, h]

theorem reached_cons_of_error (h : c.render a = .error failure) :
    c.reached (a :: artifacts) = [a] := by
  rw [reached, h]

theorem outcome_cons_of_ok (h : c.render a = .ok text) : c.outcome out (a :: artifacts) =
    (c.outcome out artifacts).map (Path.join out a.path :: ·) := by
  rw [outcome, h]

theorem outcome_cons_of_error (h : c.render a = .error failure) :
    c.outcome out (a :: artifacts) = .error failure := by
  rw [outcome, h]

/-- Success means that all artifacts are rendered, and that all their paths are given back. -/
theorem outcome_eq_ok_iff : c.outcome out artifacts = .ok paths ↔
    (∀ a ∈ artifacts, ∃ text, c.render a = .ok text) ∧
      paths = artifacts.map fun a => Path.join out a.path := by
  induction artifacts generalizing paths with
  | nil => simp [outcome, eq_comm]
  | cons a rest ih =>
    rw [List.forall_mem_cons, List.map_cons]
    cases hrender : c.render a with
    | error failure => simp [outcome_cons_of_error hrender]
    | ok text =>
      rw [outcome_cons_of_ok hrender, map_eq_ok_iff]
      simp only [ih, Except.ok.injEq, exists_eq', true_and, and_assoc, exists_and_left,
        exists_eq_left, eq_comm]

theorem reached_of_succeeds (h : ∀ a ∈ artifacts, ∃ text, c.render a = .ok text) :
    c.reached artifacts = artifacts := by
  induction artifacts with
  | nil => rfl
  | cons a rest ih =>
    obtain ⟨⟨text, htext⟩, hrest⟩ := List.forall_mem_cons.1 h
    rw [reached_cons_of_ok htext, ih hrest]

/-- A run comes to the first artifact that cannot be rendered, and no further. -/
theorem reached_of_fails (h : ∀ b ∈ before, ∃ text, c.render b = .ok text)
    (ha : c.render a = .error failure) : c.reached (before ++ a :: after) = before ++ [a] ∧
      c.outcome out (before ++ a :: after) = .error failure := by
  induction before with
  | nil => exact ⟨reached_cons_of_error ha, outcome_cons_of_error ha⟩
  | cons b rest ih =>
    obtain ⟨⟨text, htext⟩, hrest⟩ := List.forall_mem_cons.1 h
    obtain ⟨hreached, houtcome⟩ := ih hrest
    rw [List.cons_append, reached_cons_of_ok htext, outcome_cons_of_ok htext, hreached, houtcome]
    exact ⟨rfl, rfl⟩

/-- The types of an artifact decide whether it can be rendered. -/
theorem isOk_render (hc : ofSchema s settings = .ok c) : (c.render a).isOk =
    (a.types.forM fun type => Sheet.check ⟨s, settings, a.location⟩ type.base).isOk := by
  rw [render, schema_eq hc, settings_eq hc]
  cases hchecks : a.types.forM fun type => Sheet.check ⟨s, settings, a.location⟩ type.base with
  | ok _ =>
    obtain ⟨text, htext⟩ := Artifact.exists_render_of_checks hchecks
    rw [htext]
    rfl
  | error failure =>
    obtain ⟨type, htype, hcheck⟩ := exists_of_forM_eq_error hchecks
    cases hrender : a.render s settings with
    | error _ => rfl
    | ok text =>
      cases hcheck.symm.trans (Artifact.check_of_render hrender htype)

/-- For a schema text, where its files go and which of them can be rendered. -/
theorem exists_artifacts_of_listing (source : String) (settings : Settings)
    (listing : List (Location × Bool))
    (h : (Schema.parse source >>= fun s => ofSchema s settings >>= fun c => c.artifacts >>=
      fun artifacts => (pure (artifacts.map fun a => (a.location,
        (a.types.forM fun type => Sheet.check ⟨s, settings, a.location⟩ type.base).isOk)) :
          Except Error (List (Location × Bool)))) = .ok listing) :
    ∃ s c artifacts, Schema.parse source = .ok s ∧ ofSchema s settings = .ok c ∧
      c.artifacts = .ok artifacts ∧ artifacts.map Artifact.location = listing.map (·.1) ∧
      artifacts.map (fun a => (c.render a).isOk) = listing.map (·.2) := by
  obtain ⟨s, c, artifacts, hs, hc, hartifacts, rfl⟩ := exists_artifacts_of_map source settings
    (fun s a => (a.location,
      (a.types.forM fun type => Sheet.check ⟨s, settings, a.location⟩ type.base).isOk)) listing h
  refine ⟨s, c, artifacts, hs, hc, hartifacts, ?_, ?_⟩
  · rw [List.map_map]
    rfl
  · simp only [List.map_map, isOk_render hc]
    rfl

/-- Rendering works on no files. -/
theorem unfaulted_render : Unfaulted (c.render a) := by
  intro fault h
  obtain ⟨type, -, hcheck⟩ := Artifact.exists_check_of_render h
  unfold Sheet.check at hcheck
  split at hcheck
  · cases hcheck
  · split at hcheck <;> cases hcheck
  · cases hcheck

theorem unfaulted_outcome : Unfaulted (c.outcome out artifacts) := by
  induction artifacts with
  | nil => nofun
  | cons a rest ih =>
    intro fault h
    cases hrender : c.render a with
    | error failure =>
      rw [outcome_cons_of_error hrender] at h
      cases h
      exact unfaulted_render fault hrender
    | ok text =>
      rw [outcome_cons_of_ok hrender] at h
      cases hrest : c.outcome out rest with
      | ok paths =>
        rw [hrest] at h
        cases h
      | error failure =>
        rw [hrest] at h
        cases h
        exact ih fault hrest

/-- The loop over the artifacts writes the files of those that it comes to. -/
theorem written_of_writeAll (hstems : ∀ a ∈ artifacts, Path.IsComponent a.location.stem)
    (h : (c.writeAll host out artifacts).run.run w = (r, w')) (hr : Unfaulted r) :
    r = c.outcome out artifacts ∧
      (∀ a ∈ c.reached artifacts, Disk.checkText (Path.join out a.path) = .ok ()) ∧
      (w.disk.Anchored out →
        w.disk.Written ((c.reached artifacts).map (c.fileOf (w.disk.place out))) w'.disk ∧
        ∀ a ∈ c.reached artifacts, ∀ stop ∈ w.disk.stops (Path.join out a.path),
          w'.disk.root.node? stop = some .directory) := by
  induction artifacts generalizing w r with
  | nil =>
    cases h
    exact ⟨rfl, nofun, fun _ => ⟨Disk.Written.refl, nofun⟩⟩
  | cons a rest ih =>
    obtain ⟨hstem, hstems⟩ := List.forall_mem_cons.1 hstems
    have hdescends := Location.descends_path hstem
    have hplace : (w.disk.place (Path.join out a.path), contentOf (c.render a)) =
        c.fileOf (w.disk.place out) a := by
      rw [Artifact.place_join hstem, fileOf]
    rw [writeAll] at h
    -- Either the file is complete and the loop goes on, or there is no text for it and the loop
    -- ends here.
    rcases exists_of_bind h hr with ⟨path, w₁, hfile, hrest⟩ | ⟨failure, hfile, rfl, hfailure⟩
    · obtain ⟨hpath, hcheck, hfirst⟩ := written_of_writeFile hfile nofun
      rw [hplace] at hfirst
      obtain ⟨text, htext, rfl⟩ := map_eq_ok_iff.1 hpath.symm
      obtain ⟨paths, hothers, hpaths, rfl⟩ := exists_of_bind_pure hrest hr
      obtain ⟨rfl, hchecks, hwrittenRest⟩ := ih hstems hothers hpaths
      rw [reached_cons_of_ok htext, outcome_cons_of_ok htext]
      refine ⟨rfl, List.forall_mem_cons.2 ⟨hcheck, hchecks⟩, fun hw => ?_⟩
      · obtain ⟨hwritten, hstops⟩ := hfirst (hw.join hdescends)
        have hw₁ := hw.of_isDirectory hwritten.workingDirectory hwritten.isDirectory
        obtain ⟨hwritten', hstops'⟩ := hwrittenRest hw₁
        rw [Disk.place_congr hwritten.workingDirectory] at hwritten'
        refine ⟨hwritten.trans hwritten', List.forall_mem_cons.2 ⟨fun stop hstop => ?_, ?_⟩⟩
        · exact hwritten'.isDirectory stop (hstops stop hstop)
        · intro b hb stop hstop
          rw [← Disk.stops_congr hwritten.workingDirectory] at hstop
          exact hstops' b hb stop hstop
    · obtain ⟨hpath, hcheck, hfirst⟩ := written_of_writeFile hfile hfailure
      rw [hplace] at hfirst
      cases htext : c.render a with
      | ok text =>
        rw [htext] at hpath
        cases hpath
      | error other =>
        rw [htext] at hpath
        cases hpath
        rw [reached_cons_of_error htext, outcome_cons_of_error htext]
        refine ⟨rfl, List.forall_mem_singleton.2 hcheck, fun hw => ?_⟩
        obtain ⟨hwritten, hstops⟩ := hfirst (hw.join hdescends)
        exact ⟨hwritten, List.forall_mem_singleton.2 hstops⟩

/-- A disk after the files of artifacts have been generated. -/
structure Generated (c : Catalog) (artifacts : List Artifact) (out : String) (d d' : Disk) : Prop where
  workingDirectory : d'.workingDirectory = d.workingDirectory
  node? : ∀ q, d'.root.node? q = (Node.ofFiles (artifacts.map (c.fileOf (d.place out))) q).or
    (d.root.outside (d.place out) Folder.owned q)
  file : ∀ q content, d.root.outside (d.place out) Folder.owned q = some (.file content) →
    (∀ a ∈ artifacts, q ≠ d.place out ++ a.location.names) → d'.root.node? q = some (.file content)
  checkText : ∀ a ∈ artifacts, Disk.checkText (Path.join out a.path) = .ok ()
  stops : ∀ stop ∈ d.stops out, d'.root.node? stop = some .directory
  ordered : d.root.Ordered → d'.root.Ordered

theorem exists_eq_commonTypes_cons (h : c.artifacts = .ok artifacts) :
    ∃ rest, artifacts = .commonTypes c.lineage :: rest := by
  obtain ⟨builders, -, rfl⟩ := map_eq_ok_iff.1 h
  simp [artifactsOf]

theorem commonTypes_mem_reached (h : c.artifacts = .ok artifacts) :
    .commonTypes c.lineage ∈ c.reached artifacts := by
  obtain ⟨rest, rfl⟩ := exists_eq_commonTypes_cons h
  rw [reached]
  split <;> exact List.mem_cons_self

/-- If the common types can be written, the folders of the generator can be named. -/
theorem checkText_folder (h : Disk.checkText (Path.join out "CommonTypes.ts") = .ok ()) :
    ∀ folder ∈ Folder.owned, Disk.checkText (Path.join out folder) = .ok () := by
  have howned : ∀ folder ∈ Folder.owned, '/' ∉ folder.toList ∧
      folder.utf8ByteSize ≤ "CommonTypes.ts".utf8ByteSize ∧ '\x00' ∉ folder.toList ∧ folder ≠ "" := by
    decide
  have hfile : Path.IsComponent "CommonTypes.ts" := by
    change '/' ∉ "CommonTypes.ts".toList
    decide
  intro folder hfolder
  obtain ⟨hcomponent, hsize, hnul, hne⟩ := howned folder hfolder
  exact Disk.checkText_join h (Path.not_startsWith_slash hfile)
    (Path.not_startsWith_slash hcomponent) hsize hnul hne

theorem isComponent_commonTypes {l : Lineage} :
    Path.IsComponent (Artifact.commonTypes l).location.stem := by
  change '/' ∉ "CommonTypes".toList
  decide

theorem path_commonTypes {l : Lineage} : (Artifact.commonTypes l).path = "CommonTypes.ts" :=
  Location.path_eq_of_root isComponent_commonTypes rfl

/-- The folders are removed, the output directory is made, and the files are written. -/
theorem Generated.of_steps {d d₁ d₂ d₃ : Disk} {l : Lineage}
    (hcleared : d.Cleared (d.place out) Folder.owned d₁) (hgrows : d₁.Grows (· <+: d.place out) d₂)
    (hwritten : d₂.Written (artifacts.map (c.fileOf (d.place out))) d₃)
    (hcommon : .commonTypes l ∈ artifacts)
    (hchecks : ∀ a ∈ artifacts, Disk.checkText (Path.join out a.path) = .ok ())
    (hstops : ∀ stop ∈ d.stops (Path.join out (Artifact.commonTypes l).path),
      d₃.root.node? stop = some .directory) : c.Generated artifacts out d d₃ := by
  -- the output directory leads to a file, so what has been made there is accounted for by the files
  have hfiles (q : List String)
      (hq : q <+: d.place out ++ (Artifact.commonTypes l).location.names) :
      Node.ofFiles (artifacts.map (c.fileOf (d.place out))) q ≠ none := by
    rw [ne_eq, Node.ofFiles_eq_none_iff]
    exact fun hnot => hnot _ (List.mem_map_of_mem hcommon) hq
  refine ⟨?_, fun q => ?_, fun q content hq hne => ?_, hchecks, fun stop hstop => ?_, fun hd => ?_⟩
  · exact hwritten.workingDirectory.trans
      (hgrows.workingDirectory.trans hcleared.workingDirectory)
  · rw [hwritten.node?, ← hcleared.node?]
    rcases hgrows.node? q with hsame | ⟨-, -, hleads⟩
    · rw [hsame]
    · obtain ⟨node, hnode⟩ := Option.ne_none_iff_exists'.1
        (hfiles q (hleads.trans (List.prefix_append _ _)))
      rw [hnode, Option.some_or, Option.some_or]
  · rw [← hcleared.node?] at hq
    refine hwritten.file q content (hgrows.file hq) fun file hfile => ?_
    obtain ⟨a, ha, rfl⟩ := List.mem_map.1 hfile
    exact hne a ha
  · have hdescends : Disk.Descends (Artifact.commonTypes l).path :=
      Location.descends_path isComponent_commonTypes
    rcases Disk.mem_stops_of_join hdescends hstop with hstop | rfl
    · exact hstops stop hstop
    · refine FileTree.isDirectory_above
        (List.prefix_append _ (Artifact.commonTypes l).location.names) ?_ ?_
      · simp [Location.names]
      · rw [hwritten.node?, ne_eq, Option.or_eq_none_iff, not_and_or]
        exact .inl (hfiles _ (List.prefix_refl _))
  · exact hwritten.ordered (hgrows.ordered (hcleared.ordered hd))

/-- Without artifacts, nothing is done. -/
theorem run_of_artifacts_error (h : c.artifacts = .error failure) :
    (c.generate host out).run.run w = (.error failure, w) := by
  have hartifacts : (ExceptT.mk (pure c.artifacts) : ExceptT Error (StateM World) _).run.run w =
      (.error failure, w) := by
    rw [h]
    rfl
  rw [generate, run_bind, hartifacts]

/-- A catalog of a schema text has artifacts whose files can be told by their paths. -/
theorem Run.of_parse {source : String} (hs : Schema.parse source = .ok s)
    (hsuffix : '/' ∉ settings.fetcherSuffix.toList) (hc : ofSchema s settings = .ok c)
    (hartifacts : c.artifacts = .ok artifacts) : c.Run s settings artifacts :=
  ⟨hc, hartifacts, fun d hd => (Schema.isName_of_parse hs d hd).isComponent, hsuffix⟩

/-- What a run that meets no fault gives back and leaves behind. -/
theorem generated_of_run (h : c.Run s settings artifacts)
    (hrun : (c.generate host out).run.run w = (r, w')) (hr : Unfaulted r) :
    r = c.outcome out artifacts ∧
      (w.disk.Steady out → c.Generated (c.reached artifacts) out w.disk w'.disk) := by
  have hartifacts : (ExceptT.mk (pure c.artifacts) : ExceptT Error (StateM World) _).run.run w =
      (.ok artifacts, w) := by
    rw [h.artifacts]
    rfl
  rw [generate, run_bind, hartifacts] at hrun
  dsimp only at hrun
  rcases exists_of_bind hrun hr with ⟨_, w₁, hclear, hrest⟩ | ⟨failure, hclear, -, hfailure⟩
  · obtain ⟨-, hcleared⟩ := cleared_of_clearFolders (List.Subset.refl _) hclear nofun
    obtain ⟨w₂, hmake, hrest⟩ := exists_of_attempt_bind hrest hr
    have hspreads := spreads_makeDirectories (w := w₁) out
    rw [hmake] at hspreads
    obtain ⟨w₃, hwrite, hdisk⟩ : ∃ w₃, (c.writeAll host out artifacts).run.run w₂ = (r, w₃) ∧
        w'.disk = w₃.disk := by
      rcases exists_of_bind hrest hr with ⟨paths, w₃, hwrite, hend⟩ | ⟨failure, hwrite, rfl, -⟩
      · cases hend
        exact ⟨w₃, hwrite, rfl⟩
      · exact ⟨w', hwrite, rfl⟩
    have hstems : ∀ a ∈ artifacts, Path.IsComponent a.location.stem :=
      fun a ha => h.isComponent_stem ha
    obtain ⟨hresult, hchecks, hwritten⟩ := written_of_writeAll hstems hwrite hr
    refine ⟨hresult, fun hw => ?_⟩
    -- The first file is written in any case, and if its path can be named, so can those of the
    -- folders.
    have hcleared := hcleared hw
      (checkText_folder (path_commonTypes ▸ hchecks _ (commonTypes_mem_reached h.artifacts)))
    have hw₁ := (hw.cleared hcleared (List.Subset.refl _)).anchored
    have hgrows := hw₁.grows hspreads
    obtain ⟨hwritten, hstops⟩ := hwritten (hw₁.of_isDirectory hgrows.workingDirectory fun q =>
      hgrows.isDirectory)
    rw [hdisk]
    rw [Disk.place_congr hcleared.workingDirectory] at hgrows
    have hwd := hgrows.workingDirectory.trans hcleared.workingDirectory
    rw [Disk.place_congr hwd] at hwritten
    refine Generated.of_steps hcleared hgrows hwritten
      (commonTypes_mem_reached h.artifacts) hchecks fun stop hstop => ?_
    rw [← Disk.stops_congr hwd] at hstop
    exact hstops _ (commonTypes_mem_reached h.artifacts) stop hstop
  · cases (cleared_of_clearFolders (List.Subset.refl _) hclear hfailure).1

end Catalog

end TypedQuery
