-- SUMMARY: The files of a run have paths of their own, unless one takes the path of an index.
import TypedQuery.Proofs.Output.Generation
import TypedQuery.Proofs.Sdl.Names

/-!
# Distinct paths

A file is named for its type, behind which a builder puts the suffix. The suffix can be anything: it
may have slashes and dots in it. Still, the paths of two files are the same only if folder and stem
are (`Location.site_eq_of_steps`), however paths are compared. That happens for the index of a
folder and a type that is called `index`, or comes to that with the suffix, and never else
(`Catalog.paths_nodup_iff`).
-/
namespace TypedQuery

/-! ## Steps of paths -/

/-- The component is followed: it is not the directory that was reached. -/
def Path.isStep (c : String) : Bool := c ≠ "" && c ≠ "."

/-- The components of a path text that are followed. -/
def Path.steps (path : String) : List String := (Disk.components path).filter isStep

namespace Disk

variable {cs p : List String} {as bs : List Char} {d : Disk} {out rel name ending : String}

theorem walk_of_not_up (h : ".." ∉ cs) : walk p cs = p ++ cs.filter Path.isStep := by
  induction cs generalizing p with
  | nil => exact (List.append_nil p).symm
  | cons c rest ih =>
    obtain ⟨hc, hrest⟩ := not_or.1 (mt List.mem_cons.2 h)
    have hwalk : walk p (c :: rest) = walk (step p c) rest := rfl
    rw [hwalk, ih hrest, step]
    by_cases hstep : Path.isStep c = true
    · have hdots : ¬ IsDots c := by
        simp only [Path.isStep, Bool.and_eq_true, decide_eq_true_eq] at hstep
        simp [IsDots, hstep, Ne.symm hc]
      rw [if_neg hdots, List.filter_cons_of_pos hstep, List.append_assoc, List.singleton_append]
    · have hdots : IsDots c := by
        simp only [Path.isStep, Bool.and_eq_true, decide_eq_true_eq] at hstep
        unfold IsDots
        tauto
      rw [if_pos hdots, if_neg (Ne.symm hc), List.filter_cons_of_neg hstep]

/-- A relative path that does not lead up goes on by its steps. -/
theorem place_join_of_not_up (hstart : rel.startsWith "/" = false) (h : ".." ∉ components rel) :
    d.place (Path.join out rel) = d.place out ++ Path.steps rel := by
  rw [place_join_eq_walk hstart, walk_of_not_up h, Path.steps]

theorem stretches_append (h : '/' ∉ as) :
    stretches (as ++ bs) = (stretches bs).modifyHead (as ++ ·) := by
  induction as with
  | nil => cases hbs : stretches bs <;> simp [hbs]
  | cons c rest ih =>
    obtain ⟨hc, hrest⟩ := not_or.1 (mt List.mem_cons.2 h)
    rw [List.cons_append, stretches, if_neg (Ne.symm hc), ih hrest, List.modifyHead_modifyHead]
    rfl

/-- The first component begins with what has no slash. -/
theorem components_append (h : Path.IsComponent name) :
    components (name ++ ending) = (components ending).modifyHead (name ++ ·) := by
  rw [components, components, String.toList_append, stretches_append h]
  cases stretches ending.toList with
  | nil => rfl
  | cons first rest => simp

/-- Every character but a slash stands in a component. -/
theorem exists_mem_stretches {c : Char} (h : c ∈ as) (hc : c ≠ '/') : ∃ b ∈ stretches as, c ∈ b := by
  induction as with
  | nil => cases h
  | cons first rest ih =>
    rw [stretches]
    split
    · next hslash =>
      have hrest : c ∈ rest := (List.mem_cons.1 h).resolve_left fun heq => hc (heq.trans hslash)
      obtain ⟨b, hb, hmem⟩ := ih hrest
      exact ⟨b, List.mem_cons_of_mem _ hb, hmem⟩
    · have hne : stretches rest ≠ [] := stretches_ne_nil
      obtain ⟨head, others, hstretches⟩ := List.exists_cons_of_ne_nil hne
      rw [hstretches, List.modifyHead_cons]
      rcases List.mem_cons.1 h with rfl | hrest
      · exact ⟨_, List.mem_cons_self, List.mem_cons_self⟩
      · obtain ⟨b, hb, hmem⟩ := ih hrest
        rw [hstretches] at hb
        rcases List.mem_cons.1 hb with rfl | hb
        · exact ⟨_, List.mem_cons_self, List.mem_cons_of_mem _ hmem⟩
        · exact ⟨b, List.mem_cons_of_mem _ hb, hmem⟩

end Disk

namespace Path

variable {name ending path : String}

theorem isStep_of_mem {c : Char} (h : c ∈ name.toList) (hc : c ≠ '.') : isStep name = true := by
  simp only [isStep, Bool.and_eq_true, decide_eq_true_eq]
  constructor <;> rintro rfl
  · cases h
  · exact hc (List.mem_singleton.1 h)

theorem isStep_append (h : Sdl.IsName name) : isStep (name ++ ending) = true := by
  obtain ⟨c, rest, hname⟩ := List.exists_cons_of_ne_nil (mt String.toList_eq_nil_iff.1 h.1)
  have hchar : Sdl.isNameChar c = true := h.2 c (hname ▸ List.mem_cons_self)
  refine isStep_of_mem (c := c) (by simp [hname]) ?_
  rintro rfl
  exact absurd hchar (by decide)

theorem steps_ne_nil {c : Char} (h : c ∈ path.toList) (hslash : c ≠ '/') (hdot : c ≠ '.') :
    steps path ≠ [] := by
  obtain ⟨b, hb, hmem⟩ := Disk.exists_mem_stretches h hslash
  have hstep : isStep (String.ofList b) = true := isStep_of_mem (by simpa using hmem) hdot
  exact List.ne_nil_of_mem (List.mem_filter.2 ⟨List.mem_map_of_mem hb, hstep⟩)

/-- What the ending of a file name adds to a name: the rest of the step that the name begins, and
further steps if there is a slash in the ending. -/
theorem exists_steps (ending : String) : ∃ first rest,
    (IsComponent ending → first = ending ++ ".ts" ∧ rest = []) ∧
    (¬ IsComponent ending → rest ≠ []) ∧
    ∀ name, Sdl.IsName name → steps (name ++ ending ++ ".ts") = (name ++ first) :: rest := by
  have hsteps {first : String} {others : List String}
      (hcomponents : Disk.components (ending ++ ".ts") = first :: others) (name : String)
      (hname : Sdl.IsName name) :
      steps (name ++ ending ++ ".ts") = (name ++ first) :: others.filter isStep := by
    rw [steps, String.append_assoc, Disk.components_append hname.isComponent, hcomponents,
      List.modifyHead_cons, List.filter_cons_of_pos (isStep_append hname)]
  by_cases hslash : IsComponent ending
  · have hcomponents := Disk.components_of_isComponent (hslash.append Location.isComponent_ending)
    exact ⟨_, _, fun _ => ⟨rfl, rfl⟩, fun h => absurd hslash h, hsteps hcomponents⟩
  · obtain ⟨before, behind, hsplit, hbefore⟩ := List.eq_append_cons_of_mem (not_not.1 hslash)
    have hending : ending ++ ".ts" = String.ofList before ++ "/" ++ (String.ofList behind ++ ".ts") := by
      rw [← String.toList_inj]
      simp [hsplit]
    have hfirst : IsComponent (String.ofList before) := by
      rwa [IsComponent, String.toList_ofList]
    have hcomponents : Disk.components (ending ++ ".ts") =
        String.ofList before :: Disk.components (String.ofList behind ++ ".ts") := by
      rw [hending, components_append_slash, Disk.components_of_isComponent hfirst]
      rfl
    refine ⟨_, _, fun h => absurd h hslash, fun _ => ?_, hsteps hcomponents⟩
    exact steps_ne_nil (c := 's') (by simp) (by decide) (by decide)

end Path

/-! ## Folders and stems -/

namespace Location

/-- What the path of a location is made of. -/
def site (l : Location) : Folder × String := (l.folder, l.stem)

/-- The stem is a name or, in the folder of the builders, a name with the suffix. -/
def Named (l : Location) (suffix : String) : Prop :=
  ∃ name, Sdl.IsName name ∧ (l.stem = name ∨ l.folder = .fetchers ∧ l.stem = name ++ suffix)

variable {l other : Location} {suffix name ending : String}

theorem path_eq_of_name (hname : Sdl.IsName name) (hstem : l.stem = name ++ ending) :
    l.path = l.folder.lead ++ (l.stem ++ ".ts") ∧ l.path.startsWith "/" = false := by
  have hstart : (l.stem ++ ".ts").startsWith "/" = false := by
    rw [hstem, String.append_assoc, Path.startsWith_slash_append hname.1]
    exact Path.not_startsWith_slash hname.isComponent
  have hpath := path_eq_of_not_startsWith hstart
  refine ⟨hpath, ?_⟩
  rw [hpath]
  cases l.folder with
  | root => simpa [Folder.lead, Folder.name?] using hstart
  | fetchers | enums | inputs =>
    rw [Path.startsWith_slash_append (by decide)]
    decide +kernel

theorem steps_path (hname : Sdl.IsName name) (hstem : l.stem = name ++ ending) :
    Path.steps l.path = l.folder.name?.toList ++ Path.steps (l.stem ++ ".ts") := by
  rw [(path_eq_of_name hname hstem).1, Folder.lead]
  cases hfolder : l.folder.name? with
  | none => simp
  | some folder =>
    obtain ⟨hfolder, hdots⟩ := World.folder_of_mem_owned (mem_owned_of_name? hfolder)
    have hstep : Path.isStep folder = true := by
      simp only [Disk.IsDots, not_or] at hdots
      simp [Path.isStep, hdots]
    rw [Option.elim_some, Path.steps, Path.components_append_slash, hfolder, List.filter_append,
      List.filter_singleton, hstep]
    rfl

theorem Named.not_startsWith (h : l.Named suffix) : l.path.startsWith "/" = false := by
  obtain ⟨name, hname, hstem | ⟨_, hstem⟩⟩ := h
  · have hplain : l.stem = name ++ "" := by rw [hstem, String.append_empty]
    exact (path_eq_of_name hname hplain).2
  · exact (path_eq_of_name hname hstem).2

theorem eq_of_append_eq {folder folder' : Folder} {x y : String} {xs ys : List String}
    (h : folder.name?.toList ++ x :: xs = folder'.name?.toList ++ y :: ys)
    (hroot : folder = .root → xs = []) (hroot' : folder' = .root → ys = []) :
    folder = folder' ∧ x = y ∧ xs = ys := by
  cases folder <;> cases folder' <;> simp_all [Folder.name?]

/-- Paths have the same steps only if they are made of the same folder and stem. -/
theorem site_eq_of_steps (hl : l.Named suffix) (hother : other.Named suffix)
    (h : Path.steps l.path = Path.steps other.path) : l.site = other.site := by
  obtain ⟨first, rest, hplain, hslash, hsteps⟩ := Path.exists_steps suffix
  -- Behind the folder, the first step begins with the name of the type, whatever the suffix is.
  have hshape {l : Location} (hl : l.Named suffix) : ∃ name x xs,
      Path.steps l.path = l.folder.name?.toList ++ (name ++ x) :: xs ∧
      (l.stem = name ∧ x = ".ts" ∧ xs = [] ∨
        l.folder = .fetchers ∧ l.stem = name ++ suffix ∧ x = first ∧ xs = rest) := by
    obtain ⟨name, hname, hstem | ⟨hfolder, hstem⟩⟩ := hl
    · have hfile : Path.steps (name ++ ".ts") = [name ++ ".ts"] := by
        rw [Path.steps, Disk.components_of_isComponent (hname.isComponent.append isComponent_ending),
          List.filter_singleton, Path.isStep_append hname]
        rfl
      have hplain : l.stem = name ++ "" := by rw [hstem, String.append_empty]
      refine ⟨name, _, _, ?_, .inl ⟨hstem, rfl, rfl⟩⟩
      rw [steps_path hname hplain, hstem, hfile]
    · refine ⟨name, _, _, ?_, .inr ⟨hfolder, hstem, rfl, rfl⟩⟩
      rw [steps_path hname hstem, hstem, hsteps name hname]
  have hsuffix {name other : String} (hname : name ++ first = other ++ ".ts") (hrest : rest = []) :
      name ++ suffix = other := by
    by_cases hcomponent : Path.IsComponent suffix
    · rw [(hplain hcomponent).1, ← String.append_assoc] at hname
      exact (String.append_left_inj _).1 hname
    · exact absurd hrest (hslash hcomponent)
  obtain ⟨name, x, xs, hpath, hcase⟩ := hshape hl
  obtain ⟨name', x', xs', hpath', hcase'⟩ := hshape hother
  rw [hpath, hpath'] at h
  have hroot : l.folder = .root → xs = [] := by
    rcases hcase with ⟨_, _, hxs⟩ | ⟨hfolder, _⟩
    · exact fun _ => hxs
    · simp [hfolder]
  have hroot' : other.folder = .root → xs' = [] := by
    rcases hcase' with ⟨_, _, hxs⟩ | ⟨hfolder, _⟩
    · exact fun _ => hxs
    · simp [hfolder]
  obtain ⟨hfolder, hnames, hrests⟩ := eq_of_append_eq h hroot hroot'
  rw [site, site, hfolder, Prod.mk.injEq, eq_self, true_and]
  rcases hcase with ⟨hstem, rfl, rfl⟩ | ⟨_, hstem, rfl, rfl⟩ <;>
    rcases hcase' with ⟨hstem', rfl, rfl⟩ | ⟨_, hstem', rfl, rfl⟩ <;> rw [hstem, hstem']
  · exact (String.append_left_inj _).1 hnames
  · exact (hsuffix hnames.symm hrests.symm).symm
  · exact hsuffix hnames hrests
  · rw [(String.append_left_inj _).1 hnames]

end Location

/-! ## Files of a run -/

/-- No type has the file name of an index. -/
structure Schema.AvoidsIndexes (s : Schema) (suffix : String) : Prop where
  composites : ∀ n ∈ s.compositeNames, n ++ suffix ≠ "index"
  enums : ∀ d ∈ s.enums, d.name ≠ "index"
  inputs : ∀ d ∈ s.inputs, d.name ≠ "index"

namespace Catalog

variable {c : Catalog} {s : Schema} {settings : Settings} {artifacts : List Artifact} {a : Artifact}

theorem named_of_mem (hnames : ∀ d ∈ s.types, Sdl.IsName d.name) (hc : ofSchema s settings = .ok c)
    (hartifacts : c.artifacts = .ok artifacts) (ha : a ∈ artifacts) :
    a.location.Named settings.fetcherSuffix := by
  have hget {n : String} {d : TypeDef} (hget : s.get? n = some d) : Sdl.IsName n := by
    obtain ⟨hd, rfl⟩ := Schema.get?_eq_some_iff.1 hget
    exact hnames d hd
  cases a with
  | commonTypes l => exact ⟨"CommonTypes", by decide, .inl rfl⟩
  | index i => exact ⟨"index", by decide, .inl rfl⟩
  | enum d => exact ⟨_, hget ((enum_mem_iff hc hartifacts).1 ha), .inl rfl⟩
  | input d => exact ⟨_, hget ((input_mem_iff hc hartifacts).1 ha), .inl rfl⟩
  | builder b =>
    obtain ⟨hcatalog, hcomposite, _⟩ := typeName_mem_of_mem_artifacts hc hartifacts ha
    obtain ⟨d, hd, _⟩ := Schema.mem_compositeNames_iff.1 hcomposite
    refine ⟨_, hget hd, .inr ⟨rfl, ?_⟩⟩
    rw [← settings_eq hc, ← hcatalog]
    rfl

/-- The stems of the files in a folder, in order. -/
def stems (artifacts : List Artifact) (folder : Folder) : List String :=
  (artifacts.filter (·.location.folder = folder)).map (·.location.stem)

/-- In the folder of a kind of types, the index comes behind the types. -/
theorem stems_artifacts (hc : ofSchema s settings = .ok c) (hartifacts : c.artifacts = .ok artifacts) :
    stems artifacts .root = ["CommonTypes", "index"] ∧
    stems artifacts .fetchers = s.compositeNames.map (· ++ settings.fetcherSuffix) ++ ["index"] ∧
    stems artifacts .enums =
      s.enums.map (·.name) ++ (if s.enums.isEmpty then [] else ["index"]) ∧
    stems artifacts .inputs =
      s.inputs.map (·.name) ++ (if s.inputs.isEmpty then [] else ["index"]) := by
  obtain ⟨builders, hbuilders, rfl⟩ := map_eq_ok_iff.1 hartifacts
  have hnames : s.compositeNames.map (· ++ settings.fetcherSuffix) =
      builders.map (·.location.stem) := by
    rw [← typeNames_of_builders hc hbuilders, List.map_map]
    refine List.map_congr_left fun b hb => ?_
    obtain ⟨t, _, hbuilder⟩ := exists_of_mem_right (mapM_eq_ok_iff.1 hbuilders) hb
    rw [← settings_eq hc, ← (builds_of_builder hbuilder).catalog]
    rfl
  rw [hnames, ← schema_eq hc]
  unfold stems artifactsOf
  refine ⟨?_, ?_, ?_, ?_⟩ <;> cases c.schema.enums <;> cases c.schema.inputs <;>
    simp [List.filter_map, Function.comp_def, Artifact.location, CommonTypes.location,
      Builder.location, EnumDef.location, InputDef.location, Index.location]

/-- The folders and stems of the files are distinct, unless a type takes those of an index. -/
theorem nodup_sites_iff (hc : ofSchema s settings = .ok c) (hartifacts : c.artifacts = .ok artifacts) :
    (artifacts.map (·.location.site)).Nodup ↔ s.AvoidsIndexes settings.fetcherSuffix := by
  obtain ⟨hroot, hfetchers, henums, hinputs⟩ := stems_artifacts hc hartifacts
  -- Folder by folder, only the index can have the stem of a type.
  have hfolders : (artifacts.map (·.location.site)).Nodup ↔
      ∀ folder, (stems artifacts folder).Nodup :=
    nodup_map_pair_iff
  have hcomposites : (s.compositeNames.map (· ++ settings.fetcherSuffix)).Nodup :=
    Schema.nodup_compositeNames.map fun n n' => (String.append_left_inj _).1
  have hindex {α : Type} {name : α → String} {items : List α} (h : (items.map name).Nodup) :
      (items.map name ++ if items.isEmpty then [] else ["index"]).Nodup ↔
        ∀ d ∈ items, name d ≠ "index" := by
    rw [List.nodup_append, eq_true h, true_and]
    cases items <;> simp
  rw [hfolders]
  constructor
  · intro h
    have hbuilders := hfetchers ▸ h .fetchers
    refine ⟨?_, (hindex Schema.nodup_enums).1 (henums ▸ h .enums),
      (hindex Schema.nodup_inputs).1 (hinputs ▸ h .inputs)⟩
    simpa [List.nodup_append, hcomposites] using hbuilders
  · rintro ⟨hcomposite, henum, hinput⟩ (_ | _ | _ | _)
    · rw [hroot]
      decide
    · rw [hfetchers]
      simpa [List.nodup_append, hcomposites] using hcomposite
    · rw [henums]
      exact (hindex Schema.nodup_enums).2 henum
    · rw [hinputs]
      exact (hindex Schema.nodup_inputs).2 hinput

/-- The paths of the files are distinct as texts, by their steps, and by the places that they lead
to unless they lead up, if and only if no type has the file name of an index. -/
theorem paths_nodup_iff (hnames : ∀ d ∈ s.types, Sdl.IsName d.name)
    (hc : ofSchema s settings = .ok c) (hartifacts : c.artifacts = .ok artifacts) :
    ((artifacts.map (·.path)).Nodup ↔ s.AvoidsIndexes settings.fetcherSuffix) ∧
    ((artifacts.map fun a => Path.steps a.path).Nodup ↔ s.AvoidsIndexes settings.fetcherSuffix) ∧
    ((∀ a ∈ artifacts, ".." ∉ Disk.components a.path) → ∀ (d : Disk) (out : String),
      (artifacts.map fun a => d.place (Path.join out a.path)).Nodup ↔
        s.AvoidsIndexes settings.fetcherSuffix) := by
  have hnamed {a : Artifact} (ha : a ∈ artifacts) := named_of_mem hnames hc hartifacts ha
  have hpath {a b : Artifact} (h : a.location.site = b.location.site) : a.path = b.path := by
    obtain ⟨hfolder, hstem⟩ := Prod.mk.inj h
    rw [Artifact.path, Artifact.path, Location.path, Location.path, hfolder, hstem]
  have hsteps {a b : Artifact} (ha : a ∈ artifacts) (hb : b ∈ artifacts)
      (h : Path.steps a.path = Path.steps b.path) : a.location.site = b.location.site :=
    Location.site_eq_of_steps (hnamed ha) (hnamed hb) h
  simp only [← nodup_sites_iff hc hartifacts]
  refine ⟨nodup_map_iff_nodup_map fun a ha b hb => ?_, nodup_map_iff_nodup_map fun a ha b hb => ?_,
    fun hup d out => nodup_map_iff_nodup_map fun a ha b hb => ?_⟩
  · exact ⟨fun h => hsteps ha hb (by rw [h]), hpath⟩
  · exact ⟨hsteps ha hb, fun h => by rw [hpath h]⟩
  · have hplace {a : Artifact} (ha : a ∈ artifacts) :
        d.place (Path.join out a.path) = d.place out ++ Path.steps a.path :=
      Disk.place_join_of_not_up (hnamed ha).not_startsWith (hup a ha)
    rw [hplace ha, hplace hb, List.append_cancel_left_eq]
    exact ⟨hsteps ha hb, fun h => by rw [hpath h]⟩

/-- A schema with a type of each kind that has a file. -/
def storeText : String :=
  "type Query \x7b items(filter: Filter): Size \x7d enum Size \x7b S \x7d input Filter \x7b size: Size \x7d"

/-- A suffix that makes a folder for each builder. -/
def nested : Settings := { fetcherSuffix := "/Builder" }

theorem paths_nodup_iff_store : ∃ s c artifacts, Schema.parse storeText = .ok s ∧
    (∀ d ∈ s.types, Sdl.IsName d.name) ∧ ofSchema s nested = .ok c ∧ c.artifacts = .ok artifacts ∧
    (artifacts.map (·.path)).Nodup ∧ s.AvoidsIndexes nested.fetcherSuffix ∧
    ∀ (d : Disk) (out : String), (artifacts.map fun a => d.place (Path.join out a.path)).Nodup := by
  obtain ⟨s, c, artifacts, hs, hc, hartifacts, hlocations, _⟩ :=
    exists_artifacts_of_listing storeText nested
      [(⟨.root, "CommonTypes", none⟩, true), (⟨.fetchers, "Query/Builder", some "Query"⟩, true),
        (⟨.fetchers, "index", none⟩, true), (⟨.enums, "Size", some "Size"⟩, true),
        (⟨.inputs, "Filter", some "Filter"⟩, true), (⟨.enums, "index", none⟩, true),
        (⟨.inputs, "index", none⟩, true), (⟨.root, "index", none⟩, true)] (by cbv)
  have hnames := Schema.isName_of_parse hs
  obtain ⟨hpaths, _, hplaces⟩ := paths_nodup_iff hnames hc hartifacts
  have hdistinct : ((artifacts.map (·.location)).map Location.path).Nodup := by
    rw [hlocations]
    decide +kernel
  have hup : ∀ l ∈ artifacts.map (·.location), ".." ∉ Disk.components l.path := by
    rw [hlocations]
    decide +kernel
  rw [List.map_map] at hdistinct
  have havoids := hpaths.1 hdistinct
  exact ⟨s, c, artifacts, hs, hnames, hc, hartifacts, hdistinct, havoids, fun d out =>
    (hplaces (fun a ha => hup _ (List.mem_map_of_mem ha)) d out).2 havoids⟩

/-- A schema with an enum that has the file name of an index. -/
def indexText : String := "type Query \x7b size: index \x7d enum index \x7b S \x7d"

/-- The enum and the index of the enums are both written, to the same path. -/
theorem not_nodup_paths_index : ∃ s c artifacts, Schema.parse indexText = .ok s ∧
    ofSchema s {} = .ok c ∧ c.artifacts = .ok artifacts ∧
    (∀ a ∈ artifacts, ∃ text, c.render a = .ok text) ∧ ¬ (artifacts.map (·.path)).Nodup := by
  obtain ⟨s, c, artifacts, hs, hc, hartifacts, hlocations, hrendered⟩ :=
    exists_artifacts_of_listing indexText {}
      [(⟨.root, "CommonTypes", none⟩, true), (⟨.fetchers, "QueryFetcher", some "Query"⟩, true),
        (⟨.fetchers, "index", none⟩, true), (⟨.enums, "index", some "index"⟩, true),
        (⟨.enums, "index", none⟩, true), (⟨.root, "index", none⟩, true)] (by cbv)
  have hall : ∀ ok ∈ artifacts.map (fun a => (c.render a).isOk), ok = true := by
    rw [hrendered]
    decide
  have hshared : ¬ ((artifacts.map (·.location)).map Location.path).Nodup := by
    rw [hlocations]
    decide +kernel
  rw [List.map_map] at hshared
  exact ⟨s, c, artifacts, hs, hc, hartifacts, fun a ha => exists_of_isOk (hall _
    (List.mem_map_of_mem ha)), hshared⟩

end Catalog

end TypedQuery
