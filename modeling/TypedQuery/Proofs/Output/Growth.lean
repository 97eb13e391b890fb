-- SUMMARY: Making directories adds directories where path texts lead, and changes nothing else.
import TypedQuery.Output.Directories
import TypedQuery.Proofs.Output.Ordered
import TypedQuery.Proofs.Output.Places

/-!
# Growing disks

A disk grows if directories are added where there was nothing. Making the directories at a path makes it
grow at places that the text leads to, whether it succeeds or not. If the directory is there already, or is
all that is missing, it succeeds.
-/
namespace TypedQuery

namespace Disk

/-- Nothing changes but that directories are made at places of a kind, where there was nothing. -/
structure Grows (P : List String → Prop) (d d' : Disk) : Prop where
  workingDirectory : d'.workingDirectory = d.workingDirectory
  node? : ∀ q, d'.root.node? q = d.root.node? q ∨
    d.root.node? q = none ∧ d'.root.node? q = some .directory ∧ P q
  ordered : d.root.Ordered → d'.root.Ordered

/-- A part of the path text leads to the place. -/
def Reaches (d : Disk) (path : String) (q : List String) : Prop :=
  ∃ lead, lead <+: components path ∧ q = walk (d.origin path) lead

variable {P Q : List String → Prop} {d d' d'' : Disk} {path out above : String} {q : List String}

/-! ## Paths on other disks -/

theorem origin_congr (h : d'.workingDirectory = d.workingDirectory) :
    d'.origin path = d.origin path := by
  rw [origin, origin, h]

theorem place_congr (h : d'.workingDirectory = d.workingDirectory) :
    d'.place path = d.place path := by
  rw [place, place, origin_congr h]

theorem stops_congr (h : d'.workingDirectory = d.workingDirectory) :
    d'.stops path = d.stops path := by
  rw [stops, stops, origin_congr h]

theorem reaches_congr (h : d'.workingDirectory = d.workingDirectory) :
    d'.Reaches path q ↔ d.Reaches path q := by
  rw [Reaches, Reaches, origin_congr h]

/-- Wherever a path text or one above it leads, that is on the way to the place, or a stop. -/
theorem Reaches.cases (h : d.Reaches path q) : q <+: d.place path ∨ q ∈ d.stops path := by
  obtain ⟨lead, hlead, rfl⟩ := h
  exact walk_prefix_or_mem_halts hlead

theorem Reaches.of_isAbove (h : d.Reaches above q) (habove : Path.IsAbove above path)
    (hne : above ≠ "") : d.Reaches path q := by
  obtain ⟨lead, hlead, rfl⟩ := h
  obtain ⟨rest, -, hrest⟩ := habove.components
  exact ⟨lead, hrest ▸ hlead.trans (List.prefix_append _ _), by rw [habove.origin hne]⟩

/-! ## Growth -/

theorem Grows.refl : d.Grows P d := ⟨rfl, fun _ => .inl rfl, id⟩

theorem Grows.trans (h : d.Grows P d') (h' : d'.Grows P d'') : d.Grows P d'' where
  workingDirectory := h'.workingDirectory.trans h.workingDirectory
  node? q := by
    rcases h.node? q with hq | ⟨hnone, hdir, hP⟩
    · rw [← hq]
      exact h'.node? q
    · -- What has been made is there the second time.
      rcases h'.node? q with hq | ⟨hnone', -, -⟩
      · exact .inr ⟨hnone, hq.trans hdir, hP⟩
      · exact absurd (hdir.symm.trans hnone') nofun
  ordered hd := h'.ordered (h.ordered hd)

theorem Grows.mono (h : d.Grows P d') (hPQ : ∀ q, d.root.node? q = none → P q → Q q) :
    d.Grows Q d' where
  workingDirectory := h.workingDirectory
  node? q := (h.node? q).imp_right fun ⟨hnone, hdir, hP⟩ => ⟨hnone, hdir, hPQ q hnone hP⟩
  ordered := h.ordered

theorem Grows.isDirectory (h : d.Grows P d') (hq : d.root.node? q = some .directory) :
    d'.root.node? q = some .directory := by
  rcases h.node? q with hsame | ⟨-, hdir, -⟩
  · rw [hsame, hq]
  · exact hdir

theorem Grows.file {content : ByteArray} (h : d.Grows P d')
    (hq : d.root.node? q = some (.file content)) : d'.root.node? q = some (.file content) := by
  rcases h.node? q with hsame | ⟨hnone, -, -⟩
  · rw [hsame, hq]
  · exact absurd (hq.symm.trans hnone) nofun

theorem exists_of_makeDirectory (h : d.makeDirectory path = .ok d') :
    ∃ p root, d.newPlace path = .ok p ∧ d.root.makeDirectory p = .ok root ∧
      d' = { d with root } := by
  obtain ⟨p, hp, hrest⟩ := bind_eq_ok_iff.1 h
  obtain ⟨root, hroot, hd⟩ := bind_eq_ok_iff.1 hrest
  cases hd
  exact ⟨p, root, hp, hroot, rfl⟩

theorem grows_of_makeDirectory (h : d.makeDirectory path = .ok d') :
    d.Grows (d.Reaches path) d' := by
  obtain ⟨p, root, hp, hroot, rfl⟩ := exists_of_makeDirectory h
  obtain ⟨hnone, hnodes⟩ := FileTree.node?_makeDirectory hroot
  refine ⟨rfl, fun q => ?_, fun hd => hd.makeDirectory hroot⟩
  by_cases hq : q = p
  · subst hq
    exact .inr ⟨hnone, by rw [hnodes, if_pos rfl], exists_of_newPlace hp⟩
  · exact .inl (by rw [hnodes, if_neg hq])

end Disk

namespace World

variable {w w' w'' : World} {path above : String} {paths others : List String} {place : List String}
  {root : FileTree}

/-- The disk has grown where path texts lead, and nothing else has happened. -/
def Spreads (paths : List String) (w w' : World) : Prop :=
  w.disk.Grows (fun q => ∃ path ∈ paths, w.disk.Reaches path q) w'.disk

theorem Spreads.refl : Spreads paths w w := Disk.Grows.refl

theorem Spreads.trans (h : Spreads paths w w') (h' : Spreads paths w' w'') :
    Spreads paths w w'' := by
  refine Disk.Grows.trans h (Disk.Grows.mono h' ?_)
  rintro q - ⟨path, hpath, hreaches⟩
  exact ⟨path, hpath, (Disk.reaches_congr h.workingDirectory).1 hreaches⟩

theorem Spreads.mono (h : Spreads paths w w') (hsubset : paths ⊆ others) : Spreads others w w' := by
  refine Disk.Grows.mono h ?_
  rintro q - ⟨path, hpath, hreaches⟩
  exact ⟨path, hsubset hpath, hreaches⟩

/-! ## Runs of the operations on directories -/

theorem run_change (change : Disk → Except FileFault Disk) : (World.change change).run w =
    match change w.disk with
    | .ok disk => (.ok (), { w with disk })
    | .error fault => (.error fault, w) := rfl

theorem run_ensureDirectory : (host.ensureDirectory path).run w =
    match w.disk.makeDirectory path with
    | .ok disk => (.ok (), { w with disk })
    | .error .alreadyExists =>
      (if w.disk.isDirectory path then .ok () else .error .alreadyExists, w)
    | .error fault => (.error fault, w) := by
  have hrun : (host.makeDirectory path).run w = (World.change (·.makeDirectory path)).run w := rfl
  unfold Host.ensureDirectory
  rw [StateT.run_bind, hrun, run_change]
  cases hmake : w.disk.makeDirectory path with
  | ok disk => rfl
  | error fault => cases fault <;> rfl

theorem run_ensureAll_cons : (host.ensureAll (path :: paths)).run w =
    match (host.ensureDirectory path).run w with
    | (.ok (), w') => (host.ensureAll paths).run w'
    | failed => failed := by
  rw [Host.ensureAll, StateT.run_bind]
  obtain ⟨r, w'⟩ := (host.ensureDirectory path).run w
  cases r <;> rfl

theorem run_ensureFirst_cons : (host.ensureFirst (path :: paths)).run w =
    match (host.ensureDirectory path).run w with
    | (.ok (), w') => (.ok [], w')
    | (.error .notFound, w') =>
      ((((host.ensureFirst paths).run w').1).map (path :: ·), ((host.ensureFirst paths).run w').2)
    | (.error fault, w') => (.error fault, w') := by
  rw [Host.ensureFirst, StateT.run_bind]
  obtain ⟨r, w'⟩ := (host.ensureDirectory path).run w
  cases r with
  | ok _ => rfl
  | error fault => cases fault <;> rfl

theorem spreads_ensureDirectory : Spreads [path] w ((host.ensureDirectory path).run w).2 := by
  rw [run_ensureDirectory]
  cases hmake : w.disk.makeDirectory path with
  | ok disk =>
    refine (Disk.grows_of_makeDirectory hmake).mono fun q _ hreaches => ?_
    exact ⟨path, List.mem_singleton_self path, hreaches⟩
  | error fault => cases fault <;> exact Spreads.refl

theorem spreads_ensureAll : Spreads paths w ((host.ensureAll paths).run w).2 := by
  induction paths generalizing w with
  | nil => exact Spreads.refl
  | cons path paths ih =>
    have hfirst : Spreads (path :: paths) w ((host.ensureDirectory path).run w).2 :=
      spreads_ensureDirectory.mono (by simp)
    rw [run_ensureAll_cons]
    revert hfirst
    obtain ⟨r, w'⟩ := (host.ensureDirectory path).run w
    intro hfirst
    cases r with
    | ok _ => exact hfirst.trans (ih.mono (List.subset_cons_self _ _))
    | error fault => exact hfirst

theorem spreads_ensureFirst (paths : List String) : Spreads paths w ((host.ensureFirst paths).run w).2 ∧
    ∀ left, ((host.ensureFirst paths).run w).1 = .ok left → left ⊆ paths := by
  induction paths generalizing w with
  | nil =>
    refine ⟨Spreads.refl, ?_⟩
    rintro _ ⟨⟩
    exact List.Subset.refl _
  | cons path paths ih =>
    have hfirst : Spreads (path :: paths) w ((host.ensureDirectory path).run w).2 :=
      spreads_ensureDirectory.mono (by simp)
    rw [run_ensureFirst_cons]
    revert hfirst
    obtain ⟨r, w'⟩ := (host.ensureDirectory path).run w
    intro hfirst
    cases r with
    | ok _ =>
      refine ⟨hfirst, ?_⟩
      rintro _ ⟨⟩
      exact List.nil_subset _
    | error fault =>
      cases fault with
      | notFound =>
        obtain ⟨hrest, hleft⟩ := ih (w := w')
        refine ⟨hfirst.trans (hrest.mono (List.subset_cons_self _ _)), fun left h => ?_⟩
        obtain ⟨others, hothers, rfl⟩ := map_eq_ok_iff.1 h
        exact List.cons_subset_cons path (hleft others hothers)
      | _ => exact ⟨hfirst, nofun⟩

theorem run_makeDirectories : (host.makeDirectories path).run w =
    match (host.ensureFirst (Path.leading path)).run w with
    | (.ok left, w') => (host.ensureAll left.reverse).run w'
    | (.error fault, w') => (.error fault, w') := by
  rw [Host.makeDirectories, StateT.run_bind]
  obtain ⟨r, w'⟩ := (host.ensureFirst (Path.leading path)).run w
  cases r <;> rfl

/-- Making the directories at a path adds directories where the texts lead that lead to it. -/
theorem spreads_makeDirectories (path : String) :
    Spreads (Path.leading path) w ((host.makeDirectories path).run w).2 := by
  obtain ⟨hfirst, hleft⟩ := spreads_ensureFirst (w := w) (Path.leading path)
  rw [run_makeDirectories]
  revert hfirst hleft
  obtain ⟨r, w'⟩ := (host.ensureFirst (Path.leading path)).run w
  intro hfirst hleft
  cases r with
  | ok left =>
    refine hfirst.trans (spreads_ensureAll.mono fun path hpath => ?_)
    exact hleft left rfl (List.mem_reverse.1 hpath)
  | error fault => exact hfirst

/-! ## When directories can be made -/

theorem run_makeDirectories_of_cons (h : (host.ensureDirectory path).run w = (.ok (), w'))
    (hleading : ∃ rest, Path.leading path = path :: rest) :
    (host.makeDirectories path).run w = (.ok (), w') := by
  obtain ⟨rest, hrest⟩ := hleading
  rw [run_makeDirectories, hrest, run_ensureFirst_cons, h]
  rfl

/-- Nothing is done for a directory that is there. -/
theorem run_makeDirectories_of_directory (hcheck : Disk.checkText path = .ok ())
    (hstops : ∀ stop ∈ w.disk.stops path, w.disk.root.node? stop = some .directory)
    (hplace : w.disk.root.node? (w.disk.place path) = some .directory) :
    (host.makeDirectories path).run w = (.ok (), w) := by
  have hmake : w.disk.makeDirectory path = .error .alreadyExists := by
    rw [Disk.makeDirectory]
    -- Making it fails because it is there, which is looked into and found to be all right.
    rcases Disk.newPlace_of_stops hcheck hstops with hnew | hnew
    · rw [hnew]
      exact bind_eq_error_iff.2 (.inr ⟨_, rfl, bind_eq_error_iff.2 (.inl
        (FileTree.makeDirectory_of_directory hplace))⟩)
    · rw [hnew]
      rfl
  have hisDirectory : w.disk.isDirectory path = true := by
    obtain ⟨entries, hentries⟩ := FileTree.node?_eq_directory_iff.1 hplace
    have hfind : w.disk.find path = .ok (.directory entries) := by
      rw [Disk.find, Disk.resolve_eq_ok_iff.2 ⟨hcheck, hstops, rfl⟩]
      exact hentries
    rw [Disk.isDirectory, hfind]
  rcases Path.leading_eq_nil_or_cons path with hleading | hleading
  · rw [run_makeDirectories, hleading]
    rfl
  · refine run_makeDirectories_of_cons ?_ hleading
    rw [run_ensureDirectory, hmake, hisDirectory]
    rfl

/-- A directory is made where only it is missing. -/
theorem run_makeDirectories_of_missing (hcheck : Disk.checkText path = .ok ())
    (hstops : ∀ stop ∈ w.disk.stops path, w.disk.root.node? stop = some .directory)
    (hleading : ∃ rest, Path.leading path = path :: rest) {lead : List String} {name : String}
    (hcomponents : Disk.components path = lead ++ [name]) (hname : ¬ Disk.IsDots name)
    (hmake : w.disk.root.makeDirectory (w.disk.place path) = .ok root) :
    (host.makeDirectories path).run w = (.ok (), { w with disk := { w.disk with root } }) := by
  refine run_makeDirectories_of_cons ?_ hleading
  have hdisk : w.disk.makeDirectory path = .ok { w.disk with root } := by
    rw [Disk.makeDirectory, Disk.newPlace_of_name hcomponents hname hcheck hstops]
    exact bind_eq_ok_iff.2 ⟨_, rfl, bind_eq_ok_iff.2 ⟨_, hmake, rfl⟩⟩
  rw [run_ensureDirectory, hdisk]

end World

end TypedQuery
