-- SUMMARY: Which place in a file tree a path text stands for, and which directories it needs on the way.
import Mathlib.Data.List.TakeWhile
import TypedQuery.Proofs.Output.Nodes
import TypedQuery.Proofs.Output.PathTexts

/-!
# Places of path texts

Names among the components of a path text lead down. Dots, and nothing between two slashes, are stops: they
need a directory at the place that was reached. So a path text resolves to `Disk.place` if and only if all
its `Disk.stops` are directories. Whatever a part of the text leads to lies on the way to the place or is
a stop.
-/
namespace TypedQuery.Disk

/-- The component is no name. -/
abbrev IsDots (c : String) : Prop := c = "" ∨ c = "." ∨ c = ".."

/-- Go on from a place by one component. -/
def step (place : List String) (c : String) : List String :=
  if IsDots c then if c = ".." then place.dropLast else place else place ++ [c]

/-- Go on from a place by components. -/
def walk (place : List String) (cs : List String) : List String := cs.foldl step place

/-- The places where a walk comes to dots. -/
def halts (place : List String) : List String → List (List String)
  | [] => []
  | c :: rest =>
    if IsDots c then place :: halts (step place c) rest else halts (step place c) rest

/-- The place of a path text. -/
def place (d : Disk) (path : String) : List String := walk (d.origin path) (components path)

/-- The places that have to be directories so that a path text leads somewhere. -/
def stops (d : Disk) (path : String) : List (List String) := halts (d.origin path) (components path)

variable {d : Disk} {t : FileTree} {p q start : List String} {cs ds lead : List String}
  {path above out rel c name : String}

/-! ## Walks -/

theorem walk_append : walk p (cs ++ ds) = walk (walk p cs) ds := List.foldl_append

theorem halts_append : halts p (cs ++ ds) = halts p cs ++ halts (walk p cs) ds := by
  induction cs generalizing p with
  | nil => rfl
  | cons c rest ih =>
    rw [List.cons_append, halts, halts, ih]
    split <;> rfl

theorem step_of_name (h : ¬ IsDots c) : step p c = p ++ [c] := by
  rw [step, if_neg h]

theorem walk_name (h : ¬ IsDots c) : walk p [c] = p ++ [c] := step_of_name h

theorem walk_append_empty : walk p (cs ++ [""]) = walk p cs := walk_append

theorem walk_of_names (h : ∀ c ∈ cs, ¬ IsDots c) : walk p cs = p ++ cs := by
  induction cs generalizing p with
  | nil => exact (List.append_nil p).symm
  | cons c rest ih =>
    obtain ⟨hc, hrest⟩ := List.forall_mem_cons.1 h
    rw [walk, List.foldl_cons, step_of_name hc]
    exact (ih hrest).trans (by simp)

theorem halts_of_names (h : ∀ c ∈ cs, ¬ IsDots c) : halts p cs = [] := by
  induction cs generalizing p with
  | nil => rfl
  | cons c rest ih =>
    obtain ⟨hc, hrest⟩ := List.forall_mem_cons.1 h
    rw [halts, if_neg hc, ih hrest]

theorem prefix_dropLast (h : q <+: p) (hne : q ≠ p) : q <+: p.dropLast := by
  rcases List.eq_nil_or_concat p with rfl | ⟨base, last, rfl⟩
  · exact h
  · rw [List.concat_eq_append] at h hne ⊢
    rw [List.dropLast_concat]
    exact (List.prefix_concat_iff.1 h).resolve_left hne

/-- A walk goes back up from a place only if it halts there. -/
theorem prefix_walk_or_mem_halts (h : q <+: p) : q <+: walk p cs ∨ q ∈ halts p cs := by
  induction cs generalizing p with
  | nil => exact .inl h
  | cons c rest ih =>
    by_cases hc : IsDots c
    · rw [halts, if_pos hc]
      by_cases hq : q = p
      · exact .inr (hq ▸ List.mem_cons_self)
      · -- Going up from below the place does not lead past it.
        have hstep : q <+: step p c := by
          rw [step, if_pos hc]
          split
          · exact prefix_dropLast h hq
          · exact h
        exact (ih hstep).imp_right (List.mem_cons_of_mem _)
    · rw [halts, if_neg hc]
      refine ih ?_
      rw [step_of_name hc]
      exact h.trans (List.prefix_append _ _)

/-- Whatever the beginning of a walk leads to lies on the way of the walk, or the walk halts there. -/
theorem walk_prefix_or_mem_halts (h : lead <+: cs) :
    walk p lead <+: walk p cs ∨ walk p lead ∈ halts p cs := by
  obtain ⟨rest, rfl⟩ := h
  rw [walk_append, halts_append]
  exact (prefix_walk_or_mem_halts (List.prefix_refl _)).imp_right (List.mem_append_right _)

/-- A walk that never goes back up halts on its way only. -/
theorem prefix_of_mem_halts (h : ".." ∉ cs) (hq : q ∈ halts p cs) : q <+: walk p cs := by
  induction cs generalizing p with
  | nil => cases hq
  | cons c rest ih =>
    obtain ⟨hc, hrest⟩ := not_or.1 (mt List.mem_cons.2 h)
    have hwalk : walk p (c :: rest) = walk (step p c) rest := rfl
    rw [hwalk]
    rw [halts] at hq
    split at hq
    · next hdots =>
      rcases List.mem_cons.1 hq with rfl | hq
      · have hstay : step q c = q := by rw [step, if_pos hdots, if_neg (Ne.symm hc)]
        rw [hstay]
        exact (prefix_walk_or_mem_halts (List.prefix_refl q)).elim id (ih hrest)
      · exact ih hrest hq
    · exact ih hrest hq

/-- Components can be followed if the walk halts at directories only. -/
theorem follow_eq_ok_iff : follow t p cs = .ok q ↔
    (∀ stop ∈ halts p cs, t.node? stop = some .directory) ∧ walk p cs = q := by
  induction cs generalizing p with
  | nil => simp [follow, halts, walk]
  | cons c rest ih =>
    rw [follow, halts]
    have hwalk : walk p (c :: rest) = walk (step p c) rest := rfl
    rw [hwalk]
    by_cases hc : IsDots c
    · have hstep : (if c = ".." then p.dropLast else p) = step p c := (if_pos hc).symm
      rw [if_pos hc, if_pos hc, hstep, List.forall_mem_cons, and_assoc, ← ih,
        FileTree.node?_eq_directory_iff]
      cases t.find p with
      | error fault => simp
      | ok found => cases found <;> simp
    · rw [if_neg hc, if_neg hc, ih, step_of_name hc]

/-! ## Path texts -/

theorem checkText_eq_ok_iff : checkText path = .ok () ↔
    '\x00' ∉ path.toList ∧ path ≠ "" ∧ path.utf8ByteSize < 4096 := by
  unfold checkText
  split
  · next h => simp_all
  · next h =>
    split
    · next h => simp_all
    · split <;> simp_all

theorem checkText_of_append {ending : String} (h : checkText (path ++ ending) = .ok ())
    (hne : path ≠ "") : checkText path = .ok () := by
  obtain ⟨hnul, -, hsize⟩ := checkText_eq_ok_iff.1 h
  refine checkText_eq_ok_iff.2 ⟨fun hmem => hnul (by simp [hmem]), hne, ?_⟩
  rw [String.utf8ByteSize_append] at hsize
  omega

theorem resolve_eq_ok_iff : d.resolve path = .ok p ↔ checkText path = .ok () ∧
    (∀ stop ∈ d.stops path, d.root.node? stop = some .directory) ∧ d.place path = p := by
  unfold resolve
  cases hcheck : checkText path with
  | error fault => simp
  | ok _ =>
    rw [eq_self, true_and]
    exact follow_eq_ok_iff

/-! ## New directories -/

/-- Before the slashes at its end, a path text has a last component. -/
theorem components_of_dropWhile {last : String} {before : List String}
    (h : (components path).reverse.dropWhile (·.isEmpty) = last :: before) :
    last ≠ "" ∧ ∃ ending, (∀ c ∈ ending, c = "") ∧
      components path = before.reverse ++ last :: ending := by
  have hhead := List.head?_dropWhile_not (·.isEmpty) (components path).reverse
  have hall := List.takeWhile_append_dropWhile (p := (·.isEmpty)) (l := (components path).reverse)
  rw [h] at hhead hall
  refine ⟨by simpa using hhead, ((components path).reverse.takeWhile (·.isEmpty)).reverse, ?_, ?_⟩
  · intro c hc
    exact String.isEmpty_iff.1 (List.mem_takeWhile_imp (List.mem_reverse.1 hc))
  · simpa using (congrArg List.reverse hall).symm

/-- A new directory is made at a place that a part of the text leads to. -/
theorem exists_of_newPlace (h : d.newPlace path = .ok p) :
    ∃ lead, lead <+: components path ∧ p = walk (d.origin path) lead := by
  unfold newPlace at h
  split at h
  · cases h
  · split at h
    · cases h
    · next last before hlast =>
      split at h
      · obtain ⟨_, _, hexists⟩ := bind_eq_ok_iff.1 h
        cases hexists
      · next hdots =>
        obtain ⟨hne, ending, -, hcomponents⟩ := components_of_dropWhile hlast
        obtain ⟨base, hbase, rfl⟩ := map_eq_ok_iff.1 h
        obtain ⟨-, rfl⟩ := follow_eq_ok_iff.1 hbase
        have hname : ¬ IsDots last := not_or.2 ⟨hne, hdots⟩
        refine ⟨before.reverse ++ [last], ⟨ending, by simp [hcomponents]⟩, ?_⟩
        rw [walk_append, walk_name hname]

theorem walk_of_empty (h : ∀ c ∈ cs, c = "") : walk p cs = p := by
  induction cs with
  | nil => rfl
  | cons c rest ih =>
    obtain ⟨rfl, hrest⟩ := List.forall_mem_cons.1 h
    exact ih hrest

/-- Where a path text leads somewhere, a new directory has its place there, unless the text ends in
dots. -/
theorem newPlace_of_stops (hcheck : checkText path = .ok ())
    (hstops : ∀ stop ∈ d.stops path, d.root.node? stop = some .directory) :
    d.newPlace path = .ok (d.place path) ∨ d.newPlace path = .error .alreadyExists := by
  unfold newPlace
  rw [hcheck]
  dsimp only
  split
  · exact .inr rfl
  · next last before hlast =>
    obtain ⟨hne, ending, hending, hcomponents⟩ := components_of_dropWhile hlast
    rw [stops, hcomponents, halts_append, List.forall_mem_append] at hstops
    obtain ⟨hbefore, hafter⟩ := hstops
    split
    · next hdots =>
      have hfollow : follow d.root (d.origin path) (before.reverse ++ ["."]) =
          .ok (walk (d.origin path) (before.reverse ++ ["."])) := by
        refine follow_eq_ok_iff.2 ⟨?_, rfl⟩
        rw [halts_append, List.forall_mem_append]
        rw [halts, if_pos (.inr hdots), List.forall_mem_cons] at hafter
        exact ⟨hbefore, List.forall_mem_singleton.2 hafter.1⟩
      rw [hfollow]
      exact .inr rfl
    · next hdots =>
      have hname : ¬ IsDots last := not_or.2 ⟨hne, hdots⟩
      have hplace : d.place path = walk (d.origin path) before.reverse ++ [last] := by
        rw [place, hcomponents, walk_append, ← List.singleton_append, walk_append, walk_of_empty hending,
          walk_name hname]
      -- Slashes at the end do not move the place on.
      rw [hplace, follow_eq_ok_iff.2 ⟨hbefore, rfl⟩]
      exact .inl rfl

theorem newPlace_of_name (hcomponents : components path = lead ++ [name]) (hname : ¬ IsDots name)
    (hcheck : checkText path = .ok ())
    (hstops : ∀ stop ∈ d.stops path, d.root.node? stop = some .directory) :
    d.newPlace path = .ok (d.place path) := by
  have hlast : (components path).reverse.dropWhile (·.isEmpty) = name :: lead.reverse := by
    have hempty : ¬ name.isEmpty = true := fun hempty => hname (.inl (String.isEmpty_iff.1 hempty))
    rw [hcomponents, List.reverse_concat, List.dropWhile_cons_of_neg hempty]
  have hfollow : follow d.root (d.origin path) lead = .ok (walk (d.origin path) lead) := by
    refine follow_eq_ok_iff.2 ⟨fun stop hstop => hstops stop ?_, rfl⟩
    rw [stops, hcomponents, halts_append]
    exact List.mem_append_left _ hstop
  rw [newPlace, hcheck, hlast]
  dsimp only
  rw [if_neg fun hdots => hname (.inr hdots), List.reverse_reverse, hfollow, place, hcomponents,
    walk_append, walk_name hname]
  rfl

/-! ## Joined paths -/

/-- The path text leads down only. -/
def Descends (rel : String) : Prop := ∀ c ∈ components rel, ¬ IsDots c

theorem descends_of_name (hcomponents : components name = [name]) (hname : ¬ IsDots name) :
    Descends name := by
  simpa [Descends, hcomponents] using hname

theorem not_startsWith_of_descends (h : Descends rel) : rel.startsWith "/" = false := by
  rw [Bool.eq_false_iff, ne_eq, String.startsWith_string_iff]
  rintro ⟨rest, hrest⟩
  refine h "" ?_ (.inl rfl)
  have hcomponents : components rel = "" :: (stretches rest).map String.ofList := by
    rw [components, ← hrest]
    rfl
  rw [hcomponents]
  exact List.mem_cons_self

/-- A relative path is followed from the place of the one that it is joined to. -/
theorem place_join_eq_walk (h : rel.startsWith "/" = false) :
    d.place (Path.join out rel) = walk (d.place out) (components rel) := by
  obtain ⟨lead, hjoin, hout⟩ := Path.components_join out h
  have hlead : walk (d.origin out) (components out) = walk (d.origin out) lead := by
    rcases hout with hout | hout
    · rw [hout]
    · rw [hout, walk_append_empty]
  rw [place, place, Path.origin_join h, hjoin, walk_append, hlead]

theorem place_join (h : Descends rel) :
    d.place (Path.join out rel) = d.place out ++ components rel := by
  rw [place_join_eq_walk (not_startsWith_of_descends h), walk_of_names h]

theorem place_join_of_name (hcomponents : components name = [name]) (hname : ¬ IsDots name) :
    d.place (Path.join out name) = d.place out ++ [name] := by
  rw [place_join (descends_of_name hcomponents hname), hcomponents]

/-- A path text joined with one that leads down has the same stops, but for its own place. -/
theorem mem_stops_of_join (h : Descends rel) (hq : q ∈ d.stops out) :
    q ∈ d.stops (Path.join out rel) ∨ q = d.place out := by
  have hstart := not_startsWith_of_descends h
  obtain ⟨lead, hjoin, hout⟩ := Path.components_join out hstart
  rw [stops, Path.origin_join hstart, hjoin, halts_append, halts_of_names h, List.append_nil]
  rcases hout with hout | hout
  · rw [stops, hout] at hq
    exact .inl hq
  · rw [stops, hout, halts_append] at hq
    rw [place, hout, walk_append_empty]
    exact (List.mem_append.1 hq).imp_right fun hq => by simpa [halts, IsDots] using hq

theorem stops_join_subset (h : Descends rel) : d.stops (Path.join out rel) ⊆ d.stops out := by
  have hstart := not_startsWith_of_descends h
  obtain ⟨lead, hjoin, hout⟩ := Path.components_join out hstart
  rw [stops, stops, Path.origin_join hstart, hjoin, halts_append, halts_of_names h, List.append_nil]
  rcases hout with hout | hout
  · rw [hout]
    exact List.Subset.refl _
  · rw [hout, halts_append]
    exact List.subset_append_left _ _

theorem checkText_join {shorter : String} (h : checkText (Path.join out rel) = .ok ())
    (hrel : rel.startsWith "/" = false) (hshorter : shorter.startsWith "/" = false)
    (hsize : shorter.utf8ByteSize ≤ rel.utf8ByteSize) (hnul : '\x00' ∉ shorter.toList)
    (hne : shorter ≠ "") : checkText (Path.join out shorter) = .ok () := by
  obtain ⟨lead, -, -, hlead⟩ := Path.exists_join_eq_append out
  rw [hlead rel hrel, checkText_eq_ok_iff] at h
  rw [hlead shorter hshorter, checkText_eq_ok_iff]
  simp only [String.toList_append, List.mem_append, String.utf8ByteSize_append] at h ⊢
  exact ⟨not_or.2 ⟨fun hmem => h.1 (.inl hmem), hnul⟩, by simp [hne], by omega⟩

end TypedQuery.Disk
