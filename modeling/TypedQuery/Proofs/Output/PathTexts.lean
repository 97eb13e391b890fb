-- SUMMARY: The components of path texts that are put together or taken apart.
import TypedQuery.Output.FileTree
import TypedQuery.Proofs.Emit.Modules

/-!
# Path texts

A path text stands above another one if that goes on with a slash; its components then come first among
those of the other. `mem_leading` says that the texts that lead to a path stand above it. The components
of a joined path are those of its parts.
-/
namespace TypedQuery

namespace Disk

variable {cs ds : List Char} {path : String}

theorem stretches_ne_nil : stretches cs ≠ [] := by
  induction cs with
  | nil => simp [stretches]
  | cons c rest ih =>
    rw [stretches]
    split
    · simp
    · cases hrest : stretches rest with
      | nil => exact absurd hrest ih
      | cons first others => simp

theorem stretches_append_slash : stretches (cs ++ '/' :: ds) = stretches cs ++ stretches ds := by
  induction cs with
  | nil => simp [stretches]
  | cons c rest ih =>
    rw [List.cons_append, stretches, stretches, ih]
    split
    · simp
    · cases hrest : stretches rest with
      | nil => exact absurd hrest stretches_ne_nil
      | cons first others => simp

theorem stretches_of_not_mem (h : '/' ∉ cs) : stretches cs = [cs] := by
  induction cs with
  | nil => rfl
  | cons c rest ih =>
    have hc : c ≠ '/' := fun hc => h (hc ▸ List.mem_cons_self)
    have hrest : '/' ∉ rest := fun hrest => h (List.mem_cons_of_mem _ hrest)
    rw [stretches, if_neg hc, ih hrest, List.modifyHead_cons]

theorem components_of_isComponent (h : Path.IsComponent path) : components path = [path] := by
  rw [components, stretches_of_not_mem h, List.map_singleton, String.ofList_toList]

end Disk

namespace Path

open Disk (components stretches)

variable {path above lower rel out a b : String} {cs : List Char}

theorem components_append_slash : components (a ++ "/" ++ b) = components a ++ components b := by
  rw [components, String.toList_append, String.toList_append, List.append_assoc]
  change (stretches (a.toList ++ '/' :: b.toList)).map String.ofList = _
  rw [Disk.stretches_append_slash, List.map_append]
  rfl

theorem components_ne_nil : components path ≠ [] := by
  simpa [components] using Disk.stretches_ne_nil

theorem startsWith_slash_append (h : a ≠ "") : (a ++ b).startsWith "/" = a.startsWith "/" := by
  rw [Bool.eq_iff_iff, String.startsWith_string_iff, String.startsWith_string_iff]
  cases hchars : a.toList with
  | nil => exact absurd (String.toList_eq_nil_iff.1 hchars) h
  | cons c rest => simp [hchars, List.cons_prefix_cons]

/-! ## Texts above each other -/

/-- The second text goes on with a slash where the first one ends. -/
def IsAbove (above path : String) : Prop := ∃ rest, path = above ++ "/" ++ rest

theorem IsAbove.trans (h : IsAbove lower above) (h' : IsAbove above path) : IsAbove lower path := by
  obtain ⟨rest, rfl⟩ := h
  obtain ⟨more, rfl⟩ := h'
  exact ⟨rest ++ "/" ++ more, by simp only [String.append_assoc]⟩

theorem IsAbove.components (h : IsAbove above path) :
    ∃ rest, rest ≠ [] ∧ components path = components above ++ rest := by
  obtain ⟨rest, rfl⟩ := h
  exact ⟨Disk.components rest, components_ne_nil, components_append_slash⟩

/-- A path text above another one has none of its last component. -/
theorem IsAbove.components_above {lead : List String} {name : String} (h : IsAbove above path)
    (hcomponents : Disk.components path = lead ++ [name]) : Disk.components above <+: lead := by
  obtain ⟨rest, hne, hrest⟩ := h.components
  have hall : Disk.components above <+: lead ++ [name] := ⟨rest, hrest.symm.trans hcomponents⟩
  refine (List.prefix_concat_iff.1 hall).resolve_left fun hsame => hne ?_
  rw [hcomponents, hsame] at hrest
  exact List.self_eq_append_right.1 hrest

theorem IsAbove.origin {d : Disk} (h : IsAbove above path) (hne : above ≠ "") :
    d.origin above = d.origin path := by
  obtain ⟨rest, rfl⟩ := h
  rw [Disk.origin, Disk.origin, String.append_assoc, startsWith_slash_append hne]

/-! ## The path without its last component -/

theorem suffix_trimReversed (cs : List Char) : trimReversed cs <:+ cs := by
  fun_induction trimReversed cs with
  | case1 rest h =>
    cases List.isEmpty_iff.1 h
    exact List.suffix_refl _
  | case2 rest h ih => exact ih.trans (List.suffix_cons _ _)
  | case3 rest ih => exact ih.trans (List.suffix_cons _ _)
  | case4 cs h1 h2 => exact List.suffix_refl _

/-- Where something is dropped, a slash is the last thing that is dropped, unless only the root is
left. -/
theorem trimReversed_cases (cs : List Char) : trimReversed cs = ['/'] ∨ trimReversed cs = cs ∨
    ∃ dropped, cs = dropped ++ '/' :: trimReversed cs := by
  fun_induction trimReversed cs with
  | case1 rest h => exact .inl rfl
  | case2 rest h ih =>
    rcases ih with hroot | hsame | ⟨dropped, hdropped⟩
    · exact .inl hroot
    · exact .inr (.inr ⟨[], by rw [hsame, List.nil_append]⟩)
    · exact .inr (.inr ⟨'/' :: dropped, by rw [List.cons_append, ← hdropped]⟩)
  | case3 rest ih =>
    rcases ih with hroot | hsame | ⟨dropped, hdropped⟩
    · exact .inl hroot
    · rw [trimReversed] at hsame ⊢
      split at hsame
      · next h => exact .inl (by rw [if_pos h])
      · have hlength := congrArg List.length hsame
        have hle := (suffix_trimReversed rest).length_le
        rw [List.length_cons] at hlength
        omega
    · exact .inr (.inr ⟨'.' :: dropped, by rw [List.cons_append, ← hdropped]⟩)
  | case4 cs h1 h2 => exact .inr (.inl rfl)

theorem isAbove_of_reverse (dropped : List Char) (h : path.toList.reverse = dropped ++ '/' :: cs) :
    IsAbove (String.ofList cs.reverse) path := by
  refine ⟨String.ofList dropped.reverse, String.toList_inj.1 ?_⟩
  simpa using congrArg List.reverse h

theorem isAbove_of_parent? (h : parent? path = some above) :
    above = "" ∨ above = "/" ∨ IsAbove above path := by
  unfold parent? at h
  split at h
  · cases h
  · cases h
  · cases h
    -- Backwards, the text is what is trimmed, then the last component, a slash, and what is
    -- trimmed of the rest.
    obtain ⟨start, hstart⟩ := suffix_trimReversed path.toList.reverse
    have hpath := List.takeWhile_append_dropWhile
      (p := (· ≠ '/')) (l := trimReversed path.toList.reverse)
    have hhead := List.head?_dropWhile_not (· ≠ '/') (trimReversed path.toList.reverse)
    revert hpath hhead
    generalize (trimReversed path.toList.reverse).takeWhile (· ≠ '/') = last
    cases (trimReversed path.toList.reverse).dropWhile (· ≠ '/') with
    | nil => exact fun _ _ => .inl rfl
    | cons c rest =>
      intro hpath hhead
      obtain rfl : c = '/' := by simpa using hhead
      rw [← hpath] at hstart
      rw [trimReversed]
      split
      · exact .inr (.inl rfl)
      · rcases trimReversed_cases rest with hroot | hsame | ⟨dropped, hdropped⟩
        · exact .inr (.inl (by rw [hroot]; rfl))
        · refine .inr (.inr (isAbove_of_reverse (start ++ last) ?_))
          rw [hsame, ← hstart, List.append_assoc]
        · refine .inr (.inr (isAbove_of_reverse (start ++ last ++ '/' :: dropped) ?_))
          rw [← hstart, List.append_assoc, List.append_assoc, List.cons_append, ← hdropped]

theorem leading_of_parent?_none (h : parent? path = none) : leading path = [] := by
  rw [leading, h]

@[simp] theorem leading_empty : leading "" = [] := leading_of_parent?_none rfl

@[simp] theorem leading_slash : leading "/" = [] := leading_of_parent?_none rfl

theorem leading_eq_nil_or_cons (path : String) :
    leading path = [] ∨ ∃ rest, leading path = path :: rest := by
  rw [leading]
  split
  · exact .inl rfl
  · split
    · exact .inr ⟨_, rfl⟩
    · exact .inr ⟨_, rfl⟩

theorem mem_leading (h : above ∈ leading path) :
    above ≠ "" ∧ (above = path ∨ IsAbove above path) := by
  fun_induction leading path with
  | case1 path hnone => cases h
  | case2 path next hnext hlength ih =>
    rcases List.mem_cons.1 h with rfl | h
    · refine ⟨?_, .inl rfl⟩
      rintro rfl
      cases hnext
    · rcases isAbove_of_parent? hnext with rfl | rfl | hnext
      · simp at h
      · simp at h
      · obtain ⟨hne, rfl | habove⟩ := ih h
        · exact ⟨hne, .inr hnext⟩
        · exact ⟨hne, .inr (habove.trans hnext)⟩
  | case3 path next hnext hlength =>
    rw [List.mem_singleton.1 h]
    refine ⟨?_, .inl rfl⟩
    rintro rfl
    cases hnext

/-- The texts that lead to the directory of a path stand above the path. -/
theorem mem_leading_parent (h : above ∈ leading (parent path)) :
    above ≠ "" ∧ IsAbove above path := by
  rw [parent] at h
  cases hparent : parent? path with
  | none => simp [hparent] at h
  | some next =>
    rw [hparent, Option.getD_some] at h
    rcases isAbove_of_parent? hparent with rfl | rfl | hnext
    · simp at h
    · simp at h
    · obtain ⟨hne, rfl | habove⟩ := mem_leading h
      · exact ⟨hne, hnext⟩
      · exact ⟨hne, habove.trans hnext⟩

/-- The directory of a path stands above it, if it has a name. -/
theorem isAbove_parent : parent path = "" ∨ parent path = "/" ∨ IsAbove (parent path) path := by
  rw [parent]
  cases hparent : parent? path with
  | none => exact .inl rfl
  | some above => exact isAbove_of_parent? hparent

/-- Nothing is dropped from a text that does not end in a slash or a dot. -/
theorem trimReversed_of_head {c : Char} (hslash : c ≠ '/') (hdot : c ≠ '.') :
    trimReversed (c :: cs) = c :: cs := by
  rw [trimReversed]
  · rintro _ ⟨⟩
    exact hslash rfl
  · rintro _ ⟨⟩
    exact hdot rfl

/-- The last character is neither a slash nor a dot. -/
def EndsPlain (path : String) : Prop := ∃ cs c, path.toList = cs ++ [c] ∧ c ≠ '/' ∧ c ≠ '.'

theorem EndsPlain.append (h : EndsPlain b) : EndsPlain (a ++ b) := by
  obtain ⟨cs, c, hb, hslash, hdot⟩ := h
  exact ⟨a.toList ++ cs, c, by simp [hb], hslash, hdot⟩

theorem EndsPlain.trimReversed (h : EndsPlain path) :
    Path.trimReversed path.toList.reverse = path.toList.reverse := by
  obtain ⟨cs, c, hpath, hslash, hdot⟩ := h
  rw [hpath, List.reverse_concat, trimReversed_of_head hslash hdot]

theorem EndsPlain.parent? (h : EndsPlain path) : Path.parent? path =
    some (String.ofList (Path.trimReversed (path.toList.reverse.dropWhile (· ≠ '/'))).reverse) := by
  rw [Path.parent?, h.trimReversed]
  obtain ⟨cs, c, hpath, hslash, -⟩ := h
  rw [hpath, List.reverse_concat]
  split
  · next hnil => cases hnil
  · next hroot => exact absurd (List.cons.inj hroot).1 hslash
  · rfl

theorem EndsPlain.exists_leading (h : EndsPlain path) : ∃ rest, leading path = path :: rest := by
  rw [leading, h.parent?]
  dsimp only
  split
  · exact ⟨_, rfl⟩
  · exact ⟨[], rfl⟩

/-- The directory of a file in a directory. -/
theorem parent_append_slash (ha : EndsPlain a) (hb : EndsPlain b) (hcomponent : IsComponent b) :
    parent (a ++ "/" ++ b) = a := by
  have hreverse : (a ++ "/" ++ b).toList.reverse = b.toList.reverse ++ '/' :: a.toList.reverse := by
    simp
  have hname : ∀ c ∈ b.toList.reverse, decide (c ≠ '/') = true := by
    intro c hc
    rw [decide_eq_true_eq]
    rintro rfl
    exact hcomponent (by simpa using hc)
  have hne : ¬ a.toList.reverse.isEmpty = true := by
    obtain ⟨cs, c, hpath, -⟩ := ha
    simp [hpath]
  rw [parent, hb.append.parent?, Option.getD_some, hreverse, List.dropWhile_append_of_pos hname,
    List.dropWhile_cons_of_neg (by simp), trimReversed, if_neg hne, ha.trimReversed,
    List.reverse_reverse, String.ofList_toList]

/-! ## Joined paths -/

theorem endsWith_slash_iff : path.endsWith "/" = true ↔ ∃ lead, path = lead ++ "/" := by
  rw [← String.endsWith_toSlice, String.Slice.endsWith_string_iff, String.copy_toSlice]
  constructor
  · rintro ⟨lead, hlead⟩
    exact ⟨String.ofList lead, by rw [← String.toList_inj, ← hlead]; simp⟩
  · rintro ⟨lead, rfl⟩
    exact ⟨lead.toList, by simp⟩

/-- Relative paths are put behind one and the same text, which begins with the first path. -/
theorem exists_join_eq_append (out : String) : ∃ lead slash, lead = out ++ slash ∧
    ∀ rel, rel.startsWith "/" = false → join out rel = lead ++ rel := by
  by_cases hempty : out.isEmpty = true
  · refine ⟨out, "", String.append_empty.symm, fun rel hrel => ?_⟩
    rw [join, hrel, Bool.false_or, if_pos hempty, String.isEmpty_iff.1 hempty, String.empty_append]
  · by_cases hends : out.endsWith "/" = true
    · refine ⟨out, "", String.append_empty.symm, fun rel hrel => ?_⟩
      rw [join, hrel, Bool.false_or, if_neg hempty, if_pos hends]
    · refine ⟨out ++ "/", "/", rfl, fun rel hrel => ?_⟩
      rw [join, hrel, Bool.false_or, if_neg hempty, if_neg hends]

/-- The components of a joined path. A slash at the end of the first path adds none. -/
theorem components_join (out : String) (hrel : rel.startsWith "/" = false) :
    ∃ lead, components (join out rel) = lead ++ components rel ∧
      (components out = lead ∨ components out = lead ++ [""]) := by
  rw [join, hrel, Bool.false_or]
  split
  · next hempty =>
    rw [String.isEmpty_iff] at hempty
    subst hempty
    exact ⟨[], rfl, .inr rfl⟩
  · split
    · next hends =>
      obtain ⟨lead, rfl⟩ := endsWith_slash_iff.1 hends
      refine ⟨components lead, components_append_slash, .inr ?_⟩
      rw [← String.append_empty (s := lead ++ "/"), components_append_slash]
      rfl
    · exact ⟨components out, components_append_slash, .inl rfl⟩

theorem origin_join {d : Disk} (hrel : rel.startsWith "/" = false) :
    d.origin (join out rel) = d.origin out := by
  have hstart : (join out rel).startsWith "/" = out.startsWith "/" := by
    rw [join, hrel, Bool.false_or]
    split
    · next hempty =>
      rw [String.isEmpty_iff] at hempty
      subst hempty
      exact hrel
    · next hempty =>
      have hne : out ≠ "" := fun hout => hempty (String.isEmpty_iff.2 hout)
      split
      · exact startsWith_slash_append hne
      · rw [String.append_assoc, startsWith_slash_append hne]
  rw [Disk.origin, Disk.origin, hstart]

theorem not_mem_join {c : Char} (ha : c ∉ a.toList) (hb : c ∉ b.toList) (hc : c ≠ '/') :
    c ∉ (join a b).toList := by
  unfold join
  split
  · exact hb
  · split
    · simp [ha, hb]
    · simp [ha, hb, hc]

theorem join_ne_empty (hb : b ≠ "") : join a b ≠ "" := by
  unfold join
  split
  · exact hb
  · split <;> simp [hb]

theorem utf8ByteSize_join : (join a b).utf8ByteSize ≤ a.utf8ByteSize + 1 + b.utf8ByteSize := by
  unfold join
  split
  · omega
  · split
    · rw [String.utf8ByteSize_append]
      omega
    · rw [String.utf8ByteSize_append, String.utf8ByteSize_append]
      exact Nat.le_refl _

end Path

end TypedQuery
