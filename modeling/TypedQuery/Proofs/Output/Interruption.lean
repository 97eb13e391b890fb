-- SUMMARY: What a run of the generator leaves behind that ends at an artifact that cannot be rendered.
import TypedQuery.Proofs.Output.Regeneration

/-!
# Interruption

A run does nothing if there are no artifacts. If one of them cannot be rendered, the run ends there: the
folders of the generator have been removed, the files before that one are complete, its own file is empty,
and nothing is written for those behind it.
-/
namespace TypedQuery.Catalog

open World

variable {c : Catalog} {s : Schema} {settings : Settings} {out : String} {a b last : Artifact}
  {before after artifacts : List Artifact} {d d' : Disk} {failure : Error} {content : ByteArray}
  {q : List String}

namespace Generated

/-- A file that is there after a run was written, or it lay there before. -/
theorem file_cases (h : c.Generated artifacts out d d')
    (hnode : d'.root.node? q = some (.file content)) : d.root.node? q = some (.file content) ∨
      ∃ a ∈ artifacts, q = d.place out ++ a.location.names ∧ content = contentOf (c.render a) := by
  rw [h.node?, Option.or_eq_some_iff] at hnode
  rcases hnode with hwritten | ⟨-, hbefore⟩
  · obtain ⟨a, ha, hfile⟩ := List.mem_map.1 (Node.mem_of_ofFiles hwritten)
    cases hfile
    exact .inr ⟨a, ha, rfl, rfl⟩
  · rw [FileTree.outside] at hbefore
    split at hbefore
    · cases hbefore
    · exact .inl hbefore

/-- Where a file could lie whose path no artifact has, there is what lay there outside the folders. -/
theorem node?_of_path_ne (h : c.Generated artifacts out d d')
    (hstems : ∀ a ∈ artifacts, Path.IsComponent a.location.stem) (hb : Path.IsComponent b.location.stem)
    (hne : ∀ a ∈ artifacts, a.path ≠ b.path) : d'.root.node? (d.place out ++ b.location.names) =
      d.root.outside (d.place out) Folder.owned (d.place out ++ b.location.names) := by
  have hnone : artifacts.reverse.find? (·.path = b.location.path) = none :=
    List.find?_eq_none.2 fun a ha hsame => hne a (List.mem_reverse.1 ha) (of_decide_eq_true hsame)
  rw [h.node?_names hstems hb, hnone, Option.map_none, Option.none_or]

end Generated

/-- A run that cannot go on leaves what it has written, and nothing of what comes later. -/
theorem generate_interrupted {source : String} (hs : Schema.parse source = .ok s)
    (hsuffix : '/' ∉ settings.fetcherSuffix.toList) (hc : ofSchema s settings = .ok c) (w : World) :
    -- Without artifacts, nothing is done.
    (∀ failure, c.artifacts = .error failure →
      (c.generate host out).run.run w = (.error failure, w)) ∧
    ∀ before a after failure r w', c.artifacts = .ok (before ++ a :: after) →
      (∀ b ∈ before, ∃ text, c.render b = .ok text) → c.render a = .error failure →
      w.disk.Steady out → (c.generate host out).run.run w = (r, w') → Unfaulted r →
      -- The run ends with what the artifact fails with that cannot be rendered.
      r = .error failure ∧
      -- The folders are gone, but for the files before it and an empty file in its place.
      (∀ q, w'.disk.root.node? q = (Node.ofFiles (before.map (c.fileOf (w.disk.place out)) ++
        [(w.disk.place (Path.join out a.path), .empty)]) q).or
          (w.disk.root.outside (w.disk.place out) Folder.owned q)) ∧
      w'.disk.read (Path.join out a.path) = .ok .empty ∧
      -- The last one before it of a path is complete.
      (∀ b ∈ before, b.path ≠ a.path → ∃ last text, before.reverse.find? (·.path = b.path) = some last ∧
        c.render last = .ok text ∧ w'.disk.read (Path.join out b.path) = .ok text.toUTF8) ∧
      -- There is nothing of the ones behind it.
      (∀ b ∈ after, (∀ earlier ∈ before ++ [a], earlier.path ≠ b.path) →
        w'.disk.root.node? (w.disk.place (Path.join out b.path)) =
          w.disk.root.outside (w.disk.place out) Folder.owned (w.disk.place (Path.join out b.path))) ∧
      -- Every file is as it was, complete, or empty.
      ∀ q content, w'.disk.root.node? q = some (.file content) →
        w.disk.root.node? q = some (.file content) ∨
        (∃ b ∈ before, ∃ text, c.render b = .ok text ∧ q = w.disk.place (Path.join out b.path) ∧
          content = text.toUTF8) ∨
        q = w.disk.place (Path.join out a.path) ∧ content = .empty := by
  refine ⟨fun failure => run_of_artifacts_error, ?_⟩
  intro before a after failure r w' hartifacts hbefore ha hout hrun hr
  have h : c.Run s settings (before ++ a :: after) := .of_parse hs hsuffix hc hartifacts
  have hstems : ∀ b ∈ before ++ a :: after, Path.IsComponent b.location.stem :=
    fun b hb => h.isComponent_stem hb
  -- The run comes to the artifacts up to this one, so these are the files that it has written.
  obtain ⟨hreached, houtcome⟩ : c.reached (before ++ a :: after) = before ++ [a] ∧
      c.outcome out (before ++ a :: after) = .error failure := reached_of_fails hbefore ha
  obtain ⟨hresult, hgenerated⟩ := generated_of_run h hrun hr
  have hdone := hgenerated hout
  rw [hreached] at hdone
  have hplace (b : Artifact) (hb : b ∈ before ++ a :: after) :
      w.disk.place (Path.join out b.path) = w.disk.place out ++ b.location.names :=
    Artifact.place_join (hstems b hb)
  have hlocation : w.disk.place (Path.join out a.path) = w.disk.place out ++ a.location.names :=
    hplace a (by simp)
  have hearlier : ∀ b ∈ before ++ [a], Path.IsComponent b.location.stem := by
    rw [List.forall_mem_append] at hstems ⊢
    exact ⟨hstems.1, List.forall_mem_singleton.2 (hstems.2 a List.mem_cons_self)⟩
  have hempty : contentOf (c.render a) = .empty := by rw [ha]; rfl
  refine ⟨hresult.trans houtcome, fun q => ?_, ?_, fun b hb hne => ?_, fun b hb hne => ?_,
    fun q content hq => ?_⟩
  · rw [hdone.node?, List.map_append, List.map_singleton, fileOf, hempty, hlocation]
  · have hlast : (before ++ [a]).reverse.find? (·.path = a.path) = some a := by simp
    rw [hdone.read hearlier (by simp) hlast, hempty]
  · obtain ⟨last, hmem, hlast⟩ := Artifact.exists_last hb
    obtain ⟨text, htext⟩ := hbefore last hmem
    have hlast' : (before ++ [a]).reverse.find? (·.path = b.path) = some last := by
      simpa [Ne.symm hne] using hlast
    have hread := hdone.read hearlier (List.mem_append_left _ hb) hlast'
    rw [htext] at hread
    exact ⟨last, text, hlast, htext, hread⟩
  · have hmem : b ∈ before ++ a :: after := by simp [hb]
    rw [hplace b hmem]
    exact hdone.node?_of_path_ne hearlier (hstems b hmem) hne
  · rcases hdone.file_cases hq with hkept | ⟨b, hb, rfl, rfl⟩
    · exact .inl hkept
    · right
      rcases List.mem_append.1 hb with hb | hb
      · obtain ⟨text, htext⟩ := hbefore b hb
        exact .inl ⟨b, hb, text, htext, (hplace b (by simp [hb])).symm, by rw [htext]; rfl⟩
      · cases List.mem_singleton.1 hb
        exact .inr ⟨hlocation.symm, hempty⟩

set_option maxRecDepth 8000 in
/-- Without settings for its scalar, the second file for `marketText` cannot be rendered. -/
theorem exists_market_unmapped : ∃ s c common query after failure,
    Schema.parse marketText = .ok s ∧ ofSchema s {} = .ok c ∧
    c.artifacts = .ok (common :: query :: after) ∧
    (common :: query :: after).map Artifact.location = marketLocations ∧
    (∃ text, c.render common = .ok text) ∧ c.render query = .error failure := by
  obtain ⟨s, c, artifacts, hs, hc, hartifacts, hlocations, hrendered⟩ :=
    exists_artifacts_of_listing marketText {}
      (marketLocations.map fun l => (l, decide (l.stem ≠ "QueryFetcher"))) (by cbv)
  have hrendered : artifacts.map (fun a => (c.render a).isOk) = [true, false, true, true] := hrendered
  obtain ⟨common, rest, rfl, hcommon, hrest⟩ := List.map_eq_cons_iff.1 hrendered
  obtain ⟨query, after, rfl, hquery, -⟩ := List.map_eq_cons_iff.1 hrest
  obtain ⟨text, htext⟩ := exists_of_isOk hcommon
  cases hfails : c.render query with
  | ok text =>
    rw [hfails] at hquery
    cases hquery
  | error failure =>
    exact ⟨s, c, common, query, after, failure, hs, hc, hartifacts, hlocations, ⟨text, htext⟩, hfails⟩

theorem generate_interrupted_market : ∃ s c common query after failure w',
    Schema.parse marketText = .ok s ∧ ofSchema s {} = .ok c ∧
    c.artifacts = .ok (common :: query :: after) ∧ c.render query = .error failure ∧
    staleDisk.Steady "gen" ∧
    (c.generate host "gen").run.run { disk := staleDisk } = (.error failure, w') ∧
    (∃ text, c.render common = .ok text ∧
      w'.disk.read (Path.join "gen" common.path) = .ok text.toUTF8) ∧
    w'.disk.read (Path.join "gen" query.path) = .ok .empty ∧
    w'.disk.root.node? stalePath = none := by
  obtain ⟨s, c, common, query, after, failure, hs, hc, hartifacts, hlocations, hcommon, hquery⟩ :=
    exists_market_unmapped
  have hready := Disk.ready_staleDisk hlocations
  have hsteady : staleDisk.Steady "gen" := Disk.steady_of_not_mem (by decide +kernel)
  have hbase : staleDisk.place "gen" = ["gen"] := by decide +kernel
  have hbefore : ∀ b ∈ [common], ∃ text, c.render b = .ok text := List.forall_mem_singleton.2 hcommon
  obtain ⟨w', hrun⟩ := exists_run_of_ready (w := { disk := staleDisk }) hartifacts hready
  have houtcome : c.outcome "gen" (common :: query :: after) = .error failure :=
    (reached_of_fails hbefore hquery).2
  have hunfaulted : Unfaulted (c.outcome "gen" (common :: query :: after)) := unfaulted_outcome
  rw [houtcome] at hrun hunfaulted
  obtain ⟨-, hnodes, hempty, hcomplete, -⟩ := (generate_interrupted hs (by decide) hc
    { disk := staleDisk }).2 [common] query after failure _ w' hartifacts hbefore hquery hsteady hrun
      hunfaulted
  obtain ⟨hcommonFile, hqueryFile, -⟩ : common.location = ⟨.root, "CommonTypes", none⟩ ∧
      query.location = ⟨.fetchers, "QueryFetcher", some "Query"⟩ ∧ _ := by
    simpa [marketLocations] using hlocations
  have hpaths : common.path ≠ query.path := by
    rw [Artifact.path, Artifact.path, ne_eq, Location.path_eq_iff_names (hready.stem common (by simp))
      (hready.stem query (by simp)), hcommonFile, hqueryFile]
    decide
  obtain ⟨last, text, hlast, htext, hread⟩ := hcomplete common List.mem_cons_self hpaths
  cases hlast.symm.trans (List.find?_cons_of_pos (decide_eq_true rfl))
  refine ⟨s, c, common, query, after, failure, w', hs, hc, hartifacts, hquery, hsteady, hrun,
    ⟨text, htext, hread⟩, hempty, ?_⟩
  have hnone : Node.ofFiles ([common].map (c.fileOf (staleDisk.place "gen")) ++
      [(staleDisk.place (Path.join "gen" query.path), .empty)]) stalePath = none := by
    rw [Node.ofFiles_eq_none_iff, hready.place_join (by simp), hbase]
    intro file hfile
    rcases List.mem_append.1 hfile with hfile | hfile
    · obtain ⟨b, hb, rfl⟩ := List.mem_map.1 hfile
      exact Disk.not_stalePath_above hlocations (by simp_all)
    · cases List.mem_singleton.1 hfile
      exact Disk.not_stalePath_above hlocations (by simp)
  rw [hnodes, hnone, Option.none_or]
  decide +kernel

/-- If the path text of the output directory leads through a directory that is not there yet, a run that
ends at an artifact leaves an old file in a folder of the generator. -/
theorem exists_stale_after_failure : ∃ s c common query after failure w',
    Schema.parse marketText = .ok s ∧ '/' ∉ ({} : Settings).fetcherSuffix.toList ∧
    ofSchema s {} = .ok c ∧ c.artifacts = .ok (common :: query :: after) ∧
    (∃ text, c.render common = .ok text) ∧ c.render query = .error failure ∧
    (c.generate host "build/../gen").run.run { disk := staleDisk } = (.error failure, w') ∧
    w'.disk.place "build/../gen" ++ ["fetchers"] <+: stalePath ∧
    w'.disk.root.node? stalePath = some (.file "stale".toUTF8) ∧
    ∀ b ∈ [common, query], ¬ stalePath <+: w'.disk.place (Path.join "build/../gen" b.path) := by
  obtain ⟨s, c, common, query, after, failure, hs, hc, hartifacts, hlocations, hcommon, hquery⟩ :=
    exists_market_unmapped
  have hready := Disk.ready_detourDisk hlocations
  have hbase : detourDisk.place "build/../gen" = ["gen"] := by decide +kernel
  have hstop : ["build"] ∈ staleDisk.stops "build/../gen" := by decide +kernel
  have hreached : c.reached (common :: query :: after) = [common, query] ∧
      c.outcome "build/../gen" (common :: query :: after) = .error failure :=
    reached_of_fails (List.forall_mem_singleton.2 hcommon) hquery
  obtain ⟨w', hrun, hwritten⟩ := exists_run_of_unseen hartifacts hstop (by decide +kernel)
    (by decide +kernel) Disk.run_makeDirectories_detour hready
  rw [hreached.2] at hrun
  rw [hreached.1] at hwritten
  have hmem : [common, query] ⊆ common :: query :: after := by simp
  have hapart (b : Artifact) (hb : b ∈ [common, query]) :
      ¬ stalePath <+: detourDisk.place "build/../gen" ++ b.location.names := by
    rw [hbase]
    exact Disk.not_stalePath_above hlocations (hmem hb)
  refine ⟨s, c, common, query, after, failure, w', hs, by decide, hc, hartifacts, hcommon, hquery, hrun,
    ?_, ?_, fun b hb => ?_⟩
  · rw [Disk.place_congr hwritten.workingDirectory, hbase]
    decide
  · refine hwritten.file stalePath _ (by decide +kernel) (List.forall_mem_map.2 fun b hb hstale => ?_)
    exact hapart b hb (hstale ▸ List.prefix_refl _)
  · rw [Disk.place_congr hwritten.workingDirectory, hready.place_join (hmem hb)]
    exact hapart b hb

end TypedQuery.Catalog
