-- SUMMARY: The text of the common types consists of the lines of the helpers for casts.
import TypedQuery.Proofs.Artifact.Program
import TypedQuery.Proofs.Artifact.Scripts

/-!
# The text of the common types

The file of common types consists of the lines of its helpers, branch by branch and case by case:
`CommonTypes.render_eq`. What evaluating the helpers lists, therefore the text lists.
-/
namespace TypedQuery

namespace CommonTypes

open Op Stroke

variable {sheet : Sheet} {direction : String}

/-! ## The types -/

theorem writesLines_typeName : WritesLines sheet 0 typeNameScript Helpers.typeNameLines := by
  have hinside : FillsRegion sheet .blank 0
      [.text ("T extends \x7breadonly __typename: string\x7d ?\nT :\n" ++
        "T & \x7breadonly __typename: TypeName\x7d")]
      [⟨1, "T extends \x7breadonly __typename: string\x7d ?"⟩, ⟨1, "T :"⟩,
        ⟨1, "T & \x7breadonly __typename: TypeName\x7d"⟩] := by
    refine WritesLines.nil.fillsRegion_append .text ?_
    unfold Fill
    decide +kernel
  exact WritesLines.block ";" hinside (by decide) (by decide) (by decide)

theorem writesLines_branch (entry : String × NameSet) :
    WritesLines sheet 1 (branchScript entry.1 entry.2) (Branch.ofEntry entry).lines := by
  -- The members go into one region, with bars between them, one level below the branch.
  have hmembers : FillsRegion sheet .parameters 1
      (.literal entry.1 :: entry.2.toList.flatMap fun cast =>
        [.separator (some " | "), .text ("ImplementationType<'" ++ cast ++ "'>")])
      ((barred ((Branch.ofEntry entry).members.map FormType.text)).map (⟨2, ·⟩)) := by
    rw [Branch.ofEntry, List.map_cons, List.map_map, FormType.text_literal]
    apply fillsRegion_barred
    · intro closed
      rfl
    · simp [pendingAfter_append, pendingAfter]
    · simp [pendingAfter_append, pendingAfter]
  have hopening : "T extends '" ++ (Branch.ofEntry entry).name ++ "' ? (" =
      "T extends '" ++ entry.1 ++ "' ? " ++ RegionKind.parameters.opening := by
    simp [← String.toList_inj, Branch.ofEntry, RegionKind.opening]
  have hend : normalize (ofText 1 " :\n") = normalize ([⟨1, " :"⟩].flatMap Line.strokes) := by
    decide
  exact WritesLines.block " :" hmembers hopening rfl hend

theorem writesLines_implementation (l : Lineage) :
    WritesLines sheet 0 (implementationScript l) (ImplementationType.ofGraph l.downcasts).lines := by
  have hbranches : WritesLines sheet 1
      (l.downcasts.entries.flatMap fun entry => branchScript entry.1 entry.2)
      (l.downcasts.entries.flatMap fun entry => (Branch.ofEntry entry).lines) :=
    .flatMap writesLines_branch
  have hinside : FillsRegion sheet .blank 0
      ((l.downcasts.entries.flatMap fun entry => branchScript entry.1 entry.2) ++ [.text "T"])
      ((ImplementationType.ofGraph l.downcasts).branches.flatMap Branch.lines ++ [⟨1, "T"⟩]) := by
    rw [ImplementationType.ofGraph, List.flatMap_map]
    exact hbranches.fillsRegion_append .text (fill_ofText (by decide))
  have hend : normalize (ofText 0 ";\n") = normalize ([⟨0, ";"⟩].flatMap Line.strokes) := by decide
  exact WritesLines.block ";" hinside (by decide) (by decide) hend

/-! ## Functions that list casts -/

theorem writesLines_case (entry : String × NameSet) :
    WritesLines sheet 2 (caseScript direction entry.1 entry.2)
      ((Case.ofEntry entry).lines direction) := by
  have hcalls (casts : List String) : WritesLines sheet 3
      (casts.map (fun cast => .text (direction ++ "Types0('" ++ cast ++ "', output);\n")) ++
        [.text "break;\n"])
      ((casts.map Statement.call ++ [Statement.leave]).map fun s => ⟨3, s.text direction⟩) := by
    induction casts with
    | nil => exact .cons (by simp) .nil
    | cons cast rest ih =>
      refine .cons ?_ ih
      simp [← String.toList_inj]
  have hcase : "case '" ++ entry.1 ++ "':\n" =
      "case '" ++ (Case.ofEntry entry).name ++ "':" ++ "\n" := by
    simp [← String.toList_inj, Case.ofEntry]
  exact .cons hcase (hcalls entry.2.toList).blank

theorem writesLines_exported (f : CastFunction) :
    WritesLines sheet 0
      [.text ("export function " ++ f.direction ++ "Types(typeName: string): string[] "),
        .region .block true
          [.text "const typeNames: string[] = [];\n",
            .text (f.direction ++ "Types0(typeName, typeNames);\n"),
            .text "return typeNames;\n"],
        .text "\n\n"]
      f.exportedLines := by
  have hcall : f.direction ++ "Types0(typeName, typeNames);\n" =
      f.direction ++ "Types0(typeName, typeNames);" ++ "\n" := by
    simp [← String.toList_inj]
  have hopening : "export function " ++ f.direction ++ "Types(typeName: string): string[] \x7b" =
      "export function " ++ f.direction ++ "Types(typeName: string): string[] " ++
        RegionKind.block.opening := by
    simp [← String.toList_inj, RegionKind.opening]
  refine WritesLines.block "" (WritesLines.fillsRegion ?_) hopening ?_ ?_
  · exact .cons (by decide) (.cons hcall (.cons (by decide) .nil))
  · decide
  · decide

theorem writesLines_recursive (direction : String) (g : NameGraph) :
    WritesLines sheet 0
      [.text ("function " ++ direction ++ "Types0(typeName: string, output: string[]) "),
        .region .block true
          [.text "output.push(typeName);\n",
            .text "switch (typeName) ",
            .region .block true (g.entries.flatMap fun entry => caseScript direction entry.1 entry.2),
            .text "\n"],
        .text "\n"]
      (CastFunction.ofGraph direction g).recursiveLines := by
  have hcases : WritesLines sheet 2
      (g.entries.flatMap fun entry => caseScript direction entry.1 entry.2)
      ((CastFunction.ofGraph direction g).cases.flatMap (Case.lines direction)) := by
    rw [CastFunction.ofGraph, List.flatMap_map]
    exact .flatMap writesLines_case
  have hopening : "function " ++ direction ++ "Types0(typeName: string, output: string[]) \x7b" =
      "function " ++ direction ++ "Types0(typeName: string, output: string[]) " ++
        RegionKind.block.opening := by
    simp [← String.toList_inj, RegionKind.opening]
  refine WritesLines.block "" (WritesLines.fillsRegion ?_) hopening (by decide) (by decide)
  refine .cons (by decide) ?_
  exact WritesLines.block "" hcases.fillsRegion (by decide) (by decide) (by decide)

/-! ## The file -/

theorem writesLines_script (l : Lineage) :
    WritesLines sheet 0 (script l) (Helpers.ofLineage l).lines := by
  have hbreak {ops : List Op} {lines : List Line} (h : WritesLines sheet 0 ops lines) :
      WritesLines sheet 0 (.text "\n" :: ops) (⟨0, ""⟩ :: lines) :=
    .cons (by decide) h
  have hfunction (direction : String) (g : NameGraph) : WritesLines sheet 0
      (functionScript direction g) (CastFunction.ofGraph direction g).lines :=
    (writesLines_exported (.ofGraph direction g)).append (writesLines_recursive direction g)
  apply WritesLines.append
  · apply WritesLines.append
    · exact writesLines_typeName.append (hbreak (writesLines_implementation l))
    · exact hbreak (hfunction "upcast" l.upcasts)
  · exact hbreak (hfunction "downcast" l.downcasts)

end CommonTypes

/-- The text of the common types is the layout of the lines of their helpers. -/
theorem Artifact.render_commonTypes (l : Lineage) (schema : Schema) (settings : Settings) :
    ∃ text, (Artifact.commonTypes l).render schema settings = .ok text ∧
      text.toList = layout settings.indent.toList false
        ((CommonTypes.Helpers.ofLineage l).lines.flatMap Line.strokes) := by
  let sheet : Sheet := ⟨schema, settings, CommonTypes.location⟩
  obtain ⟨strokes, hwrites, hlines⟩ : Op.WritesLines sheet 0 (CommonTypes.script l) _ :=
    CommonTypes.writesLines_script l
  obtain ⟨hok, hcontent⟩ := hwrites.content
  have hpage : (Artifact.commonTypes l).page schema settings =
      Op.runAll (.closeImports :: CommonTypes.script l) sheet.fresh :=
    Artifact.page_eq
  have hlayout := hcontent.trans (Stroke.layout_congr hlines)
  unfold Artifact.render
  rw [hpage]
  rcases hrun : Op.runAll (.closeImports :: CommonTypes.script l) sheet.fresh with ⟨result, p⟩
  rw [hrun] at hok hlayout
  cases hok
  exact ⟨p.content, rfl, hlayout⟩

end TypedQuery
