-- SUMMARY: The code that writes a file closes what it opens.
import TypedQuery.Proofs.Artifact.Links
import TypedQuery.Proofs.Artifact.Names
import TypedQuery.Proofs.Emit.Nesting
import TypedQuery.Proofs.Schema.Words

/-!
# Scripts that make up for what they open

What a file is made of opens regions and writes brackets, some of which are closed several texts
further on. Script by script, everything is closed where the script ends (`Op.Neutral`), given that
the names in it have no brackets of their own (`Builder.Tidy`, `Link.Tidy`).
-/
namespace TypedQuery

open Op

/-! ## Names have no brackets -/

theorem Sdl.IsName.plain {name : String} (h : Sdl.IsName name) : Plain name := by
  have hall : name.toList.all Sdl.isNameChar = true := List.all_eq_true.2 h.2
  exact plain_of_all hall (by decide)

theorem balanced_spelling {type : TypeRef} (h : Plain type.base) : Balanced type.spelling := by
  induction type with
  | named name => exact h.balanced
  | list item ih =>
    simp only [Balanced, TypeRef.spelling, String.toList_append, nest_append]
    change (nest [']'] item.spelling.toList).bind _ = _
    rw [(ih h).nest_eq]
    rfl
  | nonNull inner ih => exact (ih h).append (by decide)

/-! ## Builders -/

/-- The texts that describe a field have no brackets but those of its argument types. -/
structure SelectableField.Tidy (f : SelectableField) : Prop where
  name : Plain f.name
  arguments : ∀ a ∈ f.arguments, Plain a.1 ∧ Balanced a.2
  connection : ∀ n, f.connection = some n → Plain n
  edge : ∀ n, f.edge = some n → Plain n
  target : ∀ n, f.target = some n → Plain n

/-- The names that a builder writes have no brackets. -/
structure Builder.Tidy (b : Builder) : Prop where
  typeName : Plain b.typeName
  name : Plain b.name
  instanceName : Plain b.instanceName
  superTypes : ∀ t ∈ b.type.superTypes,
    Plain (b.catalog.instanceName t.name) ∧ Plain (b.catalog.builderName t.name)
  fields : ∀ p ∈ b.fields, p.1.Tidy ∧ (∀ t ∈ b.catalog.associatedTypes p.1, Plain t) ∧
    Plain p.2.name ∧ ∀ a ∈ p.2.arguments, Plain a.name
  declared : ∀ f ∈ b.type.declared, f.Tidy

namespace Builder

variable {b : Builder} {f : SelectableField} {d : FieldDef} {s : Settings}

theorem balanced_readonlyWord : Balanced (Writing.readonlyWord s) := by
  unfold Writing.readonlyWord
  split <;> decide

theorem neutral_narrowingScript (hb : b.Tidy) : Neutral b.narrowingScript := by
  have hhead : Balanced ("on<XName extends " ++ ("ImplementationType<'" ++ b.typeName ++ "'>") ++
      ", X extends object, XVariables extends object>") := by
    simp only [Balanced, String.toList_append, nest_append, hb.typeName.nest_eq]
    cbv
  have hwhole : Balanced ("XName extends '" ++ b.typeName ++ "' ?\nT & X :\nWithTypeName<T, " ++
      ("ImplementationType<'" ++ b.typeName ++ "'>") ++ "> & ") := by
    simp only [Balanced, String.toList_append, nest_append, hb.typeName.nest_eq]
    cbv
  have hothers : Balanced ("\x7b__typename: Exclude<" ++ ("ImplementationType<'" ++ b.typeName ++
      "'>") ++ ", ImplementationType<XName>>\x7d") := by
    simp only [Balanced, String.toList_append, nest_append, hb.typeName.nest_eq]
    cbv
  have hparameters : Neutral [.separator none, .text "child: ObjectFetcher<XName, X, XVariables>",
      .separator none, .text "fragmentName?: string"] :=
    .separator (by decide) (.text (by decide) (.separator (by decide) (.text (by decide) .nil)))
  have hform : Neutral [.text "WithTypeName<X, ImplementationType<XName>>",
      .separator (some " | "), .text _] :=
    .text (by decide) (.separator (by decide) (.text hothers .nil))
  have hresult : Balanced (": " ++ b.name) := Balanced.append (by decide) hb.name.balanced
  exact .text (by decide) (.text hhead (.region hparameters (.text hresult
    (.region (.text hwhole (.region hform (.separator (by decide) (.text (by decide) .nil))))
      (.text (by decide) .nil)))))

theorem neutral_typeNameScript (hb : b.Tidy) : Neutral b.typeNameScript := by
  refine .text (by decide) (.text ?_ .nil)
  split <;> simp only [Balanced, String.toList_append, nest_append, hb.typeName.nest_eq,
    hb.name.nest_eq] <;> cbv

theorem neutral_selectionScript (hf : f.Tidy) : Neutral (selectionScript s f d) := by
  have hname : Balanced ("\"" ++ f.name ++ "\"") := hf.name.between (by decide) (by decide)
  have hstandIn : Plain ((if f.isAssociation then some "X" else none).getD "") := by
    split <;> decide
  have hinside : Neutral ([.text (Writing.readonlyWord s), .text ("\"" ++ f.name ++ "\"")] ++
      (if d.type.isNullable then [.text "?"] else []) ++
      [.text ": ", .typeRef d.type (if f.isAssociation then some "X" else none)]) :=
    ((Neutral.text balanced_readonlyWord (.text hname .nil)).append
      (.ite (.text (by decide) .nil) .nil)).append (.text (by decide) (.typeRef hstandIn .nil))
  -- The braces of the member are written by two texts, so neither is balanced by itself.
  have haround := Neutral.around (s := "\x7b") (t := "\x7d") hinside .nil fun _ => ⟨_, rfl, rfl⟩
  rw [selectionScript]
  simpa using haround

theorem neutral_childScript (h : ∀ t ∈ b.catalog.associatedTypes f, Plain t) :
    Neutral (b.childScript f) := by
  have htypes : Neutral ((b.catalog.associatedTypes f).flatMap fun type =>
      [.separator (some " | "), .literal type]) :=
    .flatMap fun type htype => .separator (by decide) (.literal (h type htype) .nil)
  exact .text (by decide) (.region (.separator (by decide) (.region htypes
    (.separator (by decide) (.text (by decide) (.separator (by decide) (.text (by decide) .nil))))))
    .nil)

/-- The type of the result is closed behind the selection. -/
theorem exists_write_result (hb : b.Tidy) {t : String}
    (ht : t = ", TVariables & XVariables>;\n" ∨ t = ", TVariables>;\n") (lead : String)
    (hlead : Balanced lead) (n : Nesting) :
    ∃ m, n.write (lead ++ b.name ++ "<T & ") = some m ∧ m.write t = some n := by
  refine ⟨⟨'>' :: n.due, n.kinds⟩, ?_, ?_⟩
  · rw [Nesting.write_append, Nesting.write_append, Nesting.write_of_balanced hlead,
      Option.bind_some, Nesting.write_of_balanced hb.name.balanced]
    rfl
  · rcases ht with rfl | rfl <;> rfl

theorem neutral_methodScript (hb : b.Tidy) (hf : f.Tidy)
    (htypes : ∀ t ∈ b.catalog.associatedTypes f, Plain t) {withArguments : Bool} :
    Neutral (b.methodScript s f d withArguments) := by
  have harguments : Balanced ("XArgs extends " ++ b.argumentsName ++ "['" ++ f.name ++ "']") := by
    simp only [Balanced, argumentsName, String.toList_append, nest_append, hb.typeName.nest_eq,
      hf.name.nest_eq]
    cbv
  have hparameters : ∀ parameter ∈ b.typeParameters f withArguments,
      Neutral [.separator none, .text parameter] := by
    intro parameter hparameter
    -- What can be among the parameters: the arguments, and what a child brings along.
    suffices h : Balanced parameter from .separator (by decide) (.text h .nil)
    rcases List.mem_append.1 hparameter with hmem | hmem <;> split at hmem
    · exact List.mem_singleton.1 hmem ▸ harguments
    · cases hmem
    · rcases List.mem_pair.1 hmem with rfl | rfl <;> decide
    · cases hmem
  have hcall : Neutral ((if withArguments then [.separator none, .text "args: XArgs"] else []) ++
      if f.isAssociation then [.separator none, .text "child: "] ++ b.childScript f else []) :=
    (Neutral.ite (.separator (by decide) (.text (by decide) .nil)) .nil).append
      (.ite ((Neutral.separator (by decide) (.text (by decide) .nil)).append
        (neutral_childScript htypes)) .nil)
  -- The angle bracket behind the name of the builder is closed by either end.
  have hend : (if f.isAssociation then ", TVariables & XVariables>;\n" else ", TVariables>;\n") =
      ", TVariables & XVariables>;\n" ∨
      (if f.isAssociation then ", TVariables & XVariables>;\n" else ", TVariables>;\n") =
        ", TVariables>;\n" := by
    split <;> simp
  have hresult := Neutral.around (neutral_selectionScript (s := s) (d := d) hf) .nil
    (exists_write_result hb hend ": " (by decide))
  have hhead : Neutral (.text f.name ::
      (if (b.typeParameters f withArguments).isEmpty then []
        else [.region .generic false ((b.typeParameters f withArguments).flatMap fun parameter =>
          [.separator none, .text parameter])]) ++
      [.region .parameters (withArguments && f.isAssociation) _]) :=
    (Neutral.text hf.name.balanced (.ite .nil (.region (.flatMap hparameters) .nil))).append
      (.region hcall .nil)
  have hall := hhead.append hresult
  rw [methodScript]
  simpa using hall

theorem neutral_accessorScript (hb : b.Tidy) (hf : f.Tidy)
    (htypes : ∀ t ∈ b.catalog.associatedTypes f, Plain t) : Neutral (b.accessorScript s f d) := by
  have hremove : Balanced ("readonly \"~" ++ f.name ++ "\": " ++ b.name ++ "<Omit<T, '" ++ f.name ++
      "'>, TVariables>;\n") := by
    simp only [Balanced, String.toList_append, nest_append, hf.name.nest_eq, hb.name.nest_eq]
    cbv
  have hlead : Balanced ("readonly " ++ f.name ++ ": ") := hf.name.between (by decide) (by decide)
  have hproperty := Neutral.around (neutral_selectionScript (s := s) (d := d) hf) .nil
    (exists_write_result hb (.inr rfl) _ hlead)
  have hselect : Neutral (if f.isFunction then (overloads d).flatMap (b.methodScript s f d)
      else [.text ("readonly " ++ f.name ++ ": " ++ b.name ++ "<T & ")] ++
        selectionScript s f d ++ [.text ", TVariables>;\n"]) :=
    .ite (.flatMap fun _ _ => neutral_methodScript hb hf htypes) (by simpa using hproperty)
  exact .text (by decide) (hselect.append (.text hremove .nil))

theorem neutral_descriptorScript (hf : f.Tidy) : Neutral (descriptorScript f) := by
  have hentry (lead : String) {name : String} (hlead : Balanced lead) (hname : Plain name) :
      Neutral [.separator (some ","), .text (lead ++ name ++ "\"")] :=
    .separator (by decide) (.text (hname.between hlead (by decide)) .nil)
  have hoption (lead : String) {value : Option String} (hlead : Balanced lead)
      (hvalue : ∀ n, value = some n → Plain n) : Neutral (value.toList.flatMap fun n =>
        [.separator (some ","), .text (lead ++ n ++ "\"")]) :=
    .flatMap fun n hn => hentry lead hlead (hvalue n (Option.mem_toList.1 hn))
  have hcategory : Plain f.category.word := by
    cases f.category <;> decide
  have hargument : ∀ a ∈ f.arguments, Neutral
      [.separator (some ", "), .text (a.1 ++ ": '" ++ a.2 ++ "'")] := by
    refine fun a ha => .separator (by decide) (.text ?_ .nil)
    obtain ⟨hname, htype⟩ := hf.arguments a ha
    exact ((hname.balanced.append (by decide)).append htype).append (by decide)
  have harguments : Neutral (f.arguments.flatMap fun a =>
      [.separator (some ", "), .text (a.1 ++ ": '" ++ a.2 ++ "'")]) := .flatMap hargument
  have hmap : Neutral (if f.arguments.isEmpty then []
      else [.separator (some ","), .text "argGraphQLTypeMap: ", .enter .block false] ++
        f.arguments.flatMap (fun a =>
          [.separator (some ", "), .text (a.1 ++ ": '" ++ a.2 ++ "'")]) ++ [.leave]) :=
    .ite .nil (.separator (by decide) (.text (by decide) (harguments.between .nil)))
  have hinside := (((((hentry "category: \"" (by decide) hcategory).append
    (hentry "name: \"" (by decide) hf.name)).append hmap).append
      (hoption "connectionTypeName: \"" (by decide) hf.connection)).append
        (hoption "edgeTypeName: \"" (by decide) hf.edge)).append
          (hoption "targetTypeName: \"" (by decide) hf.target)
  have hundefinable : Neutral (if f.undefinable then
      [.separator (some ","), .text "undefinable: true"] else []) :=
    .ite (.separator (by decide) (.text (by decide) .nil)) .nil
  have hbetween : Neutral (.enter .block true :: _ ++ [.leave]) :=
    (hinside.append hundefinable).between .nil
  rw [descriptorScript]
  refine .ite (.text (hf.name.between (by decide) (by decide)) .nil) ?_
  simpa using hbetween

theorem neutral_descriptionScript (hb : b.Tidy) : Neutral b.descriptionScript := by
  have hquoted {name : String} (hname : Plain name) : Balanced ("\"" ++ name ++ "\"") :=
    hname.between (by decide) (by decide)
  have hcategory : Plain b.description.category.word := by
    cases b.description.category <;> decide
  have hsupers : Neutral (b.description.superTypes.flatMap fun superType =>
      [.separator none, .text (b.catalog.instanceName superType ++ ".fetchableType")]) := by
    refine .flatMap fun n hn => .separator (by decide) (.text ?_ .nil)
    obtain ⟨t, ht, rfl⟩ := List.mem_map.1 hn
    exact (hb.superTypes t ht).1.balanced.append (by decide)
  have hfields : Neutral (b.description.fields.flatMap fun f =>
      .separator none :: descriptorScript f) :=
    .flatMap fun f hf => .separator (by decide)
      (neutral_descriptorScript (hb.declared f (List.mem_filter.1 hf).1))
  exact .text (by decide) (.region (.separator (by decide) (.text (hquoted hb.typeName)
    (.separator (by decide) (.text (hquoted hcategory) (.separator (by decide) (.region hsupers
      (.separator (by decide) (.region hfields .nil)))))))) .nil)

theorem neutral_constantScript (hb : b.Tidy) : Neutral b.constantScript := by
  have hempty : Balanced ("export const " ++ b.instanceName ++ ": " ++ b.name ++
      "<\x7b\x7d, \x7b\x7d> =") := by
    simp only [Balanced, String.toList_append, nest_append, hb.name.nest_eq,
      hb.instanceName.nest_eq]
    cbv
  have hdefault : Balanced ("export const " ++ b.instanceName ++ "$ = " ++ b.instanceName) :=
    (hb.instanceName.between (by decide) (by decide)).append hb.instanceName.balanced
  have hselected : Neutral (b.defaultFields.map fun field => .text ("." ++ field)) := by
    rw [List.map_eq_flatMap]
    refine .flatMap fun n hn => .text (Balanced.append (by decide) ?_) .nil
    obtain ⟨f, hf, rfl⟩ := List.mem_map.1 hn
    obtain ⟨p, hp, rfl⟩ := List.mem_map.1 (List.mem_filter.1 hf).1
    exact (hb.fields p hp).1.name.balanced
  have hcreated : Neutral [.text "createFetcher",
      .region .parameters true (.separator none :: b.descriptionScript)] :=
    .text (by decide) (.region (.separator (by decide) (neutral_descriptionScript hb)) .nil)
  have hconstant : Neutral [.text "\n", .text ("export const " ++ b.instanceName ++ ": " ++ b.name ++
      "<\x7b\x7d, \x7b\x7d> ="), .region .blank true _, .text ";\n"] :=
    .text (by decide) (.text hempty (.region hcreated (.text (by decide) .nil)))
  exact hconstant.append (.ite .nil (((Neutral.text (by decide) (.text hdefault .nil)).append
    hselected).append (.text (by decide) .nil)))

theorem neutral_argumentScript (hb : b.Tidy) : Neutral (b.argumentScript s) := by
  have hmembers : ∀ d ∈ b.fieldsWithArguments, Neutral [.separator (some ","),
      .text (Writing.readonlyWord s ++ d.name ++ ": "),
      .region .block true (d.arguments.flatMap fun a =>
        [.separator (some ","), .property a.name a.type none])] := by
    intro d hd
    obtain ⟨p, hp, rfl⟩ := List.mem_map.1 (List.mem_filter.1 hd).1
    obtain ⟨_, _, hname, harguments⟩ := hb.fields p hp
    exact .separator (by decide) (.text (hname.between balanced_readonlyWord (by decide))
      (.region (.flatMap fun a ha => .separator (by decide) (.property (harguments a ha) .nil))
        .nil))
  have hhead : Balanced ("export interface " ++ b.argumentsName ++ " ") :=
    (hb.typeName.append (by decide)).between (by decide) (by decide)
  exact .ite .nil (.text (by decide) (.text hhead (.region (.flatMap hmembers)
    (.text (by decide) .nil))))

theorem neutral_script (hb : b.Tidy) : Neutral (b.script s) := by
  have hhead : Balanced ("export interface " ++ b.name ++
      "<T extends object, TVariables extends object> extends ObjectFetcher<'" ++ b.typeName ++
      "', T, TVariables> ") := by
    simp only [Balanced, String.toList_append, nest_append, hb.name.nest_eq, hb.typeName.nest_eq]
    cbv
  have haccessors : Neutral (b.fields.flatMap fun p => b.accessorScript s p.1 p.2) :=
    .flatMap fun p hp => neutral_accessorScript hb (hb.fields p hp).1 (hb.fields p hp).2.1
  have hinside := ((Neutral.ite (c := b.isPolymorphic) (neutral_narrowingScript hb) .nil).append
    (neutral_typeNameScript hb)).append haccessors
  have hcomment : Balanced immutabilityComment := by
    simp only [Balanced, immutabilityComment, String.toList_append, nest_append]
    cbv
  have hinterface : Neutral [.text immutabilityComment, .text _, .region .block true _,
      .text "\n"] :=
    .text hcomment (.text hhead (.region hinside (.text (by decide) .nil)))
  exact (hinterface.append (neutral_constantScript hb)).append (neutral_argumentScript hb)

end Builder

/-! ## Common types -/

namespace CommonTypes

variable {l : Lineage} {g : NameGraph} {direction type : String} {casts : NameSet}

theorem neutral_typeNameScript : Neutral typeNameScript :=
  .text (by decide) (.region (.text (by decide) .nil) (.text (by decide) .nil))

theorem neutral_branchScript (htype : Plain type) (hcasts : ∀ cast ∈ casts, Plain cast) :
    Neutral (branchScript type casts) := by
  have hhead : Balanced ("T extends '" ++ type ++ "' ? ") := htype.between (by decide) (by decide)
  have hforms : Neutral (casts.toList.flatMap fun cast =>
      [.separator (some " | "), .text ("ImplementationType<'" ++ cast ++ "'>")]) := by
    refine .flatMap fun cast hcast => .separator (by decide) (.text ?_ .nil)
    simp only [Balanced, String.toList_append, nest_append, (hcasts cast hcast).nest_eq]
    cbv
  exact .text hhead (.region (.literal htype hforms) (.text (by decide) .nil))

theorem neutral_implementationScript (hcasts : l.downcasts.Over Plain) :
    Neutral (implementationScript l) := by
  have hbranches : Neutral (l.downcasts.entries.flatMap fun entry =>
      branchScript entry.1 entry.2) := by
    refine .flatMap fun entry hentry => ?_
    obtain ⟨htype, htargets⟩ := hcasts entry.1 entry.2 (NameMap.get?_eq_some_iff.2 hentry)
    exact neutral_branchScript htype htargets
  exact .text (by decide) (.region (hbranches.append (.text (by decide) .nil))
    (.text (by decide) .nil))

theorem neutral_caseScript (hdirection : Plain direction) (htype : Plain type)
    (hcasts : ∀ cast ∈ casts, Plain cast) : Neutral (caseScript direction type casts) := by
  have hhead : Balanced ("case '" ++ type ++ "':\n") := htype.between (by decide) (by decide)
  have hcalls : Neutral (casts.toList.map fun cast =>
      .text (direction ++ "Types0('" ++ cast ++ "', output);\n")) := by
    rw [List.map_eq_flatMap]
    refine .flatMap fun cast hcast => .text ?_ .nil
    simp only [Balanced, String.toList_append, nest_append, hdirection.nest_eq,
      (hcasts cast hcast).nest_eq]
    cbv
  exact .text hhead (.region (hcalls.append (.text (by decide) .nil)) .nil)

theorem neutral_functionScript (hdirection : Plain direction) (hcasts : g.Over Plain) :
    Neutral (functionScript direction g) := by
  have hcases : Neutral (g.entries.flatMap fun entry =>
      caseScript direction entry.1 entry.2) := by
    refine .flatMap fun entry hentry => ?_
    obtain ⟨htype, htargets⟩ := hcasts entry.1 entry.2 (NameMap.get?_eq_some_iff.2 hentry)
    exact neutral_caseScript hdirection htype htargets
  have hexported : Balanced ("export function " ++ direction ++
      "Types(typeName: string): string[] ") :=
    hdirection.between (by decide) (by decide)
  have hcall : Balanced (direction ++ "Types0(typeName, typeNames);\n") :=
    hdirection.balanced.append (by decide)
  have hhidden : Balanced ("function " ++ direction ++
      "Types0(typeName: string, output: string[]) ") :=
    hdirection.between (by decide) (by decide)
  exact .text hexported (.region (.text (by decide) (.text hcall (.text (by decide) .nil)))
    (.text (by decide) (.text hhidden (.region (.text (by decide) (.text (by decide)
      (.region hcases (.text (by decide) .nil)))) (.text (by decide) .nil)))))

theorem neutral_script (hdown : l.downcasts.Over Plain) (hup : l.upcasts.Over Plain) :
    Neutral (script l) := by
  have hbreak {ops : List Op} (h : Neutral ops) : Neutral (.text "\n" :: ops) := .text (by decide) h
  have hfunction {direction : String} {g : NameGraph} (hdirection : Plain direction)
      (hcasts : g.Over Plain) : Neutral (.text "\n" :: functionScript direction g) :=
    hbreak (neutral_functionScript hdirection hcasts)
  have hhelpers : Neutral (typeNameScript ++ .text "\n" :: implementationScript l) :=
    neutral_typeNameScript.append (hbreak (neutral_implementationScript hdown))
  exact (hhelpers.append (hfunction (by decide) hup)).append (hfunction (by decide) hdown)

end CommonTypes

/-! ## Enums, input objects and indexes -/

theorem EnumDef.neutral_script {d : EnumDef} (hname : Plain d.name)
    (hvalues : ∀ v ∈ d.values, Plain v) : Neutral d.script := by
  have hhead : Balanced ("export type " ++ d.name ++ " = ") := hname.between (by decide) (by decide)
  have hlist : Neutral (d.values.flatMap fun value =>
      [.separator (some " | "), .literal value]) :=
    .flatMap fun v hv => .separator (by decide) (.literal (hvalues v hv) .nil)
  exact .text hhead ((Neutral.ite (.text (by decide) .nil) (.region hlist .nil)).append
    (.text (by decide) .nil))

theorem InputDef.neutral_script {d : InputDef} (hname : Plain d.name)
    (hfields : ∀ f ∈ d.fields, Plain f.name) : Neutral d.script := by
  have hhead : Balanced ("export type " ++ d.name ++ " = ") := hname.between (by decide) (by decide)
  have hlist : Neutral (d.fields.flatMap fun f =>
      [.separator (some ","), .property f.name f.type none]) :=
    .flatMap fun f hf => .separator (by decide) (.property (hfields f hf) .nil)
  exact .text hhead (.region hlist (.text (by decide) .nil))

/-- A link between modules whose names have no brackets. -/
structure Link.Tidy (l : Link) : Prop where
  names : ∀ names, l.names = some names → ∀ n ∈ names, Plain n
  module : Plain l.module

theorem Link.Tidy.balanced_line {l : Link} (h : l.Tidy) {verb : String} (hverb : Balanced verb) :
    Balanced (l.line verb) := by
  have hkind : Balanced (if l.types then " type " else " ") := by
    split <;> decide
  have hnames : Balanced (l.names.elim "* from '" fun names =>
      "\x7b " ++ ", ".intercalate names ++ " \x7d from '") := by
    cases hsome : l.names with
    | none => decide
    | some names =>
      have hlist : Plain (", ".intercalate names) := .intercalate (by decide) (h.names names hsome)
      simp only [Option.elim_some, Balanced, String.toList_append, nest_append, hlist.nest_eq]
      cbv
  exact ((((hverb.append hkind).append hnames).append h.module.balanced).append
    (by decide)).append (by decide)

theorem Index.neutral_script {i : Index} (h : ∀ e ∈ i.exports, ∀ l ∈ e.links, l.Tidy) :
    Neutral i.script := by
  refine .flatMap fun e he => ?_
  rw [ModuleExports.script_eq, List.map_eq_flatMap]
  exact .flatMap fun l hl => .text (((h e he l hl).balanced_line (by decide)).append (by decide)) .nil

end TypedQuery
