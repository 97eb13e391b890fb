-- SUMMARY: When connections and edges have the fields that their category asks for.
import Mathlib
import TypedQuery.Proofs.Model.Failures
import TypedQuery.Proofs.Model.Order
import TypedQuery.Proofs.Model.Subtypes
import TypedQuery.Proofs.Schema.Connections

/-!
# Connections, edges and the fields they need

Whether a type is a connection or an edge is read off the schema: `Schema.Paginates` says what has been
found there. Whether it has the fields that its category asks for is read off the models of its fields, and a
field that leads to a connection gets another category than one that leads to any other type, as does the
identifier. So a type can be classified as a connection or an edge and lack the fields of one.
`Schema.Fits` excludes that: `Catalog.classified_meet_iff_fit` says that it is what decides.
-/
namespace TypedQuery

/-- The fault is that a type is not what its category asks for. -/
def TypeFault.isOfCategory : TypeFault → Bool
  | wrongCategory .. | missingField .. | superTypesOn _ => true
  | _ => false

namespace Schema

variable {s : Schema} {k : Connection} {name : String}

/-! ## Connections in schemas -/

/-- The name of a connection. -/
def IsConnection (s : Schema) (name : String) : Prop := ∃ k ∈ s.connections, k.type = name

/-- The fields of a type get the categories that a connection or an edge needs, if it is one: the edges
are no connections themselves, the node is none, and the cursor is not the identifier. -/
structure Fits (s : Schema) (idField name : String) : Prop where
  edges : ∀ k ∈ s.connections, k.type = name → ¬ s.IsConnection k.edge
  node : ¬ s.IsConnection name → ∀ k ∈ s.connections, k.edge = name → ¬ s.IsConnection k.node
  cursor : ¬ s.IsConnection name → ∀ k ∈ s.connections, k.edge = name → idField ≠ "cursor"

end Schema

/-! ## Categories of fields -/

namespace SelectableType

variable {name field : String} {required : FieldCategory} {declared : List SelectableField}

/-- Checking single fields says nothing about categories of types. -/
theorem isOfCategory_of_checkFields {earlier : List String} {type : String} {fault : TypeFault}
    (h : checkFields name earlier declared = .error (.invalidType type fault)) :
    fault.isOfCategory = false := by
  induction declared generalizing earlier with
  | nil => cases h
  | cons f rest ih =>
    unfold checkFields at h
    repeat' split at h
    · cases h
      rfl
    · cases h
      rfl
    · cases h
      rfl
    · exact ih h

theorem of_requireField_eq_error {type : String} {fault : TypeFault}
    (h : requireField name declared field required = .error (.invalidType type fault)) :
    type = name := by
  unfold requireField at h
  repeat' split at h
  all_goals cases h
  all_goals rfl

/-- A type is not what its category asks for if a field is missing or of another category, or if it has
super types that it must not have. -/
theorem of_make?_eq_error {category : TypeCategory} {superTypes : List SelectableType} {type : String}
    {fault : TypeFault} (h : make? name category superTypes declared = .error (.invalidType type fault))
    (hfault : fault.isOfCategory = true) :
    type = name ∧ ((∃ r ∈ requiredFields category, requireField name declared r.1 r.2 ≠ .ok ()) ∨
      category ≠ .object ∧ superTypes ≠ []) := by
  unfold make? at h
  rcases bind_eq_error_iff.1 h with hcheck | ⟨_, _, h⟩
  · rw [isOfCategory_of_checkFields hcheck] at hfault
    cases hfault
  rcases bind_eq_error_iff.1 h with hrequired | ⟨_, _, h⟩
  · obtain ⟨r, hr, hfails⟩ := exists_of_forM_eq_error hrequired
    have hfails : requireField name declared r.1 r.2 = .error (.invalidType type fault) := hfails
    exact ⟨of_requireField_eq_error hfails, .inl ⟨r, hr, by simp [hfails]⟩⟩
  · split at h
    · next hsupers =>
      cases h
      exact ⟨rfl, .inr ⟨hsupers.1, by simpa using hsupers.2⟩⟩
    · cases h

end SelectableType

namespace Outline

variable {o : Outline} {s : Schema} {settings : Settings} {name : String} {d : FieldDef}
  {f : SelectableField} {target : TypeDef}

theorem category_withArguments {arguments : List InputValue} :
    (arguments.foldl (fun m a => m.withArgument a.name a.type.spelling) f).category = f.category := by
  rw [withArguments_eq]

theorem category_fieldOfType : (o.fieldOfType d target).category =
    if (o.connection? d.type.base).isSome then .connection
    else if target.isComposite then if d.type.isList then .list else .reference
    else if d.name = o.settings.idField ∧ ¬ d.type.isList then .id else .scalar := by
  unfold fieldOfType
  simp only [category_withArguments]
  cases o.connection? d.type.base with
  | some c => rfl
  | none =>
    cases target.isComposite with
    | true => rfl
    | false =>
      simp only [Bool.false_eq_true, if_false, Option.isSome_none]
      split <;> rfl

theorem isSome_connection?_iff :
    ((ofSchema s settings).connection? name).isSome ↔ s.IsConnection name := by
  simp [connection?, Schema.IsConnection, ofSchema]

theorem isEdge_iff :
    (ofSchema s settings).isEdge name = true ↔ ∃ k ∈ s.connections, k.edge = name := by
  simp [isEdge, ofSchema]

/-! ## Required fields -/

/-- The first field of a name among those that a type lists is modelled by the first one of that name
among the models. -/
theorem exists_model_of_find? {listed : List FieldDef} {declared : List SelectableField} {n : String}
    (h : List.Forall₂ (fun d f => o.fieldModel name d = .ok f) listed declared)
    (hfind : listed.find? (·.name = n) = some d) :
    ∃ f, declared.find? (·.name = n) = some f ∧ o.fieldModel name d = .ok f := by
  induction h with
  | nil => cases hfind
  | @cons first model rest models hmodel _ ih =>
    have hname := name_of_fieldModel hmodel
    by_cases hn : first.name = n
    · rw [List.find?_cons_of_pos (by simpa using hn)] at hfind
      cases hfind
      exact ⟨model, List.find?_cons_of_pos (by simpa [hname] using hn), hmodel⟩
    · rw [List.find?_cons_of_neg (by simpa using hn)] at hfind
      rw [List.find?_cons_of_neg (by simpa [hname] using hn)]
      exact ih hfind

theorem listedFields_of_object {e : ObjectDef} (h : s.get? name = some (.object e)) :
    s.listedFields name = e.fields := by
  simp [Schema.listedFields, h, TypeDef.fields]

variable {k : Connection} {declared : List SelectableField}

/-- The edges of a connection are a list, unless they are a connection. -/
theorem exists_edges (hk : k ∈ s.connections)
    (hdeclared : List.Forall₂ (fun d f => (ofSchema s settings).fieldModel k.type d = .ok f)
      (s.listedFields k.type) declared) :
    ∃ f, declared.find? (·.name = "edges") = some f ∧
      f.category = if ((ofSchema s settings).connection? k.edge).isSome then .connection else .list := by
  obtain ⟨d, e, edges, node, cursor, h⟩ := Schema.exists_paginates hk
  rw [listedFields_of_object h.type_eq] at hdeclared
  obtain ⟨f, hfind, hmodel⟩ := exists_model_of_find? hdeclared h.edges_eq
  refine ⟨f, hfind, ?_⟩
  obtain ⟨target, htarget, _, rfl⟩ := fieldModel_eq_ok_iff.1 hmodel
  rw [schema_ofSchema, h.edges_base, h.edge_eq] at htarget
  cases htarget
  rw [category_fieldOfType, h.edges_base, h.edges_isList]
  rfl

/-- The node of an edge is a reference, unless it is a connection. -/
theorem exists_node (hk : k ∈ s.connections)
    (hdeclared : List.Forall₂ (fun d f => (ofSchema s settings).fieldModel k.edge d = .ok f)
      (s.listedFields k.edge) declared) :
    ∃ f, declared.find? (·.name = "node") = some f ∧
      f.category =
        if ((ofSchema s settings).connection? k.node).isSome then .connection else .reference := by
  obtain ⟨d, e, edges, node, cursor, h⟩ := Schema.exists_paginates hk
  rw [listedFields_of_object h.edge_eq] at hdeclared
  obtain ⟨f, hfind, hmodel⟩ := exists_model_of_find? hdeclared h.node_eq
  refine ⟨f, hfind, ?_⟩
  obtain ⟨target, htarget, _, rfl⟩ := fieldModel_eq_ok_iff.1 hmodel
  rw [schema_ofSchema, h.node_base] at htarget
  have hcomposite : target.isComposite = true := by simpa [Schema.isComposite, htarget]
    using h.node_isComposite
  rw [category_fieldOfType, h.node_base, h.node_isList, hcomposite]
  rfl

/-- The cursor of an edge is a scalar, unless it is the identifier. -/
theorem exists_cursor (hk : k ∈ s.connections)
    (hdeclared : List.Forall₂ (fun d f => (ofSchema s settings).fieldModel k.edge d = .ok f)
      (s.listedFields k.edge) declared) :
    ∃ f, declared.find? (·.name = "cursor") = some f ∧
      f.category = if settings.idField = "cursor" then .id else .scalar := by
  obtain ⟨d, e, edges, node, cursor, h⟩ := Schema.exists_paginates hk
  rw [listedFields_of_object h.edge_eq] at hdeclared
  obtain ⟨f, hfind, hmodel⟩ := exists_model_of_find? hdeclared h.cursor_eq
  refine ⟨f, hfind, ?_⟩
  obtain ⟨target, htarget, _, rfl⟩ := fieldModel_eq_ok_iff.1 hmodel
  rw [schema_ofSchema] at htarget
  have hkind : target.kind = .scalar := by simpa [htarget] using h.cursor_isScalar
  have hplain : target.isComposite = false := by
    cases target <;> first | rfl | cases hkind
  have hname : cursor.name = "cursor" := by simpa using List.find?_some h.cursor_eq
  -- A connection is an object, so a scalar is none.
  have hconnection : ¬ ((ofSchema s settings).connection? cursor.type.base).isSome := by
    rw [isSome_connection?_iff]
    rintro ⟨other, hother, hbase⟩
    obtain ⟨⟨d, hobject⟩, _⟩ := Schema.objects_of_connection hother
    rw [hbase, htarget] at hobject
    cases hobject
    cases hkind
  rw [category_fieldOfType, if_neg hconnection, hplain, h.cursor_isList, hname]
  simp [ofSchema, eq_comm]

theorem categoryOf_of_isConnection (h : s.IsConnection name) :
    (ofSchema s settings).categoryOf name = .connection := by
  rw [categoryOf, if_pos (isSome_connection?_iff.2 h)]

theorem categoryOf_of_edge (h : ¬ s.IsConnection name) (hedge : ∃ k ∈ s.connections, k.edge = name) :
    (ofSchema s settings).categoryOf name = .edge := by
  rw [categoryOf, if_neg (isSome_connection?_iff.not.2 h), if_pos (isEdge_iff.2 hedge)]

/-- A type that is neither a connection nor an edge has nothing to fit. -/
theorem fits_of_category (h : (ofSchema s settings).categoryOf name = .object) :
    s.Fits settings.idField name := by
  have hconnection : ¬ s.IsConnection name := by
    intro hconnection
    rw [categoryOf_of_isConnection hconnection] at h
    cases h
  have hedge : ¬ ∃ k ∈ s.connections, k.edge = name := by
    intro hedge
    rw [categoryOf_of_edge hconnection hedge] at h
    cases h
  exact ⟨fun k hk hname => absurd ⟨k, hk, hname⟩ hconnection,
    fun _ k hk hname => absurd ⟨k, hk, hname⟩ hedge,
    fun _ k hk hname => absurd ⟨k, hk, hname⟩ hedge⟩

/-- The type has all fields that a category asks for, of the categories that are asked for. -/
def Meets (declared : List SelectableField) (category : TypeCategory) : Prop :=
  ∀ r ∈ SelectableType.requiredFields category,
    ∃ f, declared.find? (·.name = r.1) = some f ∧ f.category = r.2

theorem meets_connection_iff (h : s.IsConnection name)
    (hdeclared : List.Forall₂ (fun d f => (ofSchema s settings).fieldModel name d = .ok f)
      (s.listedFields name) declared) :
    Meets declared .connection ↔ s.Fits settings.idField name := by
  constructor
  · intro hmeets
    -- Of a connection only the edges have to fit, and they do not if they are found to be a
    -- connection.
    refine ⟨?_, fun hnot => absurd h hnot, fun hnot => absurd h hnot⟩
    rintro k hk rfl hedge
    obtain ⟨f, hfind, hlist⟩ := hmeets ("edges", .list) (by decide)
    obtain ⟨g, hg, hedges⟩ := exists_edges hk hdeclared
    rw [if_pos (isSome_connection?_iff.2 hedge)] at hedges
    cases hfind.symm.trans hg
    cases hlist.symm.trans hedges
  · rintro hfits r hr
    obtain ⟨k, hk, rfl⟩ := h
    obtain rfl : r = ("edges", .list) := List.mem_singleton.1 hr
    obtain ⟨f, hfind, hedges⟩ := exists_edges hk hdeclared
    rw [if_neg (isSome_connection?_iff.not.2 (hfits.edges k hk rfl))] at hedges
    exact ⟨f, hfind, hedges⟩

theorem meets_edge_iff (h : ¬ s.IsConnection name) (hedge : ∃ k ∈ s.connections, k.edge = name)
    (hdeclared : List.Forall₂ (fun d f => (ofSchema s settings).fieldModel name d = .ok f)
      (s.listedFields name) declared) :
    Meets declared .edge ↔ s.Fits settings.idField name := by
  constructor
  · intro hmeets
    refine ⟨fun k hk hname => absurd ⟨k, hk, hname⟩ h, ?_, ?_⟩
    · rintro - k hk rfl hnode
      obtain ⟨f, hfind, hreference⟩ := hmeets ("node", .reference) (by decide)
      obtain ⟨g, hg, hcategory⟩ := exists_node hk hdeclared
      rw [if_pos (isSome_connection?_iff.2 hnode)] at hcategory
      cases hfind.symm.trans hg
      cases hreference.symm.trans hcategory
    · rintro - k hk rfl hid
      obtain ⟨f, hfind, hscalar⟩ := hmeets ("cursor", .scalar) (by decide)
      obtain ⟨g, hg, hcategory⟩ := exists_cursor hk hdeclared
      rw [if_pos hid] at hcategory
      cases hfind.symm.trans hg
      cases hscalar.symm.trans hcategory
  · rintro hfits r hr
    obtain ⟨k, hk, rfl⟩ := hedge
    rcases List.mem_cons.1 hr with rfl | hr
    · obtain ⟨f, hfind, hnode⟩ := exists_node hk hdeclared
      rw [if_neg (isSome_connection?_iff.not.2 (hfits.node h k hk rfl))] at hnode
      exact ⟨f, hfind, hnode⟩
    · obtain rfl : r = ("cursor", .scalar) := List.mem_singleton.1 hr
      obtain ⟨f, hfind, hcursor⟩ := exists_cursor hk hdeclared
      rw [if_neg (hfits.cursor h k hk rfl)] at hcursor
      exact ⟨f, hfind, hcursor⟩

/-- A type has the fields that its category asks for if and only if it fits. -/
theorem meets_iff_fits
    (hdeclared : List.Forall₂ (fun d f => (ofSchema s settings).fieldModel name d = .ok f)
      (s.listedFields name) declared) :
    Meets declared ((ofSchema s settings).categoryOf name) ↔ s.Fits settings.idField name := by
  by_cases hconnection : s.IsConnection name
  · rw [categoryOf_of_isConnection hconnection]
    exact meets_connection_iff hconnection hdeclared
  · by_cases hedge : ∃ k ∈ s.connections, k.edge = name
    · rw [categoryOf_of_edge hconnection hedge]
      exact meets_edge_iff hconnection hedge hdeclared
    · have hobject : (ofSchema s settings).categoryOf name = .object := by
        rw [categoryOf, if_neg (isSome_connection?_iff.not.2 hconnection),
          if_neg (isEdge_iff.not.2 hedge)]
      rw [hobject]
      exact iff_of_true (fun r hr => absurd hr List.not_mem_nil) (fits_of_category hobject)

/-! ## Refused schemas -/

/-- If the failure is that a type is not what its category asks for, then that type does not fit. -/
def BlamesMisfit (s : Schema) (idField : String) (failure : Error) : Prop :=
  ∀ type fault, failure = .invalidType type fault → fault.isOfCategory = true →
    ¬ s.Fits idField type

/-- What a type lists is all declared if nothing is above it. -/
theorem filter_isInherited_nil {listed : List FieldDef} :
    listed.filter (!isInherited s [] ·) = listed :=
  List.filter_eq_self.2 fun _ _ => rfl

theorem superNames_of_category (h : o.categoryOf name ≠ .object) : o.superNames name = [] := by
  rw [superNames, if_pos h]

theorem blamesMisfit_make? {superTypes : List SelectableType}
    (hsupers : (ofSchema s settings).categoryOf name ≠ .object → superTypes = [])
    (hdeclared : List.Forall₂ (fun d f => (ofSchema s settings).fieldModel name d = .ok f)
      ((s.listedFields name).filter (!isInherited s superTypes ·)) declared) :
    OnlyFails (BlamesMisfit s settings.idField)
      (SelectableType.make? name ((ofSchema s settings).categoryOf name) superTypes declared) := by
  rintro failure hmake type fault rfl hfault hfits
  obtain ⟨rfl, ⟨r, hr, hrequired⟩ | ⟨hclass, hsome⟩⟩ := SelectableType.of_make?_eq_error hmake hfault
  · -- Something is required, so this is a connection or an edge. Nothing is above it, and it
    -- declares all that it lists.
    have hclass : (ofSchema s settings).categoryOf type ≠ .object := by
      intro hobject
      rw [hobject] at hr
      cases hr
    rw [hsupers hclass, filter_isInherited_nil] at hdeclared
    exact hrequired (SelectableType.requireField_eq_ok_iff.2 ((meets_iff_fits hdeclared).2 hfits r hr))
  · exact hsome (hsupers hclass)

theorem blamesMisfit_typeOf (s : Schema) (settings : Settings) (name : String) :
    OnlyFails (BlamesMisfit s settings.idField) ((ofSchema s settings).typeOf name) := by
  apply onlyFails_typeOf
  · rintro _ _ _ _ ⟨⟩
  · intro type superTypes declared hsupers hdeclared
    refine blamesMisfit_make? (fun hclass => ?_) hdeclared
    rw [superNames_of_category hclass] at hsupers
    exact List.forall₂_nil_left_iff.1 hsupers

/-- Types that can be modelled fit. -/
theorem fits_of_typeOf {t : SelectableType} (h : (ofSchema s settings).typeOf name = .ok t) :
    s.Fits settings.idField name := by
  by_cases hclass : (ofSchema s settings).categoryOf name = .object
  · exact fits_of_category hclass
  · rw [typeOf_eq] at h
    split at h
    · cases h
    · obtain ⟨superTypes, hsupers, hover⟩ := bind_eq_ok_iff.1 h
      rw [superNames_of_category hclass, List.mapM_nil] at hsupers
      cases hsupers
      obtain ⟨declared, hdeclared, hmake⟩ := modelOver_eq_ok_iff.1 hover
      rw [filter_isInherited_nil] at hdeclared
      obtain ⟨_, hrequired, _⟩ := SelectableType.make?_eq_ok_iff.1 hmake
      exact (meets_iff_fits hdeclared).1 fun r hr =>
        SelectableType.requireField_eq_ok_iff.1 (hrequired r hr)

end Outline

namespace Catalog

variable {c : Catalog} {s : Schema} {settings : Settings} {name : String}

theorem blamesMisfit_ofSchema :
    OnlyFails (Outline.BlamesMisfit s settings.idField) (ofSchema s settings) := by
  refine onlyFails_ofSchema (Settings.onlyFails_validate ?_) (onlyFails_checkRoots ?_ ?_)
    (Outline.blamesMisfit_typeOf s settings)
  · rintro _ _ _ ⟨⟩
  · rintro _ _ _ _ ⟨⟩
  · rintro _ _ _ _ ⟨⟩ ⟨⟩

/-- The types of a schema that can be modelled all fit. -/
theorem fits_of_ofSchema (hc : ofSchema s settings = .ok c) (name : String) :
    s.Fits settings.idField name := by
  by_cases hclass : (Outline.ofSchema s settings).categoryOf name = .object
  · exact Outline.fits_of_category hclass
  · obtain ⟨d, hd⟩ := Outline.exists_object_of_categoryOf hclass
    have hname : name ∈ s.compositeNames := Schema.mem_compositeNames_iff.2 ⟨_, hd, rfl⟩
    obtain ⟨t, _, hmodel⟩ := exists_of_mem_left (ofSchema_eq_ok hc).2 hname
    rw [(ofSchema_eq_ok hc).1] at hmodel
    exact Outline.fits_of_typeOf hmodel

/-- A connection or an edge has the fields that its category asks for if and only if it fits. So a schema
is refused because a type is not what its category asks for only if that type does not fit, and it is
refused if any type does not. -/
theorem classified_meet_iff_fit (s : Schema) (settings : Settings) :
    (∀ name declared, (Outline.ofSchema s settings).categoryOf name ≠ .object →
      (s.listedFields name).mapM ((Outline.ofSchema s settings).fieldModel name) = .ok declared →
      ((∀ r ∈ SelectableType.requiredFields ((Outline.ofSchema s settings).categoryOf name),
          ∃ f, declared.find? (·.name = r.1) = some f ∧ f.category = r.2) ↔
        s.Fits settings.idField name)) ∧
    (∀ name fault, ofSchema s settings = .error (.invalidType name fault) →
      fault.isOfCategory = true → ¬ s.Fits settings.idField name) ∧
    ∀ c, ofSchema s settings = .ok c → ∀ name, s.Fits settings.idField name := by
  refine ⟨fun name declared _ hdeclared => ?_, fun name fault hfault => ?_, fun c hc => ?_⟩
  · exact Outline.meets_iff_fits (mapM_eq_ok_iff.1 hdeclared)
  · exact blamesMisfit_ofSchema _ hfault name fault rfl
  · exact fits_of_ofSchema hc

/-- A connection of books. -/
def library : Schema where
  types := [
    .object ⟨"Shelf", [], [⟨"edges", .list (.named "Place"), []⟩]⟩,
    .object ⟨"Place", [], [⟨"node", .named "Book", []⟩, ⟨"cursor", .named "String", []⟩]⟩,
    .object ⟨"Book", [], [⟨"id", .named "ID", []⟩]⟩,
    .scalar "ID", .scalar "String"]
  roots := .unset
  distinct := by decide

theorem classified_meet_iff_fit_library : ∃ c, ofSchema library {} = .ok c ∧
    (Outline.ofSchema library {}).categoryOf "Place" = .edge ∧
    library.Fits ({} : Settings).idField "Place" := by
  obtain ⟨c, hc⟩ := exists_of_isOk (x := ofSchema library {}) (by cbv)
  exact ⟨c, hc, by decide, (classified_meet_iff_fit library {}).2.2 c hc "Place"⟩

/-- A connection whose nodes are connections of the same kind. -/
def chain : Schema where
  types := [
    .object ⟨"Chain", [], [⟨"edges", .list (.named "Link"), []⟩]⟩,
    .object ⟨"Link", [], [⟨"node", .named "Chain", []⟩, ⟨"cursor", .named "String", []⟩]⟩,
    .scalar "String"]
  roots := .unset
  distinct := by decide

/-- The links of a chain are classified as edges, and refused because they are none. -/
theorem refuses_chain : (Outline.ofSchema chain {}).categoryOf "Link" = .edge ∧
    ofSchema chain {} =
      .error (.invalidType "Link" (.wrongCategory "node" .reference .connection)) := by
  refine ⟨by decide, ?_⟩
  cbv

end Catalog

end TypedQuery
