-- SUMMARY: Writing takes its course: acts that depend on the sheet only, and a result.
import TypedQuery.Proofs.Emit.Indentation
import TypedQuery.Proofs.Fallible

/-!
# Writing takes its course

`Writing.Follows` says that writing does the acts of a course to the page it is given, whatever stands
there already, and ends as the course says. Every operation follows its course. So a page on which
operations were carried out, failed ones included, holds the layout of their draft: `Op.body_replay`.
-/
namespace TypedQuery

namespace Course

variable {c : Course} {next : Bool → Course}

theorem andThen_of_error {failure : Error} (h : c.result = .error failure) : c.andThen next = c := by
  rw [andThen, h]

theorem andThen_of_ok (h : c.result = .ok ()) :
    c.andThen next = { next c.closed with acts := c.acts ++ (next c.closed).acts } := by
  rw [andThen, h]

/-- Courses that succeed one after the other do what either of them does. -/
theorem ok_of_andThen (h : (c.andThen next).result = .ok ()) :
    c.result = .ok () ∧ (next c.closed).result = .ok () ∧
      (c.andThen next).acts = c.acts ++ (next c.closed).acts := by
  cases hfirst : c.result with
  | error failure =>
    rw [andThen_of_error hfirst, hfirst] at h
    cases h
  | ok _ =>
    rw [andThen_of_ok hfirst] at h ⊢
    exact ⟨rfl, h, rfl⟩

theorem andThen_assoc {last : Bool → Course} :
    (c.andThen next).andThen last = c.andThen fun closed => (next closed).andThen last := by
  cases hfirst : c.result with
  | error failure => simp only [andThen, hfirst]
  | ok _ =>
    cases hsecond : (next c.closed).result with
    | error failure => simp only [andThen, hfirst, hsecond]
    | ok _ => simp only [andThen, hfirst, hsecond, List.append_assoc]

end Course

theorem Op.courseAll_append {sheet : Sheet} {first second : List Op} {closed : Bool} :
    courseAll sheet (first ++ second) closed =
      (courseAll sheet first closed).andThen (courseAll sheet second) := by
  induction first generalizing closed with
  | nil => rfl
  | cons op rest ih =>
    rw [List.cons_append, courseAll, courseAll, Course.andThen_assoc]
    exact congrArg _ (funext fun _ => ih)

/-! ## Writing -/

namespace Writing

variable {α β : Type}

/-- How writing ends that takes a course on a page. -/
structure Leads (c : Course) (p : Page) (result : Except Error α) (after : Page) : Prop where
  result : result.map (fun _ => ()) = c.result
  after : after = (p.perform c.acts).under p.schema c.closed

/-- On every page, the writing takes the course that belongs to the sheet. -/
def Follows (w : Writing α) (course : Sheet → Bool → Course) : Prop :=
  ∀ p, Leads (course p.sheet p.importsClosed) p (w p).1 (w p).2

namespace Leads

variable {c : Course} {p after : Page} {result : Except Error α}

theorem sheet (h : Leads c p result after) : after.sheet = p.sheet := by
  have hsheet : (p.perform c.acts).sheet = p.sheet := Page.sheet_perform.1
  have hschema : (p.perform c.acts).schema = p.schema := Page.schema_perform
  rw [h.after, ← hsheet, ← hschema]
  rfl

theorem closed (h : Leads c p result after) : after.importsClosed = c.closed := by
  rw [h.after]
  rfl

theorem lays {d : Draft} (h : Leads c p result after) (hlays : p.Lays d) :
    after.Lays (d.perform c.acts) := by
  obtain ⟨hregions, hpending, hbody⟩ : (p.perform c.acts).Lays (d.perform c.acts) := hlays.perform
  rw [h.after]
  exact ⟨hregions, hpending, hbody⟩

end Leads

theorem bind_run {x : Writing α} {f : α → Writing β} {p : Page} :
    (x >>= f) p =
      match x p with
      | (.ok a, after) => f a after
      | (.error failure, after) => (.error failure, after) := by
  change ExceptT.bindCont f (x p).1 (x p).2 = _
  rcases x p with ⟨_ | _, _⟩ <;> rfl

/-- Acts on the page, one after the other. -/
def doing (acts : List Act) : Writing Unit := change fun p => p.perform acts

/-- Writing that fails and leaves the page as it is. -/
theorem Leads.failing {p : Page} {failure : Error} :
    Leads { result := .error failure, closed := p.importsClosed } p
      (.error failure : Except Error α) p :=
  ⟨rfl, rfl⟩

theorem Leads.doing {p : Page} {acts : List Act} :
    Leads (.doing p.importsClosed acts) p (.ok () : Except Error Unit) (p.perform acts) := by
  have hclosed : (p.perform acts).importsClosed = p.importsClosed := Page.sheet_perform.2
  refine ⟨rfl, ?_⟩
  rw [← hclosed, ← Page.schema_perform]
  rfl

theorem follows_doing (acts : List Act) :
    (doing acts).Follows fun _ closed => .doing closed acts :=
  fun _ => .doing

theorem Follows.bind {x : Writing α} {f : α → Writing β} {first next : Sheet → Bool → Course}
    (hx : x.Follows first) (hf : ∀ a, (f a).Follows next) :
    (x >>= f).Follows fun sheet closed => (first sheet closed).andThen (next sheet) := by
  intro p
  have hfirst := hx p
  rw [bind_run]
  rcases hrun : x p with ⟨failure | a, after⟩ <;> rw [hrun] at hfirst
  · dsimp only
    rw [Course.andThen_of_error hfirst.result.symm]
    exact ⟨hfirst.result, hfirst.after⟩
  · dsimp only
    obtain ⟨hresult, hafter⟩ := hf a after
    -- The rest takes its course on the page that was left. That page has the same sheet, and the
    -- acts of the rest do not look at whether its imports are closed.
    have hschema : after.schema = p.schema := congrArg Sheet.schema hfirst.sheet
    have hsame : p.schema.get? = (p.perform (first p.sheet p.importsClosed).acts).schema.get? := by
      rw [Page.schema_perform]
    rw [hfirst.sheet, hfirst.closed, hschema] at hafter
    rw [hfirst.sheet, hfirst.closed] at hresult
    rw [Course.andThen_of_ok hfirst.result.symm]
    refine ⟨hresult, ?_⟩
    rw [hafter, show after = _ from hfirst.after, Page.perform_under hsame, Page.perform_append]
    rfl

/-- A result that is given afterwards makes no difference. -/
theorem Follows.andReturn {x : Writing α} {course : Sheet → Bool → Course} {b : β}
    (hx : x.Follows course) : (x >>= fun _ => pure b).Follows course := by
  intro p
  obtain ⟨hresult, hafter⟩ := hx p
  rw [bind_run]
  rcases hrun : x p with ⟨_ | _, _⟩ <;> rw [hrun] at hresult hafter
  · exact ⟨hresult, hafter⟩
  · exact ⟨hresult, hafter⟩

/-- What is written may depend on the settings. -/
theorem Follows.ofSettings {f : Settings → Writing α} {course : Settings → Sheet → Bool → Course}
    (h : ∀ settings, (f settings).Follows (course settings)) :
    (do f (← get).settings : Writing α).Follows fun sheet => course sheet.settings sheet :=
  fun p => h p.settings p

/-- A region is left, whether what is written inside fails or not. -/
theorem Follows.region {kind : RegionKind} {multiline : Bool} {inside : Writing Unit}
    {course : Sheet → Bool → Course} (h : inside.Follows course) :
    (region kind multiline inside).Follows fun sheet closed =>
      { course sheet closed with
        acts := .enter kind multiline :: (course sheet closed).acts ++ [.leave ""] } := by
  intro p
  obtain ⟨hsheet, hclosed⟩ := Page.sheet_act (p := p) (a := .enter kind multiline)
  have hschema : (p.act (.enter kind multiline)).schema = p.schema := congrArg Sheet.schema hsheet
  obtain ⟨hresult, hafter⟩ := h (p.act (.enter kind multiline))
  rw [hsheet, hclosed] at hresult hafter
  rw [hschema] at hafter
  have hsame : p.schema.get? = ((p.act (.enter kind multiline)).perform
      (course p.sheet p.importsClosed).acts).schema.get? := by
    rw [Page.schema_perform, hschema]
  have hacts : p.perform (.enter kind multiline :: (course p.sheet p.importsClosed).acts ++
        [.leave ""]) =
      ((p.act (.enter kind multiline)).perform (course p.sheet p.importsClosed).acts).act
        (.leave "") :=
    Page.perform_append
  refine ⟨hresult, ?_⟩
  dsimp only
  rw [hacts, ← Page.act_under hsame, ← hafter]
  rfl

/-! ## Types -/

theorem follows_namedType {name : String} {standIn : Option String} :
    (namedType name standIn).Follows fun sheet => .ofNamed sheet name standIn := by
  intro p
  have hdoing (acts : List Act) : Leads (.doing p.importsClosed acts) p
      (.ok () : Except Error Unit) (p.perform acts) := .doing
  unfold namedType Course.ofNamed
  simp only [Page.sheet]
  cases p.schema.get? name with
  | none => exact .failing
  | some found =>
    cases found with
    | scalar _ =>
      cases scalarType? p.settings name with
      | none => exact .failing
      | some target => exact hdoing [.text target]
    | object _ => exact hdoing [.text (standIn.getD name)]
    | interface _ => exact hdoing [.text (standIn.getD name)]
    | enum _ => exact hdoing [.text name]
    | input _ => exact hdoing [.text name]
    | union u =>
      cases standIn with
      | some s => exact hdoing [.text s]
      | none =>
        have hmembers (q : Page) : u.members.foldl (fun q m => (q.separate (some " | ")).text m) q =
            q.perform (u.members.flatMap fun m => [.separate (some " | "), .text m]) := by
          induction u.members generalizing q with
          | nil => rfl
          | cons m rest ih => exact ih _
        have hall := hdoing (Act.enter .blank false ::
          u.members.flatMap (fun m => [Act.separate (some " | "), Act.text m]) ++ [Act.leave ""])
        rw [Page.perform_append] at hall
        simp only [hmembers]
        exact hall

theorem follows_typeRef (type : TypeRef) (standIn : Option String) :
    (typeRef type standIn).Follows fun sheet => .ofRef sheet standIn type := by
  induction type with
  | named name => exact follows_namedType
  | nonNull inner ih => exact ih
  | list item ih =>
    have hrest (array : String) := (follows_doing [Act.text array, Act.enter .generic false]).bind
      fun _ => ih.bind fun _ => follows_doing
        ((if item.isNullable then [Act.text " | undefined"] else []) ++ [Act.leave ""])
    have hlist := Follows.ofSettings fun settings =>
      hrest (if settings.arraysEditable then "Array" else "ReadonlyArray")
    have hacts : typeRef (.list item) standIn = (do
        let settings := (← get).settings
        doing [Act.text (if settings.arraysEditable then "Array" else "ReadonlyArray"),
          Act.enter .generic false]
        typeRef item standIn
        doing ((if item.isNullable then [Act.text " | undefined"] else []) ++ [Act.leave ""])) := by
      rw [typeRef]
      cases item.isNullable <;> rfl
    rw [hacts]
    exact hlist

theorem follows_property {name : String} {type : TypeRef} {standIn : Option String} :
    (property name type standIn).Follows fun sheet closed =>
      (Course.doing closed ([Act.text (readonlyWord sheet.settings), Act.text name] ++
        (if type.isNullable then [Act.text "?"] else []) ++ [Act.text ": "])).andThen
        (.ofRef sheet standIn type) := by
  have hrest (word : String) := (follows_doing ([Act.text word, Act.text name] ++
    (if type.isNullable then [Act.text "?"] else []) ++ [Act.text ": "])).bind
      fun _ => follows_typeRef type standIn
  have hproperty := Follows.ofSettings fun settings => hrest (readonlyWord settings)
  have hacts : property name type standIn = (do
      let settings := (← get).settings
      doing ([Act.text (readonlyWord settings), Act.text name] ++
        (if type.isNullable then [Act.text "?"] else []) ++ [Act.text ": "])
      typeRef type standIn) := by
    rw [property]
    cases type.isNullable <;> rfl
  rw [hacts]
  exact hproperty

/-! ## Imports -/

theorem follows_changeImports {f : Page → Page} {a : Act} (h : ∀ p, f p = p.act a) :
    (changeImports f).Follows fun _ => .ofImport [a] := by
  intro p
  unfold changeImports Course.ofImport
  have hdoing : Leads (.doing p.importsClosed [a]) p (.ok () : Except Error Unit) (p.act a) := .doing
  have hfailing : Leads { result := .error .importsClosed, closed := p.importsClosed } p
      (.error .importsClosed : Except Error Unit) p := .failing
  cases hclosed : p.importsClosed <;> rw [hclosed] at hdoing hfailing
  · exact h p ▸ hdoing
  · exact hfailing

theorem ofImport_andThen {acts others : List Act} {closed : Bool} :
    (Course.ofImport acts closed).andThen (.ofImport others) = .ofImport (acts ++ others) closed := by
  cases closed <;> rfl

theorem follows_importType (type : TypeRef) :
    (importType type).Follows fun _ => .ofImport [.addType type] :=
  follows_changeImports fun _ => rfl

theorem follows_importField {f : FieldDef} : (importField f).Follows fun _ =>
    .ofImport (.addType f.type :: f.arguments.map fun a => .addType a.type) := by
  have hall (type : TypeRef) (arguments : List InputValue) :
      (do importType type; arguments.forM fun a => importType a.type).Follows
        fun _ => .ofImport (.addType type :: arguments.map fun a : InputValue => .addType a.type) := by
    induction arguments generalizing type with
    | nil => exact (follows_importType type).andReturn
    | cons a rest ih =>
      have hfirst := (follows_importType type).bind fun _ => ih a.type
      simp only [ofImport_andThen] at hfirst
      exact hfirst
  exact hall f.type f.arguments

end Writing

/-! ## Operations -/

namespace Op

open Writing

mutual

/-- An operation takes its course, on every page. -/
theorem follows_run : (op : Op) → op.run.Follows fun sheet => op.course sheet
  | text s => (follows_doing [.text s]).andReturn
  | enter kind multiline => (follows_doing [.enter kind multiline]).andReturn
  | leave => (follows_doing [.leave ""]).andReturn
  | leaveWith suffix => (follows_doing [.leave suffix]).andReturn
  | separator s => (follows_doing [.separate s]).andReturn
  | literal s => (follows_doing [.text ("'" ++ s ++ "'")]).andReturn
  | property _ _ _ => follows_property.andReturn
  | typeRef type standIn => (follows_typeRef type standIn).andReturn
  | importStatement statement =>
    (follows_changeImports (a := .addStatement statement) fun _ => rfl).andReturn
  | importType type => (follows_importType type).andReturn
  | importField _ => follows_importField.andReturn
  | closeImports => fun _ => ⟨rfl, rfl⟩
  | readonlyWord => fun _ => ⟨rfl, rfl⟩
  | region _ _ inside => (follows_runAll inside).region.andReturn

theorem follows_runAll : (ops : List Op) → (runAll ops).Follows fun sheet => courseAll sheet ops
  | [] => fun _ => ⟨rfl, rfl⟩
  | op :: rest => (follows_run op).bind fun _ => follows_runAll rest

end

/-- What operations do to a page up to the first that fails, and how that ends. -/
theorem runAll_eq {ops : List Op} {p : Page} : runAll ops p =
    let c := courseAll p.sheet ops p.importsClosed
    (c.result, (p.perform c.acts).under p.schema c.closed) := by
  obtain ⟨hresult, hafter⟩ := follows_runAll ops p
  exact Prod.ext (map_unit.symm.trans hresult) hafter

variable {sheet : Sheet} {p : Page} {d : Draft}

/-- Operations that are all carried out lay out their acts. -/
theorem lays_replay (ops : List Op) (h : p.Lays d) :
    (replay p ops).2.sheet = p.sheet ∧
      (replay p ops).2.Lays (d.perform (actsOfAll p.sheet p.importsClosed ops)) := by
  induction ops generalizing p d with
  | nil => exact ⟨rfl, h⟩
  | cons op rest ih =>
    have hop := follows_run op p
    obtain ⟨hsheet, hlays⟩ := ih (hop.lays h)
    rw [hop.sheet, hop.closed] at hlays
    refine ⟨hsheet.trans hop.sheet, ?_⟩
    rw [actsOfAll, Draft.perform, List.foldl_append]
    exact hlays

theorem replay_append {before after : List Op} :
    (replay p (before ++ after)).2 = (replay (replay p before).2 after).2 := by
  induction before generalizing p with
  | nil => rfl
  | cons op rest ih => exact ih

theorem replay_texts {pieces : List String} :
    (replay p (pieces.map .text)).2 = pieces.foldl (fun p s => p.text s) p := by
  induction pieces generalizing p with
  | nil => rfl
  | cons s rest ih => exact ih

/-- The body of a fresh page on which operations are carried out, the ones that fail included, is the
layout of their draft: the indentation is inserted at the beginning of lines, as deep as the character
behind it is, and nothing else happens to what the operations ask for. How a text is cut into pieces
makes no difference, wherever it stands. -/
theorem body_replay {ops : List Op} :
    (replay sheet.fresh ops).2.body.toList =
        layout sheet.settings.indent.toList false (draft sheet ops).strokes ∧
      (replay sheet.fresh ops).2.regions = (draft sheet ops).regions ∧
      ∀ before pieces after,
        (replay sheet.fresh (before ++ pieces.map .text ++ after)).2 =
          (replay sheet.fresh (before ++ [Op.text (String.join pieces)] ++ after)).2 := by
  obtain ⟨hsheet, hlays⟩ := lays_replay ops sheet.lays_fresh
  refine ⟨?_, hlays.regions, fun before pieces after => ?_⟩
  · have hsettings : (replay sheet.fresh ops).2.settings = sheet.settings :=
      congrArg Sheet.settings hsheet
    rw [hlays.body, hsettings]
    rfl
  · rw [replay_append, replay_append, replay_append, replay_append, replay_texts, Page.foldl_text]
    rfl

-- The line breaks at both ends of a region lie outside of it, those that are written inside do not.
example {sheet : Sheet} :
    (draft sheet [.region .block true [.text "a", .text ";\n\n", .text "b"]]).strokes =
      Stroke.ofText 0 "\x7b\n" ++ Stroke.ofText 1 "a;\n\nb" ++ Stroke.ofText 0 "\n\x7d" := by
  rfl

end Op

end TypedQuery
