-- SUMMARY: When a conflict among inherited fields is reported, and when there is one.
import TypedQuery.Proofs.Model.Family

/-!
# Conflicts among inherited fields

A type is in conflict about a field that it does not declare if its super types disagree about it.
That is to say that the declarations that are nearest to the type disagree (`diamondConflict_iff`),
whatever they override. The walk compares every declaration with the first one that it has met, and
spares those only that are met on a way through the type of the first one: `reports_harvest_iff`.
So it reports every conflict, and also a field that two types have overridden alike. Fields are alike
whatever the order of their arguments.
-/
namespace TypedQuery

/-! ## Fields that are alike -/

/-- The fields are alike in every part; their arguments may be listed in another order. -/
structure SelectableField.Alike (f g : SelectableField) : Prop where
  name : f.name = g.name
  category : f.category = g.category
  arguments : f.arguments.Perm g.arguments
  target : f.target = g.target
  connection : f.connection = g.connection
  edge : f.edge = g.edge
  undefinable : f.undefinable = g.undefinable

namespace SelectableField

variable {f g h : SelectableField}

theorem same_iff_alike : f.Same g ↔ f.Alike g := by
  obtain ⟨name, category, arguments, target, connection, edge, undefinable⟩ := f
  obtain ⟨name', category', arguments', target', connection', edge', undefinable'⟩ := g
  simp only [Same, mk.injEq, true_and]
  constructor
  · rintro ⟨⟨hname, hcategory, htarget, hconnection, hedge, hundefinable⟩, harguments⟩
    exact ⟨hname, hcategory, harguments, htarget, hconnection, hedge, hundefinable⟩
  · intro h
    exact ⟨⟨h.name, h.category, h.target, h.connection, h.edge, h.undefinable⟩, h.arguments⟩

instance (f g : SelectableField) : Decidable (f.Alike g) := decidable_of_iff _ same_iff_alike

theorem Alike.refl (f : SelectableField) : f.Alike f := ⟨rfl, rfl, .refl _, rfl, rfl, rfl, rfl⟩

theorem Alike.symm (h : f.Alike g) : g.Alike f :=
  ⟨h.name.symm, h.category.symm, h.arguments.symm, h.target.symm, h.connection.symm, h.edge.symm,
    h.undefinable.symm⟩

theorem Alike.trans (hfirst : f.Alike g) (hsecond : g.Alike h) : f.Alike h :=
  ⟨hfirst.name.trans hsecond.name, hfirst.category.trans hsecond.category,
    hfirst.arguments.trans hsecond.arguments, hfirst.target.trans hsecond.target,
    hfirst.connection.trans hsecond.connection, hfirst.edge.trans hsecond.edge,
    hfirst.undefinable.trans hsecond.undefinable⟩

end SelectableField

namespace SelectableType

variable {t u v w : SelectableType} {n origin type : String} {f g : SelectableField}
  {path : List String} {h : Harvest} {declared : List SelectableField}

/-! ## Conflicts -/

/-- The type does not declare the field, and its super types disagree about it: two immediate ones
have fields of the name that are not alike, or an immediate one is in conflict about it. -/
inductive DiamondConflict (n : String) : SelectableType → Prop
  | between {t u v : SelectableType} {f g : SelectableField} : ¬ t.declares n →
      u ∈ t.superTypes → v ∈ t.superTypes → u.field? n = some f → v.field? n = some g → ¬ f.Alike g →
      DiamondConflict n t
  | above {t u : SelectableType} : ¬ t.declares n → u ∈ t.superTypes → DiamondConflict n u →
      DiamondConflict n t

/-- Both types have a field of the name, and the two are alike. -/
def Agree (n : String) (t u : SelectableType) : Prop :=
  ∃ f g, t.field? n = some f ∧ u.field? n = some g ∧ f.Alike g

theorem Agree.symm (h : Agree n t u) : Agree n u t := by
  obtain ⟨f, g, hf, hg, hsame⟩ := h
  exact ⟨g, f, hg, hf, hsame.symm⟩

theorem Agree.trans (hfirst : Agree n t u) (hsecond : Agree n u v) : Agree n t v := by
  obtain ⟨f, g, hf, hg, hsame⟩ := hfirst
  obtain ⟨g', h, hg', hh, hlast⟩ := hsecond
  obtain rfl : g = g' := Option.some.inj (hg.symm.trans hg')
  exact ⟨f, h, hf, hh, hsame.trans hlast⟩

/-- Types with one and the same field agree about it. -/
theorem Agree.of_field?_eq (hf : t.field? n = some f) (hg : u.field? n = some f) : Agree n t u :=
  ⟨f, f, hf, hg, .refl f⟩

/-- The second type declares the field, and on some way up to it from the first type it is the only
one that does. -/
inductive Nearest (n : String) : SelectableType → SelectableType → Prop
  | self {t : SelectableType} : t.declares n → Nearest n t t
  | above {t u v : SelectableType} : ¬ t.declares n → u ∈ t.superTypes → Nearest n u v →
      Nearest n t v

theorem Nearest.declares (h : Nearest n t u) : u.declares n := by
  induction h with
  | self h => exact h
  | above _ _ _ ih => exact ih

theorem mem_family_of_mem_superTypes (hu : u ∈ t.superTypes) (hv : v ∈ u.family) :
    v ∈ t.family := by
  rw [family_eq]
  exact List.mem_cons_of_mem _ (List.mem_flatMap.2 ⟨u, hu, hv⟩)

theorem Nearest.mem_family (h : Nearest n t u) : u ∈ t.family := by
  induction h with
  | self _ => exact mem_family_self
  | above _ hu _ ih => exact mem_family_of_mem_superTypes hu ih

/-- A type has a field if some declaration is nearest. -/
theorem Nearest.exists_field (h : Nearest n t u) : ∃ f, t.field? n = some f := by
  refine Option.ne_none_iff_exists'.1 fun hnone => ?_
  exact field?_eq_none_iff.1 hnone u h.mem_family h.declares

/-- The field of a type is one of those that are nearest. -/
theorem exists_nearest (hfield : t.field? n = some f) :
    ∃ u, Nearest n t u ∧ u.field? n = some f := by
  induction t using induction_superTypes with
  | step t ih =>
    by_cases hdeclares : t.declares n
    · exact ⟨t, .self hdeclares, hfield⟩
    · rw [field?_of_not_declares hdeclares] at hfield
      obtain ⟨u, hu, hfield⟩ := List.exists_of_findSome?_eq_some hfield
      obtain ⟨v, hv, hfield⟩ := ih u hu hfield
      exact ⟨v, .above hdeclares hu hv, hfield⟩

/-- A type has another field than the one nearest to it only if it is in conflict. -/
theorem diamondConflict_of_nearest (hu : Nearest n t u) (hv : Nearest n t v)
    (hne : ¬ Agree n u v) : t.DiamondConflict n := by
  induction t using induction_superTypes generalizing u v with
  | step t ih =>
    cases hu with
    | self hdeclares =>
      cases hv with
      | self _ =>
        obtain ⟨f, hf⟩ := (Nearest.self hdeclares).exists_field
        exact absurd (.of_field?_eq hf hf) hne
      | above hnot _ _ => exact absurd hdeclares hnot
    | @above _ a _ hnot ha hu =>
      cases hv with
      | self hdeclares => exact absurd hdeclares hnot
      | @above _ b _ _ hb hv =>
        obtain ⟨f, hf⟩ := hu.exists_field
        obtain ⟨g, hg⟩ := hv.exists_field
        by_cases hsame : f.Alike g
        · -- The two super types agree, so that one of them differs from what is nearest to it.
          obtain ⟨x, hx, hxf⟩ := exists_nearest hf
          obtain ⟨y, hy, hyg⟩ := exists_nearest hg
          have hagree : Agree n x y := ⟨f, g, hxf, hyg, hsame⟩
          by_cases hfirst : Agree n u x
          · exact .above hnot hb (ih b hb hv hy fun hlast =>
              hne (hfirst.trans (hagree.trans hlast.symm)))
          · exact .above hnot ha (ih a ha hu hx hfirst)
        · exact .between hnot ha hb hf hg hsame

/-- A conflict is a disagreement between the nearest declarations. -/
theorem diamondConflict_iff : t.DiamondConflict n ↔
    ∃ u v, Nearest n t u ∧ Nearest n t v ∧ ¬ Agree n u v := by
  constructor
  · intro h
    induction h with
    | between hnot hu hv hf hg hne =>
      obtain ⟨x, hx, hxf⟩ := exists_nearest hf
      obtain ⟨y, hy, hyg⟩ := exists_nearest hg
      refine ⟨x, y, .above hnot hu hx, .above hnot hv hy, ?_⟩
      rintro ⟨f', g', hf', hg', hsame⟩
      cases hxf.symm.trans hf'
      cases hyg.symm.trans hg'
      exact hne hsame
    | above hnot hu _ ih =>
      obtain ⟨x, y, hx, hy, hne⟩ := ih
      exact ⟨x, y, .above hnot hu hx, .above hnot hu hy, hne⟩
  · rintro ⟨u, v, hu, hv, hne⟩
    exact diamondConflict_of_nearest hu hv hne

/-! ## Reports -/

theorem declares_of_find? (hw : t.family.find? (·.declares n) = some w) : w.declares n := by
  simpa using List.find?_some hw

/-- The first type in the family that declares a field has the field of the type. -/
theorem field?_of_find? (hw : t.family.find? (·.declares n) = some w) :
    t.field? n = w.field? n := by
  have hdeclares := declares_of_find? hw
  rw [field?_eq, find?_flatMap_eq_bind, field?_of_declares hdeclares]
  exact congrArg (Option.bind · _) hw

/-- A conflict about the field has been noted. -/
def Harvest.Reports (h : Harvest) (n : String) : Prop := ∃ c ∈ h.conflicts, c.field = n

/-- Some way up from the type, on which no type is called `origin`, leads to a type that declares
another field of the name than `f`. -/
inductive Differs (origin n : String) (f : SelectableField) : SelectableType → Prop
  | here {t : SelectableType} {g : SelectableField} : t.name ≠ origin → g ∈ t.declared →
      g.name = n → ¬ f.Alike g → Differs origin n f t
  | above {t u : SelectableType} : t.name ≠ origin → u ∈ t.superTypes → Differs origin n f u →
      Differs origin n f t

theorem Differs.exists_declares (h : Differs origin n f t) : ∃ u ∈ t.family, u.declares n := by
  induction h with
  | here _ hg hn _ => exact ⟨_, mem_family_self, List.any_eq_true.2 ⟨_, hg, by simpa using hn⟩⟩
  | above _ hu _ ih =>
    obtain ⟨v, hv, hdeclares⟩ := ih
    exact ⟨v, mem_family_of_mem_superTypes hu hv, hdeclares⟩

theorem offers_append {ts us : List SelectableType} : offers (ts ++ us) = offers ts ++ offers us :=
  List.flatMap_append

theorem find?_offers_isSome {ts : List SelectableType} :
    ((offers ts).find? (·.1.name = n)).isSome ↔ ∃ u ∈ ts, u.declares n := by
  simp [offers, List.find?_isSome, declares]

/-- What is found first stays what it is when the offers before it have been kept. -/
theorem find?_keepFirst_append {found others more : List (SelectableField × String)} :
    (others.foldl keepFirst found ++ more).find? (·.1.name = n) =
      (found ++ (others ++ more)).find? (·.1.name = n) := by
  rw [← find?_foldl_keepFirst, ← find?_foldl_keepFirst, List.foldl_append]

/-- Behind an offer of the name, nothing is found first. -/
theorem find?_append_of_isSome {found others more : List (SelectableField × String)}
    (h : (others.find? (·.1.name = n)).isSome) :
    (found ++ (others ++ more)).find? (·.1.name = n) =
      (found ++ others).find? (·.1.name = n) := by
  obtain ⟨offer, hoffer⟩ := Option.isSome_iff_exists.1 h
  rw [List.find?_append, List.find?_append, List.find?_append, hoffer, Option.some_or]

theorem reports_add : (h.add path type f).Reports n ↔ h.Reports n ∨ f.name = n ∧
    ∃ first origin, h.found.find? (·.1.name = n) = some (first, origin) ∧ origin ∉ path ∧
      ¬ first.Alike f := by
  by_cases hname : f.name = n
  · subst hname
    unfold Harvest.add Harvest.Reports
    cases hfind : h.found.find? (·.1.name = f.name) with
    | none => simp
    | some offer =>
      obtain ⟨first, origin⟩ := offer
      simp only [SelectableField.same_iff_alike]
      by_cases hfirst : first.Alike f
      · simp [hfirst]
      · by_cases hpath : origin ∈ path
        · simp [hpath]
        · simp [hfirst, hpath, or_and_right, exists_or]
  · have hsame : (h.add path type f).Reports n ↔ h.Reports n := by
      unfold Harvest.add Harvest.Reports
      split
      · rfl
      · split
        · rfl
        · simp [hname, or_and_right, exists_or]
    simp [hsame, hname]

/-- The declared fields of a type are compared with the first field of the name, which may be one of
them. -/
theorem reports_foldl_add (htype : type ∈ path) :
    (declared.foldl (Harvest.add path type) h).Reports n ↔ h.Reports n ∨
      ∃ first origin,
        (h.found ++ declared.map fun f => (f, type)).find? (·.1.name = n) = some (first, origin) ∧
          origin ∉ path ∧ ∃ g ∈ declared, g.name = n ∧ ¬ first.Alike g := by
  induction declared generalizing h with
  | nil => simp
  | cons f rest ih =>
    have hfirst : ((h.add path type f).found ++ rest.map fun f => (f, type)).find?
          (·.1.name = n) =
        (h.found ++ (f :: rest).map fun f => (f, type)).find? (·.1.name = n) := by
      rw [found_add]
      change ([(f, type)].foldl keepFirst h.found ++ _).find? _ = _
      rw [find?_keepFirst_append]
      rfl
    -- The first field that `f` is compared with is not `f` itself: whatever was found on this type
    -- has an origin on the path.
    have hfound (hname : f.name = n) {first : SelectableField} {origin : String}
        (hpath : origin ∉ path) :
        h.found.find? (·.1.name = n) = some (first, origin) ↔
          (h.found ++ (f :: rest).map fun f => (f, type)).find? (·.1.name = n) =
            some (first, origin) := by
      rw [List.find?_append]
      cases h.found.find? (·.1.name = n) with
      | some offer => simp
      | none =>
        have hne : type ≠ origin := fun heq => hpath (heq ▸ htype)
        simp [hname, hne]
    rw [List.foldl_cons, ih, hfirst, reports_add, or_assoc]
    refine or_congr_right ?_
    constructor
    · rintro (⟨hname, first, origin, hfind, hpath, hne⟩ | ⟨first, origin, hfind, hpath, g, hg, hne⟩)
      · exact ⟨first, origin, (hfound hname hpath).1 hfind, hpath, f, List.mem_cons_self, hname,
          hne⟩
      · exact ⟨first, origin, hfind, hpath, g, List.mem_cons_of_mem _ hg, hne⟩
    · rintro ⟨first, origin, hfind, hpath, g, hg, hname, hne⟩
      rcases List.mem_cons.1 hg with rfl | hg
      · exact .inl ⟨hname, first, origin, (hfound hname hpath).2 hfind, hpath, hne⟩
      · exact .inr ⟨first, origin, hfind, hpath, g, hg, hname, hne⟩

/-- What a walk over a type notes. -/
def Noted (n : String) (t : SelectableType) : Prop :=
  ∀ (path : List String) (h : Harvest), (gather path h t).Reports n ↔ h.Reports n ∨
    ∃ first origin, (h.found ++ offers t.family).find? (·.1.name = n) = some (first, origin) ∧
      origin ∉ path ∧ Differs origin n first t

/-- Several types are walked over one after the other; what was found before stays the first field. -/
theorem reports_foldl_gather {ts : List SelectableType} (hts : ∀ u ∈ ts, Noted n u) :
    (ts.foldl (gather path) h).Reports n ↔ h.Reports n ∨ ∃ first origin,
      (h.found ++ offers (ts.flatMap family)).find? (·.1.name = n) = some (first, origin) ∧
        origin ∉ path ∧ ∃ u ∈ ts, Differs origin n first u := by
  induction ts generalizing h with
  | nil => simp
  | cons t rest ih =>
    obtain ⟨ht, hrest⟩ := List.forall_mem_cons.1 hts
    -- The walk over the first type only adds to what was found, and so does the next one.
    have hfirst : ((gather path h t).found ++ offers (rest.flatMap family)).find? (·.1.name = n) =
        (h.found ++ offers ((t :: rest).flatMap family)).find? (·.1.name = n) := by
      rw [found_gather, List.flatMap_cons, offers_append, find?_keepFirst_append]
    -- If the first type has another field of the name at all, the field is found no later than in
    -- its family.
    have hfound {first : SelectableField} {origin : String} (hdiffers : Differs origin n first t) :
        (h.found ++ offers ((t :: rest).flatMap family)).find? (·.1.name = n) =
          (h.found ++ offers t.family).find? (·.1.name = n) := by
      rw [List.flatMap_cons, offers_append]
      exact find?_append_of_isSome (find?_offers_isSome.2 hdiffers.exists_declares)
    rw [List.foldl_cons, ih hrest, hfirst, ht path h, or_assoc]
    refine or_congr_right ?_
    constructor
    · rintro (⟨first, origin, hfind, hpath, hdiffers⟩ |
        ⟨first, origin, hfind, hpath, u, hu, hdiffers⟩)
      · exact ⟨first, origin, (hfound hdiffers).trans hfind, hpath, t, List.mem_cons_self, hdiffers⟩
      · exact ⟨first, origin, hfind, hpath, u, List.mem_cons_of_mem _ hu, hdiffers⟩
    · rintro ⟨first, origin, hfind, hpath, u, hu, hdiffers⟩
      rcases List.mem_cons.1 hu with rfl | hu
      · exact .inl ⟨first, origin, (hfound hdiffers).symm.trans hfind, hpath, hdiffers⟩
      · exact .inr ⟨first, origin, hfind, hpath, u, hu, hdiffers⟩

/-- The field found first is compared with all others that are met on ways that do not lead past its
type. -/
theorem noted (t : SelectableType) : Noted n t := by
  induction t using induction_superTypes with
  | step t ih =>
    intro path h
    -- The walk meets the type itself and then its super types, on a path that the type is on. So
    -- the two halves of a note are the two constructors of `Differs`.
    have hoffers : offers t.family =
        t.declared.map (fun f => (f, t.name)) ++ offers (t.superTypes.flatMap family) := by
      rw [family_eq]
      rfl
    have hfirst : ((t.declared.foldl (Harvest.add (t.name :: path) t.name) h).found ++
          offers (t.superTypes.flatMap family)).find? (·.1.name = n) =
        (h.found ++ offers t.family).find? (·.1.name = n) := by
      rw [found_foldl_add, find?_keepFirst_append, hoffers]
    have hfound {g : SelectableField} (hg : g ∈ t.declared) (hname : g.name = n) :
        (h.found ++ offers t.family).find? (·.1.name = n) =
          (h.found ++ t.declared.map fun f => (f, t.name)).find? (·.1.name = n) := by
      rw [hoffers]
      refine find?_append_of_isSome (List.find?_isSome.2 ?_)
      exact ⟨_, List.mem_map_of_mem hg, by simpa using hname⟩
    rw [gather_eq, reports_foldl_gather ih, hfirst, reports_foldl_add List.mem_cons_self, or_assoc]
    refine or_congr_right ?_
    simp only [List.mem_cons, not_or]
    constructor
    · rintro (⟨first, origin, hfind, ⟨hself, hpath⟩, g, hg, hname, hne⟩ |
        ⟨first, origin, hfind, ⟨hself, hpath⟩, u, hu, hdiffers⟩)
      · exact ⟨first, origin, (hfound hg hname).trans hfind, hpath,
          .here (Ne.symm hself) hg hname hne⟩
      · exact ⟨first, origin, hfind, hpath, .above (Ne.symm hself) hu hdiffers⟩
    · rintro ⟨first, origin, hfind, hpath, hdiffers⟩
      cases hdiffers with
      | here hself hg hname hne =>
        exact .inl ⟨first, origin, (hfound hg hname).symm.trans hfind, ⟨Ne.symm hself, hpath⟩, _,
          hg, hname, hne⟩
      | above hself hu hdiffers =>
        exact .inr ⟨first, origin, hfind, ⟨Ne.symm hself, hpath⟩, _, hu, hdiffers⟩

/-- A type reports a conflict if some way up, that does not lead past the type on which the field is
found first, meets another field of the name. -/
theorem reports_harvest_iff : t.harvest.Reports n ↔ ∃ w f,
    t.family.find? (·.declares n) = some w ∧ w.field? n = some f ∧ Differs w.name n f t := by
  have hfirst : (offers t.family).find? (·.1.name = n) = (t.family.find? (·.declares n)).bind
      fun w => (w.declared.find? (·.name = n)).map (·, w.name) := by
    rw [offers, find?_flatMap_eq_bind]
    simp only [List.any_map, List.find?_map]
    rfl
  have hnone : ¬ ({} : Harvest).Reports n := by
    rintro ⟨_, hmem, _⟩
    cases hmem
  rw [harvest, noted t [] {}, or_iff_right hnone]
  simp only [List.nil_append, hfirst, Option.bind_eq_some_iff, Option.map_eq_some_iff,
    List.not_mem_nil, not_false_eq_true, true_and]
  constructor
  · rintro ⟨f, _, ⟨w, hw, f, hf, ⟨⟩⟩, hdiffers⟩
    have hdeclares := declares_of_find? hw
    exact ⟨w, f, hw, by rw [field?_of_declares hdeclares, hf], hdiffers⟩
  · rintro ⟨w, f, hw, hf, hdiffers⟩
    have hdeclares := declares_of_find? hw
    rw [field?_of_declares hdeclares] at hf
    exact ⟨f, w.name, ⟨w, hw, f, hf, rfl⟩, hdiffers⟩

/-! ## Reports and conflicts -/

/-- A name stands for one type of the family. -/
def UniquelyNamed (t : SelectableType) : Prop :=
  ∀ u ∈ t.family, ∀ v ∈ t.family, u.name = v.name → u = v

/-- A nearest declaration is the same as the one that is found first, and some way up from it, that
does not lead past the type on which that one is found, meets another field of the name. So both types
override the other field, and override it alike. -/
def OverriddenAlike (n : String) (t : SelectableType) : Prop :=
  ∃ w f u, t.family.find? (·.declares n) = some w ∧ w.field? n = some f ∧ Nearest n t u ∧
    Agree n w u ∧ Differs w.name n f u

/-- A way that meets another field passes a nearest declaration. -/
theorem Differs.exists_nearest (h : Differs origin n f t) :
    ∃ u, Nearest n t u ∧ Differs origin n f u := by
  induction h with
  | @here t g hname hg hn hne =>
    have hdeclares : t.declares n := List.any_eq_true.2 ⟨g, hg, by simpa using hn⟩
    exact ⟨t, .self hdeclares, .here hname hg hn hne⟩
  | @above t u hname hu h ih =>
    by_cases hdeclares : t.declares n
    · exact ⟨t, .self hdeclares, .above hname hu h⟩
    · obtain ⟨v, hv, hdiffers⟩ := ih
      exact ⟨v, .above hdeclares hu hv, hdiffers⟩

/-- A way to a nearest declaration does not lead past a type that declares the field itself. -/
theorem Differs.of_nearest (hw : w.declares n) (hunique : ∀ v ∈ t.family, v.name = w.name → v = w)
    (hu : Nearest n t u) (h : Differs w.name n f u) : Differs w.name n f t := by
  induction hu with
  | self _ => exact h
  | above hnot hu _ ih =>
    -- A type on the way that is called `w` is `w`, which declares the field; but no type before
    -- the nearest declaration does.
    refine .above (fun hname => hnot ?_) hu
      (ih (fun v hv => hunique v (mem_family_of_mem_superTypes hu hv)) h)
    rw [hunique _ mem_family_self hname]
    exact hw

/-- The types in a family of which the names are distinct, however often a type is met. -/
theorem uniquelyNamed_of_nodup {types : List SelectableType} (hnodup : (types.map (·.name)).Nodup)
    (hsub : ∀ u ∈ t.family, u ∈ types) : t.UniquelyNamed :=
  fun u hu v hv => List.inj_on_of_nodup_map hnodup (hsub u hu) (hsub v hv)

/-- A nearest declaration that is not the field of the type is met on a way that does not lead past the
type on which the field is found. -/
theorem Differs.of_ne (h : t.UniquelyNamed) (hw : t.family.find? (·.declares n) = some w)
    (hf : w.field? n = some f) (hu : Nearest n t u) (hne : ¬ Agree n w u) :
    Differs w.name n f t := by
  have hmem := List.mem_of_find?_eq_some hw
  have hdeclares := declares_of_find? hw
  obtain ⟨g, hg⟩ := (Nearest.self hu.declares).exists_field
  have hfind := hg
  rw [field?_of_declares hu.declares] at hfind
  refine .of_nearest hdeclares (fun v hv => h v hv w hmem) hu (.here ?_
    (List.mem_of_find?_eq_some hfind) (by simpa using List.find?_some hfind) ?_)
  · intro hname
    obtain rfl := h u hu.mem_family w hmem hname
    exact hne (.of_field?_eq hf hf)
  · exact fun hsame => hne ⟨f, g, hf, hg, hsame⟩

/-- A conflict about a field is reported if and only if the type is in conflict about it or two types
above it have overridden it alike. -/
theorem conflict_reported_iff (h : t.UniquelyNamed) :
    (∃ c ∈ t.conflicts, c.field = n) ↔ t.DiamondConflict n ∨ t.OverriddenAlike n := by
  change t.harvest.Reports n ↔ _
  rw [reports_harvest_iff]
  constructor
  · rintro ⟨w, f, hw, hf, hdiffers⟩
    -- What differs may have been overridden below. The declaration that overrides it, and is
    -- nearest, either differs as well or agrees with the field of the type.
    obtain ⟨u, hu, hdiffers⟩ := hdiffers.exists_nearest
    by_cases hsame : Agree n w u
    · exact .inr ⟨w, f, u, hw, hf, hu, hsame, hdiffers⟩
    · obtain ⟨v, hv, hvf⟩ := exists_nearest ((field?_of_find? hw).trans hf)
      have hagree : Agree n w v := .of_field?_eq hf hvf
      exact .inl (diamondConflict_of_nearest hu hv fun heq => hsame (hagree.trans heq.symm))
  · rintro (hconflict | ⟨w, f, u, hw, hf, hu, _, hdiffers⟩)
    · obtain ⟨u, v, hu, hv, hne⟩ := diamondConflict_iff.1 hconflict
      have hsome : (t.family.find? (·.declares n)).isSome :=
        List.find?_isSome.2 ⟨u, hu.mem_family, hu.declares⟩
      obtain ⟨w, hw⟩ := Option.isSome_iff_exists.1 hsome
      have hdeclares := declares_of_find? hw
      obtain ⟨f, hf⟩ := (Nearest.self hdeclares).exists_field
      refine ⟨w, f, hw, hf, ?_⟩
      -- Of two nearest declarations that disagree, one at least is not the field that is found
      -- first.
      by_cases hfirst : Agree n w u
      · exact .of_ne h hw hf hv fun hlast => hne (hfirst.symm.trans hlast)
      · exact .of_ne h hw hf hu hfirst
    · have hmem := List.mem_of_find?_eq_some hw
      have hdeclares := declares_of_find? hw
      exact ⟨w, f, hw, hf, .of_nearest hdeclares (fun v hv => h v hv w hmem) hu hdiffers⟩

/-- Arguments in another order make no conflict. -/
example : (⟨"Chart", .object,
    [⟨"Plane", .object, [], [{ name := "at", arguments := [("x", "Int"), ("y", "Int")] }]⟩,
      ⟨"Map", .object, [], [{ name := "at", arguments := [("y", "Int"), ("x", "Int")] }]⟩],
    []⟩ : SelectableType).conflicts = [] := by
  decide

/-! ## A house on a boat -/

/-- The field of an owner. -/
def owner (type : String) : SelectableField :=
  { name := "owner", category := .reference, target := some type }

/-- A type with an owner. -/
def ownedBy (type name : String) (superTypes : List SelectableType) : SelectableType :=
  ⟨name, .object, superTypes, [owner type]⟩

def asset : SelectableType := ownedBy "Party" "Asset" []

def house : SelectableType := ownedBy "Person" "House" [asset]

def boat : SelectableType := ownedBy "Person" "Boat" [asset]

def hotel : SelectableType := ownedBy "Company" "Hotel" [asset]

/-- A type of which the super types agree about the owner. -/
def houseboat : SelectableType := ⟨"Houseboat", .object, [house, boat], []⟩

/-- A type of which the super types disagree about the owner. -/
def boatel : SelectableType := ⟨"Boatel", .object, [houseboat, hotel], []⟩

theorem uniquelyNamed_boatel : boatel.UniquelyNamed := by
  have hfamily : boatel.family =
      [boatel, houseboat, house, asset, boat, asset, hotel, asset] := rfl
  have hnodup : ([boatel, houseboat, house, asset, boat, hotel].map (·.name)).Nodup := by decide
  refine uniquelyNamed_of_nodup hnodup ?_
  rw [hfamily]
  simp

theorem uniquelyNamed_houseboat : houseboat.UniquelyNamed := fun u hu v hv =>
  uniquelyNamed_boatel u (mem_family_of_mem_superTypes List.mem_cons_self hu) v
    (mem_family_of_mem_superTypes List.mem_cons_self hv)

theorem conflict_reported_boatel : boatel.UniquelyNamed ∧ boatel.DiamondConflict "owner" ∧
    ∃ c ∈ boatel.conflicts, c.field = "owner" := by
  have hconflict : boatel.DiamondConflict "owner" :=
    .between (by decide) List.mem_cons_self (List.mem_cons_of_mem _ List.mem_cons_self)
      (f := owner "Person") (g := owner "Company") rfl rfl (by decide)
  exact ⟨uniquelyNamed_boatel, hconflict,
    (conflict_reported_iff uniquelyNamed_boatel).2 (.inl hconflict)⟩

/-- The owner of an asset is overridden on every way to the houseboat, and in the same manner; yet it is
reported to be in conflict. -/
theorem reports_owner_of_houseboat : houseboat.UniquelyNamed ∧
    (∃ c ∈ houseboat.conflicts, c.field = "owner") ∧ ¬ houseboat.DiamondConflict "owner" := by
  refine ⟨uniquelyNamed_houseboat, ⟨⟨"owner", "Asset", "House"⟩, ?_, rfl⟩, ?_⟩
  · have hconflicts : houseboat.conflicts = [⟨"owner", "Asset", "House"⟩] := by decide
    rw [hconflicts]
    exact List.mem_cons_self
  · intro hconflict
    obtain ⟨u, v, hu, hv, hne⟩ := diamondConflict_iff.1 hconflict
    have hnearest {u : SelectableType} (hu : Nearest "owner" houseboat u) :
        u.field? "owner" = some (owner "Person") := by
      cases hu with
      | self hdeclares => exact absurd hdeclares (by decide)
      | above _ hsuper hu =>
        rcases List.mem_pair.1 hsuper with rfl | rfl
        all_goals
          cases hu with
          | self _ => rfl
          | above hnot _ _ => exact absurd (by decide) hnot
    exact hne (.of_field?_eq (hnearest hu) (hnearest hv))

end SelectableType

end TypedQuery
