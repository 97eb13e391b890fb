-- SUMMARY: Lists whose members are paired, and lists whose members have keys.
import Mathlib.Data.List.Forall2
import Mathlib.Data.List.Nodup

/-!
# Paired and keyed lists

Members of two lists that are related place by place have partners. In a list whose keys are
distinct, looking for a key finds the one member that has it.
-/
namespace TypedQuery

variable {α β : Type}

theorem exists_of_mem_right {R : α → β → Prop} {as : List α} {bs : List β} {b : β}
    (h : List.Forall₂ R as bs) (hb : b ∈ bs) : ∃ a ∈ as, R a b := by
  induction h with
  | nil => cases hb
  | cons hr _ ih =>
    rcases List.mem_cons.1 hb with rfl | hb
    · exact ⟨_, List.mem_cons_self, hr⟩
    · obtain ⟨a, ha, hr⟩ := ih hb
      exact ⟨a, List.mem_cons_of_mem _ ha, hr⟩

theorem exists_of_mem_left {R : α → β → Prop} {as : List α} {bs : List β} {a : α}
    (h : List.Forall₂ R as bs) (ha : a ∈ as) : ∃ b ∈ bs, R a b := by
  induction h with
  | nil => cases ha
  | cons hr _ ih =>
    rcases List.mem_cons.1 ha with rfl | ha
    · exact ⟨_, List.mem_cons_self, hr⟩
    · obtain ⟨b, hb, hr⟩ := ih ha
      exact ⟨b, List.mem_cons_of_mem _ hb, hr⟩

/-- Functions that agree on partners give the same list. -/
theorem map_eq_map_of_forall₂ {γ : Type} {f : α → γ} {g : β → γ} {R : α → β → Prop} {as : List α}
    {bs : List β} (h : List.Forall₂ R as bs) (hfg : ∀ a ∈ as, ∀ b, R a b → f a = g b) :
    as.map f = bs.map g := by
  induction h with
  | nil => rfl
  | @cons a b _ _ hr _ ih =>
    rw [List.map_cons, List.map_cons, hfg a List.mem_cons_self b hr,
      ih fun a ha => hfg a (List.mem_cons_of_mem _ ha)]

/-- A function that finds the partners gives back the list. -/
theorem map_eq_of_forall₂ {f : β → α} {R : α → β → Prop} {as : List α} {bs : List β}
    (h : List.Forall₂ R as bs) (hf : ∀ a b, R a b → f b = a) : bs.map f = as := by
  rw [← map_eq_map_of_forall₂ h fun a _ b hr => (hf a b hr).symm, List.map_id']

/-- Lists that are paired with one list are paired with each other. -/
theorem forall₂_of_forall₂ {γ : Type} {R : α → β → Prop} {S : α → γ → Prop} {T : β → γ → Prop}
    {as : List α} {bs : List β} {cs : List γ} (hR : List.Forall₂ R as bs) (hS : List.Forall₂ S as cs)
    (h : ∀ a ∈ as, ∀ b c, R a b → S a c → T b c) : List.Forall₂ T bs cs := by
  induction hR generalizing cs with
  | nil =>
    cases hS
    exact .nil
  | cons hr _ ih =>
    cases hS with
    | cons hs hrest =>
      exact .cons (h _ List.mem_cons_self _ _ hr hs)
        (ih hrest fun a ha => h a (List.mem_cons_of_mem _ ha))

/-- If the relation is a function, so is its extension to lists. -/
theorem forall₂_iff_eq_map {R : α → β → Prop} {f : α → β} {as : List α} {bs : List β}
    (h : ∀ a ∈ as, ∀ b, R a b ↔ b = f a) : List.Forall₂ R as bs ↔ bs = as.map f := by
  induction as generalizing bs with
  | nil => exact List.forall₂_nil_left_iff
  | cons a rest ih =>
    rw [List.forall₂_cons_left_iff, List.map_cons]
    constructor
    · rintro ⟨b, others, hb, hothers, rfl⟩
      rw [(h a List.mem_cons_self b).1 hb,
        (ih fun a ha => h a (List.mem_cons_of_mem _ ha)).1 hothers]
    · rintro rfl
      exact ⟨_, _, (h a List.mem_cons_self _).2 rfl,
        (ih fun a ha => h a (List.mem_cons_of_mem _ ha)).2 rfl, rfl⟩

/-- The first hits in paired lists are paired, if a hit is one in both lists. -/
theorem find?_cases_of_forall₂ {R : α → β → Prop} {p : α → Bool} {q : β → Bool} {as : List α}
    {bs : List β} (h : List.Forall₂ R as bs) (hpq : ∀ a b, R a b → p a = q b) :
    (as.find? p = none ∧ bs.find? q = none) ∨
      ∃ a b, as.find? p = some a ∧ bs.find? q = some b ∧ R a b := by
  induction h with
  | nil => exact .inl ⟨rfl, rfl⟩
  | @cons a b _ _ hr _ ih =>
    rw [List.find?_cons, List.find?_cons, hpq a b hr]
    cases q b with
    | true => exact .inr ⟨a, b, rfl, rfl, hr⟩
    | false => exact ih

/-- Functions that tell the same members apart give lists without repetitions together. -/
theorem nodup_map_iff_nodup_map {γ : Type} {f : α → β} {g : α → γ} {as : List α}
    (h : ∀ a ∈ as, ∀ b ∈ as, f a = f b ↔ g a = g b) : (as.map f).Nodup ↔ (as.map g).Nodup := by
  rw [List.Nodup, List.Nodup, List.pairwise_map, List.pairwise_map]
  exact List.Pairwise.iff_of_mem fun ha hb => not_congr (h _ ha _ hb)

/-- Pairs are distinct if the values are, key by key. -/
theorem nodup_map_pair_iff {κ : Type} [DecidableEq κ] {key : α → κ} {value : α → β} {as : List α} :
    (as.map fun a => (key a, value a)).Nodup ↔
      ∀ k, ((as.filter (key · = k)).map value).Nodup := by
  induction as with
  | nil => simp
  | cons a rest ih =>
    -- The pair of the first member can only be repeated among those that have its key.
    have hmem : value a ∈ (rest.filter (key · = key a)).map value ↔
        (key a, value a) ∈ rest.map fun a => (key a, value a) := by
      simp [and_assoc]
    rw [List.map_cons, List.nodup_cons, ih, ← hmem]
    constructor
    · rintro ⟨hnew, hrest⟩ k
      rw [List.filter_cons]
      split
      · next hk =>
        obtain rfl := of_decide_eq_true hk
        exact List.nodup_cons.2 ⟨hnew, hrest _⟩
      · exact hrest k
    · intro h
      have hfirst := h (key a)
      rw [List.filter_cons_of_pos (by simp), List.map_cons, List.nodup_cons] at hfirst
      exact ⟨hfirst.1, fun k => (h k).sublist ((List.sublist_cons_self _ _).filter _ |>.map _)⟩

theorem nodup_eraseDups [DecidableEq α] (as : List α) : as.eraseDups.Nodup := by
  -- What is left of the tail is filtered and no part of the list, so the induction is on the
  -- length.
  induction hlength : as.length using Nat.strongRecOn generalizing as with
  | ind length ih =>
    cases as with
    | nil => simp
    | cons a rest =>
      have hshorter : (rest.filter fun b => !b == a).length < length := by
        rw [← hlength, List.length_cons]
        exact Nat.lt_succ_of_le (List.length_filter_le _ _)
      rw [List.eraseDups_cons, List.nodup_cons, List.mem_eraseDups]
      exact ⟨by simp, ih _ hshorter _ rfl⟩

/-- Two of the items that each member gives, the second of them not always, can be listed apart. -/
theorem flatMap_pair_perm {f g : α → β} {p : α → Bool} {as : List α} :
    (as.flatMap fun a => f a :: if p a then [] else [g a]).Perm
      (as.map f ++ (as.filter (!p ·)).map g) := by
  induction as with
  | nil => exact .nil
  | cons a rest ih =>
    rw [List.flatMap_cons, List.map_cons, List.filter_cons]
    cases p a with
    | true => exact ih.cons _
    | false =>
      refine List.Perm.cons _ ((ih.cons _).trans ?_)
      exact List.perm_middle.symm

/-- What is picked from a list keeps its keys in their order. -/
theorem sublist_map_filterMap {γ : Type} {f : α → Option β} {g : β → γ} {k : α → γ} {as : List α}
    (h : ∀ a b, f a = some b → g b = k a) : ((as.filterMap f).map g).Sublist (as.map k) := by
  induction as with
  | nil => exact .slnil
  | cons a rest ih =>
    rw [List.filterMap_cons, List.map_cons]
    cases hf : f a with
    | none => exact ih.cons _
    | some b =>
      rw [← h a b hf]
      exact ih.cons_cons _

/-- The first hit in joined lists lies in the first list that has one. -/
theorem find?_flatMap_eq_bind {f : α → List β} {as : List α} {p : β → Bool} :
    (as.flatMap f).find? p = (as.find? fun a => (f a).any p).bind fun a => (f a).find? p := by
  induction as with
  | nil => rfl
  | cons a rest ih =>
    rw [List.flatMap_cons, List.find?_append, ih, List.find?_cons]
    cases hany : (f a).any p with
    | true =>
      have hsome : ((f a).find? p).isSome := List.find?_isSome.2 (List.any_eq_true.1 hany)
      obtain ⟨b, hb⟩ := Option.isSome_iff_exists.1 hsome
      simp [hb]
    | false =>
      have hnone : (f a).find? p = none :=
        List.find?_eq_none.2 fun b hb => List.any_eq_false.1 hany b hb
      simp [hnone]

/-- Where keys are distinct, the first member with a key is the only one. -/
theorem find?_eq_some_iff_of_nodup {key : α → String} {as : List α} {a : α} {name : String}
    (h : (as.map key).Nodup) : as.find? (key · = name) = some a ↔ a ∈ as ∧ key a = name := by
  constructor
  · intro hfind
    exact ⟨List.mem_of_find?_eq_some hfind, by simpa using List.find?_some hfind⟩
  · rintro ⟨hmem, rfl⟩
    have hsome : (as.find? (key · = key a)).isSome := List.find?_isSome.2 ⟨a, hmem, by simp⟩
    obtain ⟨b, hb⟩ := Option.isSome_iff_exists.1 hsome
    have hkey : key b = key a := by simpa using List.find?_some hb
    rw [hb, List.inj_on_of_nodup_map h (List.mem_of_find?_eq_some hb) hmem hkey]

/-- Searches that agree on the members of a list. -/
theorem findSome?_congr {f g : α → Option β} {as : List α} (h : ∀ a ∈ as, f a = g a) :
    as.findSome? f = as.findSome? g := by
  induction as with
  | nil => rfl
  | cons a rest ih =>
    rw [List.findSome?_cons, List.findSome?_cons, h a List.mem_cons_self,
      ih fun b hb => h b (List.mem_cons_of_mem _ hb)]

/-- Searches that agree on partners. -/
theorem findSome?_eq_of_forall₂ {γ : Type} {f : α → Option γ} {g : β → Option γ} {R : α → β → Prop}
    {as : List α} {bs : List β} (h : List.Forall₂ R as bs) (hfg : ∀ a b, R a b → f a = g b) :
    as.findSome? f = bs.findSome? g := by
  induction h with
  | nil => rfl
  | cons hr _ ih => rw [List.findSome?_cons, List.findSome?_cons, hfg _ _ hr, ih]

/-- The first member with a property, and what is made of it. -/
theorem findSome?_ite {f : α → β} {p : α → Bool} {as : List α} :
    (as.findSome? fun a => if p a then some (f a) else none) = (as.find? p).map f := by
  induction as with
  | nil => rfl
  | cons a rest ih =>
    rw [List.findSome?_cons, List.find?_cons, ih]
    cases p a <;> rfl

/-- A key without a value is no key of the list. -/
theorem lookup_eq_none_iff {entries : List (String × β)} {key : String} :
    entries.lookup key = none ↔ key ∉ entries.map (·.1) := by
  rw [List.lookup_eq_none_iff, List.mem_map]
  constructor
  · rintro h ⟨entry, hentry, rfl⟩
    simpa using h entry hentry
  · intro h entry hentry
    have hne : ¬ key = entry.1 := fun heq => h ⟨entry, hentry, heq.symm⟩
    simpa using hne

end TypedQuery
