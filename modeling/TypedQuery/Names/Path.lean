-- SUMMARY: Paths in graphs over names, and what the walks over a graph find.
import TypedQuery.Names.NameGraph

/-!
# Paths in graphs over names

A path follows one or more edges. `mem_collect` says what a walk adds to a closed set, `edge_reduce`
which edges a reduction keeps, and `edge_inverse` what the inverse of a graph is. A reduced graph
has no cycle, whatever graph was reduced.
-/
namespace TypedQuery

namespace NameGraph

variable {g : NameGraph} {a b c : String}

/-- There is an edge from a name to another. -/
def Edge (g : NameGraph) (source target : String) : Prop := target ∈ g.targets source

instance : Decidable (g.Edge a b) := inferInstanceAs (Decidable (b ∈ g.targets a))

/-- A name is reached from another along one or more edges. -/
abbrev Path (g : NameGraph) : String → String → Prop := Relation.TransGen g.Edge

/-- No name is reached from itself. -/
def Acyclic (g : NameGraph) : Prop := ∀ name, ¬ g.Path name name

/-- A set that holds all targets of its members. -/
def Closed (g : NameGraph) (seen : NameSet) : Prop :=
  ∀ source target, source ∈ seen → g.Edge source target → target ∈ seen

theorem edge_iff : g.Edge a b ↔ ∃ names, g.get? a = some names ∧ b ∈ names := by
  unfold Edge targets
  cases g.get? a with
  | none => simp
  | some names => simp

theorem mem_keys_of_edge (h : g.Edge a b) : a ∈ g.keys := by
  obtain ⟨names, hget, _⟩ := edge_iff.1 h
  exact List.mem_map_of_mem (NameMap.get?_eq_some_iff.1 hget)

/-- A path begins with an edge. -/
theorem Path.head (h : g.Path a c) : g.Edge a c ∨ ∃ b, g.Edge a b ∧ g.Path b c := by
  induction h with
  | single hedge => exact Or.inl hedge
  | tail _ hedge ih =>
    rcases ih with hfirst | ⟨b, hfirst, hrest⟩
    · exact Or.inr ⟨_, hfirst, .single hedge⟩
    · exact Or.inr ⟨b, hfirst, .tail hrest hedge⟩

theorem Path.cons (hedge : g.Edge a b) (hpath : g.Path b c) : g.Path a c :=
  (Relation.TransGen.single hedge).trans hpath

theorem closed_empty : g.Closed ∅ := fun _ _ h => absurd h NameSet.not_mem_empty

/-! ## Walks -/

theorem mem_follow_of_seen {seen : NameSet} {pending : List String} (h : a ∈ seen) :
    a ∈ g.follow seen pending := by
  fun_induction follow g seen pending with
  | case1 seen => exact h
  | case2 seen name rest hseen ih => exact ih h
  | case3 seen name rest hseen ih => exact ih (NameSet.mem_insert.2 (Or.inr h))

theorem mem_follow_of_pending {seen : NameSet} {pending : List String} (h : a ∈ pending) :
    a ∈ g.follow seen pending := by
  fun_induction follow g seen pending with
  | case1 seen => cases h
  | case2 seen name rest hseen ih =>
    rcases List.mem_cons.1 h with rfl | h
    · exact mem_follow_of_seen hseen
    · exact ih h
  | case3 seen name rest hseen ih =>
    rcases List.mem_cons.1 h with rfl | h
    · exact mem_follow_of_seen (NameSet.mem_insert.2 (Or.inl rfl))
    · exact ih (List.mem_append_right _ h)

/-- Everything that a walk finds was seen before or can be reached from a pending name. -/
theorem follow_sound {seen : NameSet} {pending : List String} (h : b ∈ g.follow seen pending) :
    b ∈ seen ∨ b ∈ pending ∨ ∃ a ∈ pending, g.Path a b := by
  fun_induction follow g seen pending with
  | case1 seen => exact Or.inl h
  | case2 seen name rest hseen ih =>
    rcases ih h with h | h | ⟨a, ha, hpath⟩
    · exact Or.inl h
    · exact Or.inr (Or.inl (List.mem_cons_of_mem _ h))
    · exact Or.inr (Or.inr ⟨a, List.mem_cons_of_mem _ ha, hpath⟩)
  | case3 seen name rest hseen ih =>
    rcases ih h with h | h | ⟨a, ha, hpath⟩
    · rcases NameSet.mem_insert.1 h with rfl | h
      · exact Or.inr (Or.inl List.mem_cons_self)
      · exact Or.inl h
    · rcases List.mem_append.1 h with hedge | h
      · exact Or.inr (Or.inr ⟨name, List.mem_cons_self, .single hedge⟩)
      · exact Or.inr (Or.inl (List.mem_cons_of_mem _ h))
    · rcases List.mem_append.1 ha with hedge | ha
      · exact Or.inr (Or.inr ⟨name, List.mem_cons_self, .cons hedge hpath⟩)
      · exact Or.inr (Or.inr ⟨a, List.mem_cons_of_mem _ ha, hpath⟩)

/-- A walk finds all targets of the names that it adds. -/
theorem follow_complete {seen : NameSet} {pending : List String}
    (ha : a ∈ g.follow seen pending) (hnew : ¬ a ∈ seen) (hedge : g.Edge a b) :
    b ∈ g.follow seen pending := by
  fun_induction follow g seen pending with
  | case1 seen => exact absurd ha hnew
  | case2 seen name rest hseen ih => exact ih ha hnew
  | case3 seen name rest hseen ih =>
    by_cases heq : a = name
    · subst heq
      exact mem_follow_of_pending (List.mem_append_left _ hedge)
    · apply ih ha
      intro hmem
      exact (NameSet.mem_insert.1 hmem).elim heq hnew

/-- What a walk adds to a closed set is what it can reach. Names whose targets are still pending
further up do no harm, because the walk is done with them when it ends. -/
theorem mem_collect {seen : NameSet} (hclosed : g.Closed seen) :
    b ∈ g.collect seen a ↔ b ∈ seen ∨ g.Path a b := by
  -- A member of the grown set was there before, and then the set held its targets already, or the
  -- walk has been through it.
  have hgrown : ∀ x y, x ∈ g.collect seen a → g.Edge x y → y ∈ g.collect seen a := by
    intro x y hx hedge
    by_cases hseen : x ∈ seen
    · exact mem_follow_of_seen (hclosed x y hseen hedge)
    · exact follow_complete hx hseen hedge
  constructor
  · intro h
    rcases follow_sound h with h | hedge | ⟨x, hedge, hpath⟩
    · exact Or.inl h
    · exact Or.inr (.single hedge)
    · exact Or.inr (.cons hedge hpath)
  · rintro (h | hpath)
    · exact mem_follow_of_seen h
    · induction hpath with
      | single hedge => exact mem_follow_of_pending hedge
      | tail _ hedge ih => exact hgrown _ _ ih hedge

theorem closed_collect {seen : NameSet} (hclosed : g.Closed seen) :
    g.Closed (g.collect seen a) := by
  intro source target hsource hedge
  rw [mem_collect hclosed] at hsource ⊢
  rcases hsource with hsource | hpath
  · exact Or.inl (hclosed source target hsource hedge)
  · exact Or.inr (.tail hpath hedge)

theorem mem_reachable : b ∈ g.reachable a ↔ g.Path a b := by
  rw [reachable, mem_collect closed_empty]
  simp

/-- Walks from several names that share one set find what each of them finds. -/
theorem mem_foldl_collect {seen : NameSet} {names : List String} (hclosed : g.Closed seen) :
    c ∈ names.foldl g.collect seen ↔ c ∈ seen ∨ ∃ b ∈ names, g.Path b c := by
  induction names generalizing seen with
  | nil => simp
  | cons name rest ih =>
    rw [List.foldl_cons, ih (closed_collect hclosed), mem_collect hclosed]
    simp [or_assoc]

theorem mem_implied {names : NameSet} : c ∈ g.implied names ↔ ∃ b ∈ names, g.Path b c := by
  rw [implied, mem_foldl_collect closed_empty]
  simp

/-! ## Reduction -/

/-- A reduction keeps an edge unless its target can be reached from some target of its source. -/
theorem edge_reduce : g.reduce.Edge a c ↔ g.Edge a c ∧ ∀ b, g.Edge a b → ¬ g.Path b c := by
  simp only [edge_iff, reduce, NameMap.get?_mapEntries, Option.map_eq_some_iff]
  constructor
  · rintro ⟨_, ⟨names, hget, rfl⟩, hc⟩
    obtain ⟨hmem, hnot⟩ := NameSet.mem_filter.1 hc
    refine ⟨⟨names, hget, hmem⟩, ?_⟩
    rintro b ⟨others, hothers, hb⟩ hpath
    cases hget.symm.trans hothers
    exact of_decide_eq_true hnot (mem_implied.2 ⟨b, hb, hpath⟩)
  · rintro ⟨⟨names, hget, hmem⟩, hnot⟩
    refine ⟨_, ⟨names, hget, rfl⟩, NameSet.mem_filter.2 ⟨hmem, decide_eq_true ?_⟩⟩
    intro himplied
    obtain ⟨b, hb, hpath⟩ := mem_implied.1 himplied
    exact hnot b ⟨names, hget, hb⟩ hpath

theorem path_of_path_reduce (h : g.reduce.Path a b) : g.Path a b := by
  induction h with
  | single hedge => exact .single (edge_reduce.1 hedge).1
  | tail _ hedge ih => exact .tail ih (edge_reduce.1 hedge).1

/-- A reduced graph has no cycle: the first target on a cycle could be reached from itself, so that
the edge to it would not have been kept. -/
theorem acyclic_reduce : g.reduce.Acyclic := by
  intro a hcycle
  rcases Path.head hcycle with hedge | ⟨b, hedge, hback⟩
  · have hkept := edge_reduce.1 hedge
    exact hkept.2 a hkept.1 (.single hkept.1)
  · have hkept := edge_reduce.1 hedge
    exact hkept.2 b hkept.1 (.tail (path_of_path_reduce hback) hkept.1)

/-! ## Inverse -/

theorem edge_addEdge {source target : String} :
    (g.addEdge source target).Edge a b ↔ (a = source ∧ b = target) ∨ g.Edge a b := by
  simp only [edge_iff, addEdge, NameMap.get?_update]
  by_cases h : a = source
  · subst h
    cases g.get? a <;> simp
  · simp [h]

theorem not_edge_empty : ¬ (∅ : NameGraph).Edge a b := by
  simp [edge_iff]

/-- Adding the edges of a list, in order. -/
theorem edge_addEdges {ends : List (String × String)} :
    (ends.foldl (fun g (source, target) => addEdge g source target) g).Edge a b ↔
      (a, b) ∈ ends ∨ g.Edge a b := by
  induction ends generalizing g with
  | nil => simp
  | cons first rest ih =>
    obtain ⟨source, target⟩ := first
    rw [List.foldl_cons, ih, edge_addEdge]
    simp [or_assoc, or_left_comm]

theorem edge_turnTargets {source : String} {names : List String} :
    (names.foldl (fun turned target => addEdge turned target source) g).Edge a b ↔
      (a ∈ names ∧ b = source) ∨ g.Edge a b := by
  induction names generalizing g with
  | nil => simp
  | cons first rest ih =>
    rw [List.foldl_cons, ih, edge_addEdge]
    simp [or_and_right, or_assoc, or_left_comm]

theorem edge_turnEntries {entries : List (String × NameSet)} :
    (entries.foldl
      (fun turned (source, names) =>
        names.toList.foldl (fun turned target => addEdge turned target source) turned)
      g).Edge a b ↔
      (∃ names, (b, names) ∈ entries ∧ a ∈ names) ∨ g.Edge a b := by
  induction entries generalizing g with
  | nil => simp
  | cons first rest ih =>
    obtain ⟨source, names⟩ := first
    rw [List.foldl_cons, ih, edge_turnTargets]
    constructor
    · rintro (⟨others, hmem, ha⟩ | ⟨ha, rfl⟩ | hedge)
      · exact Or.inl ⟨others, List.mem_cons_of_mem _ hmem, ha⟩
      · exact Or.inl ⟨names, List.mem_cons_self, ha⟩
      · exact Or.inr hedge
    · rintro (⟨others, hmem, ha⟩ | hedge)
      · rcases List.mem_cons.1 hmem with heq | hmem
        · cases heq
          exact Or.inr (Or.inl ⟨ha, rfl⟩)
        · exact Or.inl ⟨others, hmem, ha⟩
      · exact Or.inr (Or.inr hedge)

/-- The inverse holds an edge if and only if the graph holds the edge back. -/
theorem edge_inverse : g.inverse.Edge b a ↔ g.Edge a b := by
  rw [inverse, edge_turnEntries, or_iff_left not_edge_empty, edge_iff]
  simp only [NameMap.get?_eq_some_iff]

theorem path_inverse : g.inverse.Path b a ↔ g.Path a b := by
  constructor
  · intro h
    induction h with
    | single hedge => exact .single (edge_inverse.1 hedge)
    | tail _ hedge ih => exact .cons (edge_inverse.1 hedge) ih
  · intro h
    induction h with
    | single hedge => exact .single (edge_inverse.2 hedge)
    | tail _ hedge ih => exact .cons (edge_inverse.2 hedge) ih

theorem Acyclic.inverse (h : g.Acyclic) : g.inverse.Acyclic :=
  fun name hcycle => h name (path_inverse.1 hcycle)

/-! ## Descent -/

/-- In a graph without cycles less can be reached from the end of a path than from its start. -/
theorem Acyclic.size_reachable_lt (h : g.Acyclic) (hpath : g.Path a b) :
    (g.reachable b).size < (g.reachable a).size := by
  have hb : b ∈ g.reachable a := mem_reachable.2 hpath
  have hsub : ∀ c, c ∈ g.reachable b → c ∈ g.reachable a := by
    intro c hc
    exact mem_reachable.2 (hpath.trans (mem_reachable.1 hc))
  exact NameSet.size_lt_size hsub hb fun hcycle => h b (mem_reachable.1 hcycle)

theorem acyclic_iff : g.Acyclic ↔ ∀ name ∈ g.keys, ¬ name ∈ g.reachable name := by
  constructor
  · exact fun h name _ hmem => h name (mem_reachable.1 hmem)
  · intro h name hcycle
    -- A name on a cycle has a target, and only keys have targets.
    refine h name ?_ (mem_reachable.2 hcycle)
    rcases Path.head hcycle with hedge | ⟨_, hedge, _⟩
    · exact mem_keys_of_edge hedge
    · exact mem_keys_of_edge hedge

instance : Decidable g.Acyclic := decidable_of_iff _ acyclic_iff.symm

end NameGraph

end TypedQuery
