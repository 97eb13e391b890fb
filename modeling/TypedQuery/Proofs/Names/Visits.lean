-- SUMMARY: Visits that share one record end, and add to it what can be reached.
import TypedQuery.Proofs.Names.Extensional
import TypedQuery.Proofs.Names.Walk

/-!
# Visits with a shared record

`NameGraph.visit` goes from a name to those of its targets that are not on record, puts each of them on
it, and visits it in turn before the next one. It passes over names that are on record already, even if
the visit to them is still under way. As every visit but the last one inside each other takes a key off
those that are not on record, `visit_eq_collect` bounds how many are under way at once, cycles or not;
what they put on record is what `NameGraph.collect` finds.
-/
namespace TypedQuery

namespace NameGraph

variable {g : NameGraph} {seen more : NameSet} {a b : String} {depth : Nat}
  {names others : List String}

/-- Put the targets of a name on record, and visit each of them unless it was there. At most `depth`
visits are under way at once. -/
def visit (g : NameGraph) : Nat → NameSet → String → Except TooDeep NameSet
  | 0, _, _ => .error .tooDeep
  | depth + 1, seen, name =>
    (g.targets name).foldlM
      (fun seen target =>
        if target ∈ seen then .ok seen else g.visit depth (seen.insert target) target)
      seen

/-! ## Walks in parts -/

theorem follow_append :
    g.follow seen (names ++ others) = g.follow (g.follow seen names) others := by
  fun_induction follow g seen names with
  | case1 seen => rfl
  | case2 seen name rest hseen ih => rw [List.cons_append, follow, dif_pos hseen, ih]
  | case3 seen name rest hseen ih =>
    rw [List.cons_append, follow, dif_neg hseen, ← ih, List.append_assoc]

theorem follow_cons_of_seen (h : a ∈ seen) : g.follow seen (a :: names) = g.follow seen names := by
  rw [follow, dif_pos h]

/-- A walk is done with a name that was not seen before it goes on to the next one. -/
theorem follow_cons_of_unseen (h : ¬ a ∈ seen) :
    g.follow seen (a :: names) = g.follow (g.collect (seen.insert a) a) names := by
  rw [follow, dif_neg h, follow_append, collect]

theorem mem_collect_of_mem (h : a ∈ seen) : a ∈ g.collect seen b := mem_follow_of_seen h

/-! ## Names that are not on record -/

/-- The keys that have not been seen. -/
def unseen (g : NameGraph) (seen : NameSet) : NameSet :=
  (NameSet.mk g.keys g.ascending).filter (¬ · ∈ seen)

theorem mem_unseen_iff : a ∈ g.unseen seen ↔ a ∈ g.keys ∧ ¬ a ∈ seen := by
  rw [unseen, NameSet.mem_filter, decide_eq_true_iff]
  exact Iff.rfl

theorem size_unseen_le (h : ∀ name, name ∈ seen → name ∈ more) :
    (g.unseen more).size ≤ (g.unseen seen).size := by
  refine (g.unseen more).nodup.length_le_of_subset fun name hname => ?_
  obtain ⟨hkey, hnew⟩ := mem_unseen_iff.1 hname
  exact mem_unseen_iff.2 ⟨hkey, fun hseen => hnew (h name hseen)⟩

theorem size_unseen_insert_lt (hkey : a ∈ g.keys) (hnew : ¬ a ∈ seen) :
    (g.unseen (seen.insert a)).size < (g.unseen seen).size := by
  have hself : ¬ a ∈ g.unseen (seen.insert a) := fun hself =>
    (mem_unseen_iff.1 hself).2 (NameSet.mem_insert.2 (.inl rfl))
  refine NameSet.size_lt_size (fun name hname => ?_) (mem_unseen_iff.2 ⟨hkey, hnew⟩) hself
  obtain ⟨hother, hnew⟩ := mem_unseen_iff.1 hname
  exact mem_unseen_iff.2 ⟨hother, fun hseen => hnew (NameSet.mem_insert.2 (.inr hseen))⟩

theorem size_unseen_le_size : (g.unseen seen).size ≤ g.size := by
  have hkeys : (g.unseen seen).size ≤ g.keys.length := List.length_filter_le _ _
  rwa [NameMap.keys, List.length_map] at hkeys

theorem targets_of_not_key (h : a ∉ g.keys) : g.targets a = [] := by
  rw [List.eq_nil_iff_forall_not_mem]
  exact fun target hedge => h (mem_keys_of_edge hedge)

/-! ## Visits -/

/-- A visit to a name without targets changes nothing. -/
theorem visit_of_not_key (h : a ∉ g.keys) (hdepth : 0 < depth) : g.visit depth seen a = .ok seen := by
  obtain ⟨below, rfl⟩ := Nat.exists_eq_add_one_of_ne_zero (Nat.pos_iff_ne_zero.1 hdepth)
  rw [visit, targets_of_not_key h]
  rfl

theorem collect_of_not_key (h : a ∉ g.keys) : g.collect seen a = seen := by
  rw [collect, targets_of_not_key h, follow]

/-- A visit ends, and puts on record what a walk finds. -/
theorem visit_eq_collect (h : (g.unseen seen).size + 1 < depth) :
    g.visit depth seen a = .ok (g.collect seen a) := by
  induction depth generalizing seen a with
  | zero => exact absurd h (Nat.not_lt_zero _)
  | succ depth ih =>
    -- Either one key less is off the record during the visit to a target, or the target is no key
    -- and its visit is over at once.
    have hinside {seen : NameSet} {b : String} (hnew : ¬ b ∈ seen)
        (hroom : (g.unseen seen).size < depth) :
        g.visit depth (seen.insert b) b = .ok (g.collect (seen.insert b) b) := by
      by_cases hkey : b ∈ g.keys
      · apply ih
        have hless := size_unseen_insert_lt hkey hnew
        omega
      · rw [visit_of_not_key hkey (Nat.zero_lt_of_lt hroom), collect_of_not_key hkey]
    -- One target after the other. Each visit only adds to the record, so the next one has as much
    -- room.
    have htargets (names : List String) (seen : NameSet) (hroom : (g.unseen seen).size < depth) :
        names.foldlM
          (fun seen target =>
            if target ∈ seen then .ok seen else g.visit depth (seen.insert target) target)
          seen = .ok (g.follow seen names) := by
      induction names generalizing seen with
      | nil => rw [follow]; rfl
      | cons b rest irest =>
        rw [List.foldlM_cons]
        by_cases hseen : b ∈ seen
        · rw [if_pos hseen, follow_cons_of_seen hseen]
          exact irest seen hroom
        · rw [if_neg hseen, hinside hseen hroom, follow_cons_of_unseen hseen]
          apply irest
          have hgrown : ∀ name, name ∈ seen → name ∈ g.collect (seen.insert b) b := fun name hname =>
            mem_collect_of_mem (NameSet.mem_insert.2 (.inr hname))
          exact Nat.lt_of_le_of_lt (size_unseen_le hgrown) hroom
    exact htargets _ _ (Nat.lt_of_add_lt_add_right h)

theorem foldlM_visit (h : g.size + 1 < depth) :
    names.foldlM (g.visit depth) seen = .ok (names.foldl g.collect seen) := by
  induction names generalizing seen with
  | nil => rfl
  | cons a rest ih =>
    have hvisit : g.visit depth seen a = .ok (g.collect seen a) :=
      visit_eq_collect (Nat.lt_of_le_of_lt (Nat.succ_le_succ size_unseen_le_size) h)
    rw [List.foldlM_cons, hvisit, List.foldl_cons]
    exact ih

theorem closed_foldl_collect (h : g.Closed seen) : g.Closed (names.foldl g.collect seen) := by
  induction names generalizing seen with
  | nil => exact h
  | cons a rest ih => exact ih (closed_collect h)

/-- On any graph, with cycles or without, a visit ends if its record is closed under targets: no more
visits are under way at once than there are keys, and two. The record then holds what it held and what
can be reached from the name, and it is closed again. So visits to several names, one after the
other and with one record, put on record what can be reached from any of them, in whatever order they
are made. -/
theorem visit_adds_reachable (hclosed : g.Closed seen) (hdepth : g.size + 2 ≤ depth) :
    (∀ name, g.visit depth seen name = .ok (g.collect seen name) ∧ g.Closed (g.collect seen name) ∧
      ∀ other, other ∈ g.collect seen name ↔ other ∈ seen ∨ g.Path name other) ∧
    ∀ names : List String, names.foldlM (g.visit depth) seen = .ok (names.foldl g.collect seen) ∧
      g.Closed (names.foldl g.collect seen) ∧
      (∀ other, other ∈ names.foldl g.collect seen ↔
        other ∈ seen ∨ ∃ name ∈ names, g.Path name other) ∧
      ∀ others : List String, names.Perm others →
        others.foldlM (g.visit depth) seen = names.foldlM (g.visit depth) seen := by
  constructor
  · intro name
    have hroom : (g.unseen seen).size + 1 < depth :=
      Nat.lt_of_le_of_lt (Nat.succ_le_succ size_unseen_le_size) hdepth
    exact ⟨visit_eq_collect hroom, closed_collect hclosed, fun other => mem_collect hclosed⟩
  · intro names
    refine ⟨foldlM_visit hdepth, closed_foldl_collect hclosed,
      fun other => mem_foldl_collect hclosed, fun others hperm => ?_⟩
    rw [foldlM_visit hdepth, foldlM_visit hdepth]
    refine congrArg Except.ok (NameSet.ext_mem fun other => ?_)
    simp only [mem_foldl_collect hclosed, hperm.mem_iff]

/-- Two names on a cycle, one that leads to them, and one that has no targets. -/
def roundabout : NameGraph :=
  [("east", "north"), ("north", "east"), ("ramp", "east"), ("north", "exit")].foldl
    (fun g (source, target) => addEdge g source target) ∅

theorem visit_adds_reachable_roundabout :
    roundabout.Closed (NameSet.ofList ["exit"]) ∧ roundabout.size + 2 ≤ 5 ∧
      ["ramp", "east"].foldlM (roundabout.visit 5) (NameSet.ofList ["exit"]) =
        .ok (NameSet.ofList ["east", "exit", "north"]) ∧
      ["east", "ramp"].foldlM (roundabout.visit 5) (NameSet.ofList ["exit"]) =
        .ok (NameSet.ofList ["east", "exit", "north"]) := by
  have hclosed : roundabout.Closed (NameSet.ofList ["exit"]) := by
    intro source target hsource hedge
    obtain rfl : source = "exit" := by simpa using NameSet.mem_ofList.1 hsource
    cases hedge
  have hsize : roundabout.size + 2 ≤ 5 := by decide
  obtain ⟨_, _, _, horder⟩ := (visit_adds_reachable hclosed hsize).2 ["ramp", "east"]
  have hfirst : ["ramp", "east"].foldlM (roundabout.visit 5) (NameSet.ofList ["exit"]) =
      .ok (NameSet.ofList ["east", "exit", "north"]) := by decide
  exact ⟨hclosed, hsize, hfirst, (horder _ (.swap _ _ _)).trans hfirst⟩

end NameGraph

end TypedQuery
