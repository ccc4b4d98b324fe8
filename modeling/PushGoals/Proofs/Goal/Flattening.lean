import Mathlib.Data.List.Forall2
import PushGoals.Proofs.Goal.Merging

/-!
# Merges of merges

A merge renames, leaves out repeated goals and may come to nothing, and yet a
merge of merges is the merge of all their contributions at once: inner merges
leave out only goals that the outer one leaves out as well, they are locked when
one of their contributions is, and what they cut off stands behind a lock.

`GoalSet.Flattens` says this of a result and the contributions it stands for.  It
holds of a single contribution, and merging and enriching keep it.
-/

namespace PushGoals

namespace Goal

theorem dedupeFrom_eq_eraseDupsBy (seen : List String) (goals : List Goal) :
    dedupeFrom seen goals =
      (goals.filter fun g => !seen.contains g.uniqueName).eraseDupsBy isSame := by
  induction goals generalizing seen with
  | nil => rfl
  | cons g rest ih =>
      by_cases hg : g.uniqueName ∈ seen
      · rw [dedupeFrom_cons_of_mem rest hg, ih, List.filter_cons_of_neg (by simp [hg])]
      · have hrest : (rest.filter fun h => !(g.uniqueName :: seen).contains h.uniqueName) =
            (rest.filter fun h => !seen.contains h.uniqueName).filter
              fun h => h.isSame g = false := by
          rw [List.filter_filter]
          apply List.filter_congr
          intro h _
          by_cases hsame : h.uniqueName = g.uniqueName <;> simp [isSame, hsame]
        rw [dedupeFrom_cons_of_not_mem rest hg, ih, hrest,
          List.filter_cons_of_pos (by simp [hg]), List.eraseDupsBy_cons]

/-- The goals that are kept are the first occurrences. -/
theorem dedupe_eq_eraseDupsBy (goals : List Goal) : dedupe goals = goals.eraseDupsBy isSame := by
  have hnone : (goals.filter fun g => !([] : List String).contains g.uniqueName) = goals := by
    simp
  rw [dedupe, dedupeFrom_eq_eraseDupsBy, hnone]

theorem names_dedupeFrom (seen : List String) (goals : List Goal) :
    (dedupeFrom seen goals).map (·.uniqueName) =
      ((goals.map (·.uniqueName)).filter fun name => !seen.contains name).eraseDups := by
  induction goals generalizing seen with
  | nil => rfl
  | cons g rest ih =>
      rw [List.map_cons]
      by_cases hg : g.uniqueName ∈ seen
      · rw [dedupeFrom_cons_of_mem rest hg, ih, List.filter_cons_of_neg (by simp [hg])]
      · have hrest : ((rest.map (·.uniqueName)).filter
              fun name => !(g.uniqueName :: seen).contains name) =
            ((rest.map (·.uniqueName)).filter fun name => !seen.contains name).filter
              fun name => !name == g.uniqueName := by
          rw [List.filter_filter]
          apply List.filter_congr
          intro name _
          by_cases hsame : name = g.uniqueName <;> simp [hsame]
        rw [dedupeFrom_cons_of_not_mem rest hg, List.map_cons, ih, hrest,
          List.filter_cons_of_pos (by simp [hg]), List.eraseDups_cons]

/-- The names that are kept are the first occurrences. -/
theorem names_dedupe (goals : List Goal) :
    (dedupe goals).map (·.uniqueName) = (goals.map (·.uniqueName)).eraseDups := by
  have hnone : ((goals.map (·.uniqueName)).filter fun name => !([] : List String).contains name) =
      goals.map (·.uniqueName) := by simp
  rw [dedupe, names_dedupeFrom, hnone]

theorem dedupe_eq_nil_iff {goals : List Goal} : dedupe goals = [] ↔ goals = [] := by
  cases goals with
  | nil => simp [dedupe]
  | cons g rest => simp [dedupe, dedupeFrom]

theorem dedupeFrom_eq_filter (seen : List String) (goals : List Goal) :
    dedupeFrom seen goals = (dedupe goals).filter fun g => !seen.contains g.uniqueName := by
  induction goals generalizing seen with
  | nil => rfl
  | cons g rest ih =>
      have hfirst : dedupe (g :: rest) = g :: dedupeFrom [g.uniqueName] rest :=
        dedupeFrom_cons_of_not_mem rest List.not_mem_nil
      rw [hfirst, ih [g.uniqueName]]
      by_cases hg : g.uniqueName ∈ seen
      · rw [dedupeFrom_cons_of_mem rest hg, ih, List.filter_cons_of_neg (by simp [hg]),
          List.filter_filter]
        apply List.filter_congr
        intro h _
        by_cases hsame : h.uniqueName = g.uniqueName
        · simp [hsame, hg]
        · simp [hsame]
      · rw [dedupeFrom_cons_of_not_mem rest hg, ih, List.filter_cons_of_pos (by simp [hg]),
          List.filter_filter]
        congr 1
        apply List.filter_congr
        intro h _
        by_cases hsame : h.uniqueName = g.uniqueName <;> simp [hsame]

theorem dedupeFrom_append (seen : List String) (first rest : List Goal) :
    dedupeFrom seen (first ++ rest) =
      dedupeFrom seen first ++
        (dedupeFrom seen rest).filter
          fun g => !(first.map (·.uniqueName)).contains g.uniqueName := by
  induction first generalizing seen with
  | nil => exact (List.filter_true _).symm
  | cons f first ih =>
      by_cases hf : f.uniqueName ∈ seen
      · rw [List.cons_append, dedupeFrom_cons_of_mem _ hf, dedupeFrom_cons_of_mem _ hf, ih]
        congr 1
        apply List.filter_congr
        intro g hg
        have hnew : g.uniqueName ∉ seen := by
          have hname := mem_names_dedupeFrom.mp (List.mem_map_of_mem hg)
          exact hname.1
        have hother : g.uniqueName ≠ f.uniqueName := fun heq => hnew (heq ▸ hf)
        simp [hother]
      · rw [List.cons_append, dedupeFrom_cons_of_not_mem _ hf, dedupeFrom_cons_of_not_mem _ hf, ih,
          List.cons_append]
        congr 2
        rw [dedupeFrom_eq_filter seen, dedupeFrom_eq_filter (f.uniqueName :: seen),
          List.filter_filter, List.filter_filter]
        apply List.filter_congr
        intro g _
        by_cases hsame : g.uniqueName = f.uniqueName <;> simp [hsame]

theorem dedupe_append (first rest : List Goal) :
    dedupe (first ++ rest) =
      dedupe first ++
        (dedupe rest).filter fun g => !(first.map (·.uniqueName)).contains g.uniqueName :=
  dedupeFrom_append [] first rest

/-- Which goals are kept hangs on the kept goals of both parts alone. -/
theorem dedupe_append_congr {first first' rest rest' : List Goal}
    (hfirst : dedupe first = dedupe first') (hrest : dedupe rest = dedupe rest') :
    dedupe (first ++ rest) = dedupe (first' ++ rest') := by
  rw [dedupe_append, dedupe_append, hfirst, hrest]
  congr 1
  apply List.filter_congr
  intro g _
  have hname : g.uniqueName ∈ first.map (·.uniqueName) ↔
      g.uniqueName ∈ first'.map (·.uniqueName) := by
    rw [← mem_names_dedupe, hfirst, mem_names_dedupe]
  simp only [List.contains_eq_mem, hname]

theorem dedupeFrom_sublist (seen : List String) (goals : List Goal) :
    (dedupeFrom seen goals).Sublist goals := by
  induction goals generalizing seen with
  | nil => exact .slnil
  | cons g rest ih =>
      by_cases hg : g.uniqueName ∈ seen
      · rw [dedupeFrom_cons_of_mem rest hg]
        exact (ih seen).cons g
      · rw [dedupeFrom_cons_of_not_mem rest hg]
        exact (ih (g.uniqueName :: seen)).cons_cons g

theorem dedupeFrom_dedupeFrom (seen : List String) (goals : List Goal) :
    dedupeFrom seen (dedupeFrom seen goals) = dedupeFrom seen goals := by
  induction goals generalizing seen with
  | nil => rfl
  | cons g rest ih =>
      by_cases hg : g.uniqueName ∈ seen
      · rw [dedupeFrom_cons_of_mem rest hg, ih]
      · rw [dedupeFrom_cons_of_not_mem rest hg, dedupeFrom_cons_of_not_mem _ hg, ih]

theorem dedupe_dedupe (goals : List Goal) : dedupe (dedupe goals) = dedupe goals :=
  dedupeFrom_dedupeFrom [] goals

end Goal

namespace GoalSet

/-- A contribution that counts in a merge whatever stands beside it. -/
def Solid (set : GoalSet) : Prop := set.locked = true ∨ set.goals ≠ []

theorem untilLocked_eq_take (sets : List GoalSet) :
    untilLocked sets = sets.take (sets.findIdx (·.locked) + 1) := by
  induction sets with
  | nil => rfl
  | cons set rest ih =>
      by_cases hlocked : set.locked = true
      · rw [untilLocked_cons_of_locked rest hlocked, List.findIdx_cons]
        simp [hlocked]
      · have hopen : set.locked = false := Bool.eq_false_iff.mpr hlocked
        rw [untilLocked_cons_of_open rest hopen, List.findIdx_cons, ih]
        simp [hopen]

theorem untilLocked_append_of_locked {first : List GoalSet} (rest : List GoalSet)
    (hlocked : first.any (·.locked) = true) : untilLocked (first ++ rest) = untilLocked first := by
  induction first with
  | nil => cases hlocked
  | cons set first ih =>
      by_cases hset : set.locked = true
      · rw [List.cons_append, untilLocked_cons_of_locked _ hset, untilLocked_cons_of_locked _ hset]
      · have hopen : set.locked = false := Bool.eq_false_iff.mpr hset
        rw [List.any_cons, hopen, Bool.false_or] at hlocked
        rw [List.cons_append, untilLocked_cons_of_open _ hopen, untilLocked_cons_of_open _ hopen,
          ih hlocked]

theorem untilLocked_append_of_open {first : List GoalSet} (rest : List GoalSet)
    (hopen : first.any (·.locked) = false) :
    untilLocked (first ++ rest) = first ++ untilLocked rest := by
  induction first with
  | nil => rfl
  | cons set first ih =>
      rw [List.any_cons, Bool.or_eq_false_iff] at hopen
      rw [List.cons_append, untilLocked_cons_of_open _ hopen.1, ih hopen.2, List.cons_append]

theorem untilLocked_of_open {sets : List GoalSet} (hopen : sets.any (·.locked) = false) :
    untilLocked sets = sets := by
  have happend := untilLocked_append_of_open [] hopen
  rwa [untilLocked_nil, List.append_nil] at happend

theorem merge_eq_none_iff {contributions : List GoalSet} :
    merge contributions = none ↔
      Goal.dedupe ((untilLocked contributions).flatMap (·.goals)) = [] ∧
        contributions.any (·.locked) = false := by
  rw [← any_locked_untilLocked]
  unfold merge
  simp [List.isEmpty_iff]

theorem name_of_merge {contributions : List GoalSet} {merged : GoalSet}
    (hmerged : merge contributions = some merged) :
    merged.name = ", ".intercalate ((untilLocked contributions).map (·.name)) := by
  unfold merge at hmerged
  simp only at hmerged
  split at hmerged
  · cases hmerged
  · cases hmerged
    rfl

theorem merge_singleton {set : GoalSet} (hsolid : set.Solid)
    (hdedupe : Goal.dedupe set.goals = set.goals) : merge [set] = some set := by
  have hcounted : untilLocked [set] = [set] := by
    by_cases hlocked : set.locked = true <;> simp [untilLocked, hlocked]
  have hsome : (set.goals.isEmpty && !set.locked) = false := by
    rcases hsolid with hlocked | hgoals
    · simp [hlocked]
    · simp [hgoals]
  have hgoals : [set].flatMap (·.goals) = set.goals := List.append_nil _
  have hlock : [set].any (·.locked) = set.locked := Bool.or_false _
  unfold merge
  simp only [hcounted, hgoals, hdedupe, hlock, hsome, Bool.false_eq_true, if_false]
  rfl

theorem goals_of_merge {contributions : List GoalSet} {merged : GoalSet}
    (hmerged : merge contributions = some merged) :
    merged.goals = Goal.dedupe ((untilLocked contributions).flatMap (·.goals)) := by
  rw [← goals_merge, hmerged]
  rfl

theorem solid_of_merge {contributions : List GoalSet} {merged : GoalSet}
    (hmerged : merge contributions = some merged) : merged.Solid := by
  unfold merge at hmerged
  simp only at hmerged
  split at hmerged
  · cases hmerged
  · next hsome =>
      cases hmerged
      by_cases hlocked : (untilLocked contributions).any (·.locked) = true
      · exact .inl hlocked
      · refine .inr fun hnone => hsome ?_
        rw [Bool.eq_false_iff.mpr hlocked]
        exact congrArg (fun goals => List.isEmpty goals && !false) hnone

/-- A merge that is merged again stays as it is. -/
theorem merge_merge (contributions : List GoalSet) :
    merge (merge contributions).toList = merge contributions := by
  cases hmerged : merge contributions with
  | none => rfl
  | some merged =>
      apply merge_singleton (solid_of_merge hmerged)
      rw [goals_of_merge hmerged, Goal.dedupe_dedupe]

theorem Solid.merge_ne_none {set : GoalSet} (hset : set.Solid) (rest : List GoalSet) :
    merge (set :: rest) ≠ none := by
  rw [Ne, merge_eq_none_iff]
  rintro ⟨hgoals, hopen⟩
  rw [List.any_cons, Bool.or_eq_false_iff] at hopen
  rcases hset with hlocked | hsome
  · rw [hlocked] at hopen
    cases hopen.1
  · rw [untilLocked_cons_of_open rest hopen.1, List.flatMap_cons, Goal.dedupe_append,
      List.append_eq_nil_iff] at hgoals
    cases hset : set.goals with
    | nil => exact hsome hset
    | cons g goals =>
        rw [hset] at hgoals
        cases hgoals.1

/-- `given` stands for `sets`: up to repeated goals it has their goals up to the
first lock, it is locked with them, and it is called by their names. -/
structure Flattens (sets : List GoalSet) (given : Option GoalSet) : Prop where
  goals : Goal.dedupe ((given.map (·.goals)).getD []) =
    Goal.dedupe ((untilLocked sets).flatMap (·.goals))
  closed : Rule.closed given = sets.any (·.locked)
  none_of_nil : sets = [] → given = none
  name : (∀ set ∈ sets, set.Solid) → sets ≠ [] →
    given.map (·.name) = some (", ".intercalate ((untilLocked sets).map (·.name)))

namespace Flattens

theorem single (given : Option GoalSet) : Flattens given.toList given := by
  cases given with
  | none => exact ⟨rfl, rfl, fun _ => rfl, fun _ hne => absurd rfl hne⟩
  | some set =>
      have hcounted : untilLocked [set] = [set] := by
        by_cases hlocked : set.locked = true <;> simp [untilLocked, hlocked]
      refine ⟨?_, ?_, ?_, ?_⟩
      · simp [hcounted]
      · simp
      · simp
      · intro _ _
        simp [hcounted]

theorem nil_iff {sets : List GoalSet} {given : Option GoalSet} (hgiven : Flattens sets given)
    (hsolid : ∀ set ∈ sets, set.Solid) : given = none ↔ sets = [] := by
  constructor
  · intro hnone
    by_contra hne
    have hname := hgiven.name hsolid hne
    rw [hnone] at hname
    cases hname
  · exact hgiven.none_of_nil

variable {groups : List (List GoalSet)} {givens : List (Option GoalSet)}

theorem dedupe_merged (hgroups : List.Forall₂ Flattens groups givens) :
    Goal.dedupe ((untilLocked (givens.filterMap id)).flatMap (·.goals)) =
      Goal.dedupe ((untilLocked groups.flatten).flatMap (·.goals)) := by
  induction hgroups with
  | nil => rfl
  | @cons group given groups givens hgiven _ ih =>
      rw [List.flatten_cons]
      cases hclosed : Rule.closed given with
      | true =>
          rw [untilLocked_append_of_locked _ (hgiven.closed.symm.trans hclosed), ← hgiven.goals]
          cases given with
          | none => cases hclosed
          | some set =>
              rw [List.filterMap_cons_some (f := id) rfl, untilLocked_cons_of_locked _ hclosed]
              simp
      | false =>
          have hopen : group.any (·.locked) = false := hgiven.closed.symm.trans hclosed
          have hgoals := hgiven.goals
          rw [untilLocked_of_open hopen] at hgoals
          rw [untilLocked_append_of_open _ hopen, List.flatMap_append]
          cases given with
          | none =>
              rw [List.filterMap_cons_none (f := id) rfl]
              exact Goal.dedupe_append_congr hgoals ih
          | some set =>
              rw [List.filterMap_cons_some (f := id) rfl, untilLocked_cons_of_open _ hclosed,
                List.flatMap_cons]
              exact Goal.dedupe_append_congr hgoals ih

theorem any_locked_merged (hgroups : List.Forall₂ Flattens groups givens) :
    (givens.filterMap id).any (·.locked) = groups.flatten.any (·.locked) := by
  induction hgroups with
  | nil => rfl
  | @cons group given groups givens hgiven _ ih =>
      rw [List.flatten_cons, List.any_append, ← ih, ← hgiven.closed]
      cases given <;> rfl

theorem merged_eq_nil_iff (hgroups : List.Forall₂ Flattens groups givens)
    (hsolid : ∀ set ∈ groups.flatten, set.Solid) :
    givens.filterMap id = [] ↔ groups.flatten = [] := by
  induction hgroups with
  | nil => simp
  | @cons group given groups givens hgiven _ ih =>
      rw [List.flatten_cons, List.forall_mem_append] at hsolid
      rw [List.flatten_cons, List.append_eq_nil_iff, ← ih hsolid.2, ← hgiven.nil_iff hsolid.1]
      cases given <;> simp

theorem name_merged (hgroups : List.Forall₂ Flattens groups givens)
    (hsolid : ∀ set ∈ groups.flatten, set.Solid) :
    ", ".intercalate ((untilLocked (givens.filterMap id)).map (·.name)) =
      ", ".intercalate ((untilLocked groups.flatten).map (·.name)) := by
  induction hgroups with
  | nil => rfl
  | @cons group given groups givens hgiven hrest ih =>
      rw [List.flatten_cons, List.forall_mem_append] at hsolid
      rw [List.flatten_cons]
      cases given with
      | none =>
          rw [(hgiven.nil_iff hsolid.1).mp rfl]
          exact ih hsolid.2
      | some set =>
          have hne : group ≠ [] := fun hnil => by
            have hnone := hgiven.none_of_nil hnil
            cases hnone
          have hname : set.name = ", ".intercalate ((untilLocked group).map (·.name)) :=
            Option.some.inj (hgiven.name hsolid.1 hne)
          rw [List.filterMap_cons_some (f := id) rfl]
          cases hclosed : set.locked with
          | true =>
              rw [untilLocked_cons_of_locked _ hclosed,
                untilLocked_append_of_locked _ (hgiven.closed.symm.trans hclosed), ← hname]
              simp
          | false =>
              have hopen : group.any (·.locked) = false := hgiven.closed.symm.trans hclosed
              rw [untilLocked_of_open hopen] at hname
              rw [untilLocked_cons_of_open _ hclosed, untilLocked_append_of_open _ hopen,
                List.map_cons, List.map_append]
              -- Names are joined with a separator only if there are names behind them.
              by_cases hnone : givens.filterMap id = []
              · have hflat := (merged_eq_nil_iff hrest hsolid.2).mp hnone
                rw [hnone, hflat, hname]
                simp
              · have hflat : groups.flatten ≠ [] := fun hnil =>
                  hnone ((merged_eq_nil_iff hrest hsolid.2).mpr hnil)
                have hnames {sets : List GoalSet} (hsets : sets ≠ []) :
                    (untilLocked sets).map (·.name) ≠ [] := by
                  rw [Ne, List.map_eq_nil_iff, untilLocked_eq_nil_iff]
                  exact hsets
                have hgroup : group.map (·.name) ≠ [] := by
                  rw [Ne, List.map_eq_nil_iff]
                  exact hne
                rw [String.intercalate_append_of_ne_nil hgroup (hnames hflat), ← hname,
                  ← ih hsolid.2, String.intercalate_cons_of_ne_nil (hnames hnone)]

theorem merge_eq_none_iff_merged (hgroups : List.Forall₂ Flattens groups givens) :
    GoalSet.merge (givens.filterMap id) = none ↔ GoalSet.merge groups.flatten = none := by
  rw [merge_eq_none_iff, merge_eq_none_iff, dedupe_merged hgroups, any_locked_merged hgroups]

/-- Merging results gives what merging all that they stand for gives. -/
theorem merge_eq (hgroups : List.Forall₂ Flattens groups givens)
    (hsolid : ∀ set ∈ groups.flatten, set.Solid) :
    GoalSet.merge (givens.filterMap id) = GoalSet.merge groups.flatten := by
  have hlocked : (untilLocked (givens.filterMap id)).any (·.locked) =
      (untilLocked groups.flatten).any (·.locked) := by
    rw [any_locked_untilLocked, any_locked_untilLocked]
    exact any_locked_merged hgroups
  unfold GoalSet.merge
  simp only [dedupe_merged hgroups, hlocked, name_merged hgroups hsolid]

/-- A merge of results stands for all that they stand for, in order. -/
theorem merge (hgroups : List.Forall₂ Flattens groups givens) :
    Flattens groups.flatten (GoalSet.merge (givens.filterMap id)) where
  goals := by
    rw [goals_merge, Goal.dedupe_dedupe]
    exact dedupe_merged hgroups
  closed := by
    rw [(joins_merge _).closed]
    exact any_locked_merged hgroups
  none_of_nil hnil := by
    rw [merge_eq_none_iff_merged hgroups, hnil]
    rfl
  name hsolid hne := by
    obtain ⟨set, rest, hflat⟩ := List.exists_cons_of_ne_nil hne
    have hset : set.Solid := by
      apply hsolid
      rw [hflat]
      exact List.mem_cons_self
    have hsome : GoalSet.merge (givens.filterMap id) ≠ none := by
      rw [Ne, merge_eq_none_iff_merged hgroups, hflat]
      exact hset.merge_ne_none rest
    obtain ⟨merged, hmerged⟩ := Option.ne_none_iff_exists'.mp hsome
    rw [hmerged, ← name_merged hgroups hsolid, ← name_of_merge hmerged]
    rfl

theorem pair {a b merged : GoalSet} (hmerged : GoalSet.merge [a, b] = some merged) :
    Flattens [a, b] (some merged) := by
  rw [← hmerged]
  exact merge (.cons (.single (some a)) (.cons (.single (some b)) .nil))

theorem none_append {first second : List GoalSet} {extension : Option GoalSet}
    (hbase : Flattens first none) (hextension : Flattens second extension) :
    Flattens (first ++ second) extension := by
  have hopen : first.any (·.locked) = false := hbase.closed.symm
  have hgoals := hbase.goals
  rw [untilLocked_of_open hopen] at hgoals
  refine ⟨?_, ?_, ?_, ?_⟩
  · rw [untilLocked_append_of_open _ hopen, List.flatMap_append]
    exact Goal.dedupe_append_congr hgoals hextension.goals
  · rw [List.any_append, hopen, Bool.false_or]
    exact hextension.closed
  · intro hnil
    exact hextension.none_of_nil (List.append_eq_nil_iff.mp hnil).2
  · intro hsolid hne
    rw [List.forall_mem_append] at hsolid
    have hfirst : first = [] := (hbase.nil_iff hsolid.1).mp rfl
    rw [hfirst, List.nil_append] at hne ⊢
    exact hextension.name hsolid.2 hne

theorem append_none {first second : List GoalSet} {old : GoalSet} (hopen : old.locked = false)
    (hbase : Flattens first (some old)) (hextension : Flattens second none) :
    Flattens (first ++ second) (some old) := by
  have hfirst : first.any (·.locked) = false := hbase.closed.symm.trans hopen
  have hgoals := hbase.goals
  rw [untilLocked_of_open hfirst] at hgoals
  refine ⟨?_, ?_, ?_, ?_⟩
  · rw [untilLocked_append_of_open _ hfirst, List.flatMap_append,
      ← List.append_nil ((Option.map _ (some old)).getD [])]
    exact Goal.dedupe_append_congr hgoals hextension.goals
  · rw [List.any_append, ← hextension.closed, closed_none, Bool.or_false]
    exact hbase.closed
  · intro hnil
    exact hbase.none_of_nil (List.append_eq_nil_iff.mp hnil).1
  · intro hsolid hne
    rw [List.forall_mem_append] at hsolid
    have hsecond : second = [] := (hextension.nil_iff hsolid.2).mp rfl
    rw [hsecond, List.append_nil] at hne ⊢
    exact hbase.name hsolid.1 hne

/-- What an enriched rule gives stands for what its two rules stand for. -/
theorem enrich {first second : List GoalSet} {base extension : Option GoalSet}
    (hbase : Flattens first base) (hextension : Flattens second extension) :
    Flattens (first ++ second)
      (if Rule.closed base then base else Rule.combine base extension) := by
  cases hclosed : Rule.closed base with
  | true =>
      have hlocked : first.any (·.locked) = true := hbase.closed.symm.trans hclosed
      rw [if_pos rfl]
      refine ⟨?_, ?_, ?_, ?_⟩
      · rw [untilLocked_append_of_locked _ hlocked]
        exact hbase.goals
      · rw [hclosed, List.any_append, hlocked, Bool.true_or]
      · intro hnil
        exact hbase.none_of_nil (List.append_eq_nil_iff.mp hnil).1
      · intro hsolid _
        have hne : first ≠ [] := fun hnil => by
          rw [hnil] at hlocked
          cases hlocked
        rw [untilLocked_append_of_locked _ hlocked]
        exact hbase.name (List.forall_mem_append.mp hsolid).1 hne
  | false =>
      have hopen : first.any (·.locked) = false := hbase.closed.symm.trans hclosed
      rw [if_neg Bool.false_ne_true]
      cases base with
      | none =>
          rw [Rule.combine_none_left]
          exact hbase.none_append hextension
      | some old =>
          cases extension with
          | none => exact hbase.append_none hclosed hextension
          | some added =>
              have hmerged := merge (.cons hbase (.cons hextension .nil))
              rwa [List.flatten_cons, List.flatten_cons, List.flatten_nil, List.append_nil]
                at hmerged

end Flattens

end GoalSet

end PushGoals
