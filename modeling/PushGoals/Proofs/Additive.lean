import PushGoals.Proofs.Decision
import PushGoals.Proofs.Goal.Flattening
import PushGoals.Proofs.Guard.Standard

/-!
# Additive deciders

Chains made of nothing but all-matches sets and enrichments above some leaves
come to one flat merge, however they are nested: of the sets that the leaves
give, in the order of declaration, those up to the first locked one count, and
each of their goals is set where it occurs first.

What a leaf is made of plays no part.  It has to give the same outcome from every
pass with some property that evaluations and the log keep: any pass at all for a
leaf that reads no scope and no cache, a pass with truthful caches for a leaf with
remembered tests.
-/

namespace PushGoals

namespace Eval

variable {V : Type} {inv : Pass → Prop}

theorem supervised_ok_gives (hlogged : ∀ p e, inv p → inv (p.emit e)) {name : Work String}
    (hname : Work.Yields inv name fun _ => True) {evaluation : Eval (Outcome V)}
    {outcome : Outcome V} (heval : Gives inv evaluation (.ok outcome)) :
    Gives inv (supervised name evaluation) (.ok outcome) := by
  apply (attempt_gives heval).bind_ok
  by_cases hmatched : outcome.isMatched = true
  · simp only [if_pos hmatched]
    apply gives_lift_bind hname
    intro called _
    apply gives_lift_bind (Work.yields_modify fun p hp => hlogged p (.ruleMatched called) hp)
    exact fun _ _ => gives_ok outcome
  · simp only [if_neg hmatched]
    exact gives_ok outcome

end Eval

namespace Rule

section Leaves

variable {V : Type}

mutual

/-- The rules below all sets and enrichments, in the order of declaration. -/
def leaves : Rule V → List (Rule V)
  | .allMatches _ contributors => leavesAmong contributors
  | .enriched _ base extension => leaves base ++ leaves extension
  | rule => [rule]

def leavesAmong : List (Rule V) → List (Rule V)
  | [] => []
  | rule :: rest => leaves rule ++ leavesAmong rest

end

@[simp] theorem leavesAmong_eq_flatMap (rules : List (Rule V)) :
    leavesAmong rules = rules.flatMap leaves := by
  induction rules with
  | nil => rfl
  | cons rule rest ih => simp [leavesAmong, ih]

end Leaves

variable {ctx : Context} {inv : Pass → Prop} {given : GoalRule → Outcome GoalSet}

def matchedSets (given : GoalRule → Outcome GoalSet) (leaves : List GoalRule) : List GoalSet :=
  leaves.filterMap fun leaf => (given leaf).value?

theorem matchedSets_append (first rest : List GoalRule) :
    matchedSets given (first ++ rest) = matchedSets given first ++ matchedSets given rest :=
  List.filterMap_append

theorem matchedSets_flatMap (rules : List GoalRule) :
    matchedSets given (rules.flatMap leaves) =
      (rules.map fun rule => matchedSets given rule.leaves).flatten := by
  induction rules with
  | nil => rfl
  | cons rule rest ih =>
      rw [List.flatMap_cons, matchedSets_append, ih, List.map_cons, List.flatten_cons]

/-- The rule gives a result that stands for the sets of its leaves. -/
def ComesTo (inv : Pass → Prop) (ctx : Context) (given : GoalRule → Outcome GoalSet)
    (rule : GoalRule) : Prop :=
  ∃ outcome, Eval.Gives inv (rule.eval ctx) (.ok outcome) ∧
    GoalSet.Flattens (matchedSets given rule.leaves) outcome.value?

theorem ComesTo.supervised (hlogged : ∀ p e, inv p → inv (p.emit e)) {rule : GoalRule}
    (hrule : rule.ComesTo inv ctx given) :
    ∃ outcome, Eval.Gives inv (supervise rule (rule.eval ctx)) (.ok outcome) ∧
      GoalSet.Flattens (matchedSets given rule.leaves) outcome.value? := by
  obtain ⟨outcome, heval, hflattens⟩ := hrule
  have hname : Work.Yields inv rule.currentName fun _ => True := fun _ hp => ⟨trivial, hp⟩
  exact ⟨outcome, Eval.supervised_ok_gives hlogged hname heval, hflattens⟩

/-- The members of a set give results whose merge stands for all their leaves. -/
theorem settle_comesTo (hlogged : ∀ p e, inv p → inv (p.emit e)) {rules : List GoalRule}
    (hrules : ∀ rule ∈ rules, rule.ComesTo inv ctx given) :
    ∃ outcomes : List (Outcome GoalSet),
      List.Forall₂ (Eval.Gives inv) (superviseEach ctx rules) (outcomes.map .ok) ∧
        GoalSet.Flattens (matchedSets given (rules.flatMap leaves))
          (GoalSet.merge (outcomes.filterMap Outcome.value?)) := by
  have hmembers : ∃ outcomes : List (Outcome GoalSet),
      List.Forall₂ (Eval.Gives inv) (superviseEach ctx rules) (outcomes.map .ok) ∧
        List.Forall₂ GoalSet.Flattens (rules.map fun rule => matchedSets given rule.leaves)
          (outcomes.map Outcome.value?) := by
    induction rules with
    | nil => exact ⟨[], .nil, .nil⟩
    | cons rule rest ih =>
        obtain ⟨hhead, hrest⟩ := List.forall_mem_cons.mp hrules
        obtain ⟨outcome, heval, hflattens⟩ := hhead.supervised hlogged
        obtain ⟨outcomes, hevals, hall⟩ := ih hrest
        exact ⟨outcome :: outcomes, .cons heval hevals, .cons hflattens hall⟩
  obtain ⟨outcomes, hevals, hall⟩ := hmembers
  refine ⟨outcomes, hevals, ?_⟩
  have hmerge := GoalSet.Flattens.merge hall
  rw [List.filterMap_map] at hmerge
  rw [matchedSets_flatMap]
  exact hmerge

theorem comesTo_of_leaf {rule : GoalRule} (hleaf : rule.leaves = [rule])
    (hgives : Eval.Gives inv (rule.eval ctx) (.ok (given rule))) : rule.ComesTo inv ctx given := by
  refine ⟨given rule, hgives, ?_⟩
  have hsets : matchedSets given rule.leaves = (given rule).value?.toList := by
    rw [hleaf]
    cases hvalue : (given rule).value? with
    | none => simp [matchedSets, hvalue]
    | some set => simp [matchedSets, hvalue]
  rw [hsets]
  exact .single _

theorem eval_comesTo (hlogged : ∀ p e, inv p → inv (p.emit e)) {rule : GoalRule}
    (hleaves : ∀ leaf ∈ rule.leaves, Eval.Gives inv (leaf.eval ctx) (.ok (given leaf))) :
    rule.ComesTo inv ctx given := by
  induction rule using Rule.induct with
  | allMatches name contributors ih =>
      have hmembers : ∀ rule ∈ contributors, rule.ComesTo inv ctx given := by
        intro rule hrule
        apply ih rule hrule
        intro leaf hleaf
        apply hleaves
        rw [leaves, leavesAmong_eq_flatMap]
        exact List.mem_flatMap_of_mem hrule hleaf
      obtain ⟨outcomes, hevals, hflattens⟩ := settle_comesTo hlogged hmembers
      have hcollect : Eval.collect (outcomes.map .ok) = .ok outcomes :=
        Eval.collect_eq_ok_iff.mpr rfl
      have hall := (Eval.allSettled_gives hevals).map fun outcomes =>
        Outcome.ofOption (GoalSet.merge (outcomes.filterMap Outcome.value?))
      rw [hcollect] at hall
      refine ⟨_, hall, ?_⟩
      rw [Outcome.value?_ofOption, leaves, leavesAmong_eq_flatMap]
      exact hflattens
  | enriched name base extension ihBase ihExtension =>
      obtain ⟨hbaseLeaves, hextensionLeaves⟩ := List.forall_mem_append.mp hleaves
      obtain ⟨outcome, hbase, hfirst⟩ := (ihBase hbaseLeaves).supervised hlogged
      obtain ⟨added, hextension, hsecond⟩ := (ihExtension hextensionLeaves).supervised hlogged
      refine ⟨.ofOption (if closed outcome.value? then outcome.value?
        else combine outcome.value? added.value?), ?_, ?_⟩
      · apply hbase.bind_ok
        by_cases hclosed : closed outcome.value? = true
        · simp only [if_pos hclosed]
          exact Eval.gives_ok _
        · simp only [if_neg hclosed]
          exact hextension.bind_ok (Eval.gives_ok _)
      · rw [Outcome.value?_ofOption, leaves, matchedSets_append]
        exact hfirst.enrich hsecond
  | _ => exact comesTo_of_leaf rfl (hleaves _ List.mem_cons_self)

end Rule

namespace GoalSet

/-- All sets up to and including the first locked one. -/
def upToLock (sets : List GoalSet) : List GoalSet := sets.take (sets.findIdx (·.locked) + 1)

/-- What a flat merge of `sets` comes to. -/
structure NormalForm (sets : List GoalSet) (given : Option GoalSet) : Prop where
  goals : (given.map (·.goals)).getD [] =
    ((upToLock sets).flatMap (·.goals)).eraseDupsBy Goal.isSame
  locked : (given.map (·.locked)).getD false = sets.any (·.locked)
  none_iff : given = none ↔
    ((upToLock sets).flatMap (·.goals)).eraseDupsBy Goal.isSame = [] ∧
      ∀ set ∈ sets, set.locked = false
  name : (∀ set ∈ sets, set.locked = true ∨ set.goals ≠ []) → ∀ merged, given = some merged →
    merged.name = ", ".intercalate ((upToLock sets).map (·.name))
  beforeLock : ∀ merged, given = some merged → ∀ goal ∈ merged.goals,
    ∃ set ∈ upToLock sets, goal ∈ set.goals

theorem Flattens.normalForm {sets contributions : List GoalSet}
    (hflattens : Flattens sets (GoalSet.merge contributions)) :
    NormalForm sets (GoalSet.merge contributions) := by
  have hgoals : ((GoalSet.merge contributions).map (·.goals)).getD [] =
      ((upToLock sets).flatMap (·.goals)).eraseDupsBy Goal.isSame := by
    rw [upToLock, ← untilLocked_eq_take, ← Goal.dedupe_eq_eraseDupsBy, ← hflattens.goals,
      goals_merge, Goal.dedupe_dedupe]
  have hlocked : ((GoalSet.merge contributions).map (·.locked)).getD false =
      sets.any (·.locked) := by
    rw [← hflattens.closed]
    cases GoalSet.merge contributions <;> rfl
  refine ⟨hgoals, hlocked, ?_, ?_, ?_⟩
  · rw [← hgoals, goals_merge, merge_eq_none_iff, ← (joins_merge contributions).closed,
      hflattens.closed]
    simp
  · intro hsolid merged hmerged
    have hne : sets ≠ [] := fun hnil => by
      rw [hflattens.none_of_nil hnil] at hmerged
      cases hmerged
    have hname := hflattens.name hsolid hne
    rw [hmerged] at hname
    rw [upToLock, ← untilLocked_eq_take]
    exact Option.some.inj hname
  · intro merged hmerged goal hgoal
    rw [hmerged] at hgoals
    have hkept : goal ∈ Goal.dedupe ((upToLock sets).flatMap (·.goals)) := by
      rw [Goal.dedupe_eq_eraseDupsBy, ← hgoals]
      exact hgoal
    exact List.mem_flatMap.mp ((Goal.dedupeFrom_sublist [] _).mem hkept)

end GoalSet

namespace Decider

variable {decider : Decider} {ctx : Context} {engine : Engine} {inv : Pass → Prop}
  {given : GoalRule → Outcome GoalSet}

/-- A decision is the flat merge of what the leaves below its chains give. -/
theorem additive_normal_form (hstart : inv (decider.start ctx engine))
    (hlogged : ∀ p e, inv p → inv (p.emit e))
    (hleaves : ∀ leaf ∈ decider.chains.flatMap Rule.leaves,
      Eval.Gives inv (leaf.eval ctx) (.ok (given leaf))) :
    ∃ decision, ((decider.decide ctx).run engine).1 = .ok decision ∧
      GoalSet.NormalForm (Rule.matchedSets given (decider.chains.flatMap Rule.leaves))
        decision.goals := by
  have hchains : ∀ rule ∈ decider.chains, rule.ComesTo inv ctx given := by
    intro rule hrule
    apply Rule.eval_comesTo hlogged
    exact fun leaf hleaf => hleaves leaf (List.mem_flatMap_of_mem hrule hleaf)
  obtain ⟨outcomes, hevals, hflattens⟩ := Rule.settle_comesTo hlogged hchains
  have hsettle := (Eval.settle_yields hevals _ hstart).1
  have hcollect : Eval.collect (outcomes.map .ok) = .ok outcomes :=
    Eval.collect_eq_ok_iff.mpr rfl
  rw [decide_eq, hsettle, hcollect]
  exact ⟨_, rfl, hflattens.normalForm⟩

/-- A decider in which a set with a remembered test closes the goals two levels
down, with rules behind it at every level. -/
def layered : Decider where
  chains :=
    [.enriched "check, delivery"
      (.fixed (.test .onAnyPush) none ⟨"check", [.ofName "check", .ofName "build"], false⟩)
      (.allMatches "delivery"
        [.fixed (.allOf [.test (.hasFile "Dockerfile")]) none
          ⟨"deploy", [.ofName "build", .ofName "deploy"], true⟩,
         .fixed (.test .onAnyPush) none ⟨"late", [.ofName "late"], false⟩]),
     .fixed (.test .onAnyPush) none ⟨"after", [.ofName "after"], false⟩]

def imagePush : Context :=
  (Context.ofPush ⟨⟨"owner", "repo", "main"⟩, "main", [], none⟩).withProject
    (.inMemory [("Dockerfile", "")] [])

def fixedOutcome : GoalRule → Outcome GoalSet
  | .fixed _ _ set => .matched set
  | _ => .noMatch

theorem layered_leaves_give (policy : FailurePolicy) :
    ∀ leaf ∈ layered.chains.flatMap Rule.leaves,
      Eval.Gives (Pass.Faithful imagePush [.test (.hasFile "Dockerfile")] policy)
        (leaf.eval imagePush) (.ok (fixedOutcome leaf)) := by
  have hnames : Guard.SameNamed [.test (.hasFile "Dockerfile")] := by
    intro g hg h hh _ ctx
    rw [List.mem_singleton.mp hg, List.mem_singleton.mp hh]
  have hopen (set : GoalSet) :
      Eval.Gives (Pass.Faithful imagePush [.test (.hasFile "Dockerfile")] policy)
        ((Rule.fixed (.test .onAnyPush) none set).eval imagePush) (.ok (.matched set)) :=
    Rule.eval_gives PushTest.onAnyPush_lasting.scopeFree hnames (fun _ hg => nomatch hg)
  have hgated (set : GoalSet) :
      Eval.Gives (Pass.Faithful imagePush [.test (.hasFile "Dockerfile")] policy)
        ((Rule.fixed (.allOf [.test (.hasFile "Dockerfile")]) none set).eval imagePush)
        (.ok (.matched set)) :=
    Rule.eval_gives ⟨(PushTest.hasFile_lasting "Dockerfile").scopeFree, trivial⟩ hnames
      (fun _ hg => hg)
  simp only [layered, List.flatMap_cons, List.flatMap_nil, Rule.leaves, Rule.leavesAmong,
    List.cons_append, List.nil_append, List.append_nil, List.forall_mem_cons]
  exact ⟨hopen _, hgated _, hopen _, hopen _, fun _ hleaf => nomatch hleaf⟩

/-- What stands behind the lock is left out at every level. -/
theorem layered_normal_form :
    ∃ decision, ((layered.decide imagePush).run {}).1 = .ok decision ∧
      GoalSet.namesOf decision.goals = ["check", "build", "deploy"] := by
  have hstart : Pass.Faithful imagePush [.test (.hasFile "Dockerfile")] .failFast
      (layered.start imagePush {}) := ⟨rfl, Caches.empty_default.truthful _ _⟩
  obtain ⟨decision, hdecide, hform⟩ := additive_normal_form hstart
    (fun _ _ hp => ⟨hp.policy, hp.caches⟩) (layered_leaves_give .failFast)
  have hnames : GoalSet.namesOf decision.goals =
      ((decision.goals.map (·.goals)).getD []).map (·.uniqueName) := by
    cases decision.goals <;> rfl
  refine ⟨decision, hdecide, ?_⟩
  rw [hnames, hform.goals]
  decide

end Decider

end PushGoals
