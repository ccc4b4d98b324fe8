import PushGoals.Proofs.Decision
import PushGoals.Proofs.Goal.Flattening
import PushGoals.Proofs.RulesFile.Definitions
import PushGoals.Proofs.RulesFile.Reading

/-!
# What rules files say

The rules of a file that set the goals of a push can be read off the file:
`RulesFile.contributing` is the first rule whose tests hold, or else all rules whose
tests hold up to the first that locks, without the rules that halt.  A decider that
is built from the file decides, for a push that is known as a whole, exactly what
these rules say, as long as a name stands for one expensive test.
-/

namespace PushGoals

namespace RuleSpec

def applies (holds : TestSpec → Bool) (spec : RuleSpec) : Bool := spec.tests.all holds

/-- What the rule sets, its goals as they are defined. -/
def goalSet (goals : List Goal) (spec : RuleSpec) : GoalSet where
  name := spec.name
  goals := spec.goals.filterMap (RulesFile.findGoal goals)
  locked := spec.lock

def verdict (goals : List Goal) (holds : TestSpec → Bool) (spec : RuleSpec) : Outcome GoalSet :=
  if spec.applies holds then
    if spec.halt then .halt else .matched (spec.goalSet goals)
  else .noMatch

end RuleSpec

namespace RulesFile

/-- All tests written in the file, those inside others too. -/
def tests (file : RulesFile) : List TestSpec :=
  file.rules.flatMap fun rule => TestSpec.nestedAmong rule.tests

/-- Different expensive tests of the file are built with different names. -/
def NamesTell (file : RulesFile) : Prop :=
  ∀ first ∈ file.tests, ∀ second ∈ file.tests, ∀ g h,
    first.build = .ok g → second.build = .ok h → g.cost = .expensive → h.cost = .expensive →
      g.name = h.name → first = second

/-- All rules up to and including the first that locks. -/
def upToLock (rules : List RuleSpec) : List RuleSpec := rules.take (rules.findIdx (·.lock) + 1)

/-- The rules that set the goals. -/
def contributing (holds : TestSpec → Bool) (file : RulesFile) : List RuleSpec :=
  match file.composition with
  | .firstMatch => (file.rules.find? (·.applies holds)).toList.filter (!·.halt)
  | .additive => upToLock ((file.rules.filter (·.applies holds)).filter (!·.halt))

/-- What rules set together, out of the goals that are defined. -/
structure SetBy (goals : List Goal) (rules : List RuleSpec) (given : Option GoalSet) : Prop where
  /-- The goals of the rules, each where it occurs first. -/
  names : GoalSet.namesOf given = (rules.flatMap (·.goals)).eraseDups
  defined : ∀ set, given = some set → ∀ goal ∈ set.goals,
    findGoal goals goal.uniqueName = some goal
  name : ∀ set, given = some set → set.name = ", ".intercalate (rules.map (·.name))
  locked : (given.map (·.locked)).getD false = rules.any (·.lock)
  none_iff : given = none ↔ rules.flatMap (·.goals) = [] ∧ ∀ rule ∈ rules, rule.lock = false

/-! ## The goals of rules -/

section Goals

variable {goals : List Goal}

def Resolved (goals : List Goal) (spec : RuleSpec) : Prop :=
  (spec.goalSet goals).uniqueNames = spec.goals

theorem flatMap_names {rules : List RuleSpec} (hrules : ∀ rule ∈ rules, Resolved goals rule) :
    ((rules.map (RuleSpec.goalSet goals)).flatMap (·.goals)).map (·.uniqueName) =
      rules.flatMap (·.goals) := by
  rw [List.flatMap_map, List.map_flatMap]
  exact List.flatMap_congr hrules

theorem untilLocked_goalSets (rules : List RuleSpec) :
    GoalSet.untilLocked (rules.map (RuleSpec.goalSet goals)) =
      (upToLock rules).map (RuleSpec.goalSet goals) := by
  rw [GoalSet.untilLocked_eq_take, List.findIdx_map, upToLock, List.map_take]
  rfl

theorem upToLock_singleton (rule : RuleSpec) : upToLock [rule] = [rule] :=
  List.take_of_length_le (Nat.le_add_left 1 _)

theorem upToLock_subset (rules : List RuleSpec) : upToLock rules ⊆ rules :=
  (List.take_sublist _ _).subset

theorem any_lock_upToLock (rules : List RuleSpec) :
    (upToLock rules).any (·.lock) = rules.any (·.lock) := by
  have hlocked := GoalSet.any_locked_untilLocked (rules.map (RuleSpec.goalSet []))
  rw [untilLocked_goalSets, List.any_map, List.any_map] at hlocked
  exact hlocked

/-- The merge of what rules set is what the rules up to the first lock set together. -/
theorem setBy_merge {rules : List RuleSpec} (hrules : ∀ rule ∈ rules, Resolved goals rule) :
    SetBy goals (upToLock rules) (GoalSet.merge (rules.map (RuleSpec.goalSet goals))) := by
  have hgoals := GoalSet.goals_merge (rules.map (RuleSpec.goalSet goals))
  have hclosed := (GoalSet.joins_merge (rules.map (RuleSpec.goalSet goals))).closed
  have hnames := flatMap_names fun rule hrule => hrules rule (upToLock_subset rules hrule)
  have hany : (rules.map (RuleSpec.goalSet goals)).any (·.locked) =
      (upToLock rules).any (·.lock) := by
    rw [any_lock_upToLock, List.any_map]
    rfl
  rw [untilLocked_goalSets] at hgoals
  refine ⟨?_, ?_, ?_, ?_, ?_⟩
  · have hnamesOf : GoalSet.namesOf (GoalSet.merge (rules.map (RuleSpec.goalSet goals))) =
        (((GoalSet.merge (rules.map (RuleSpec.goalSet goals))).map (·.goals)).getD []).map
          (·.uniqueName) := by
      cases GoalSet.merge (rules.map (RuleSpec.goalSet goals)) <;> rfl
    rw [hnamesOf, hgoals, Goal.names_dedupe, hnames]
  · intro set hset goal hgoal
    rw [hset] at hgoals
    have hkept : goal ∈ Goal.dedupe
        (((upToLock rules).map (RuleSpec.goalSet goals)).flatMap (·.goals)) := by
      rw [← hgoals]
      exact hgoal
    have hmem := (Goal.dedupeFrom_sublist [] _).mem hkept
    rw [List.flatMap_map] at hmem
    obtain ⟨rule, _, hrule⟩ := List.mem_flatMap.mp hmem
    obtain ⟨name, _, hfound⟩ := List.mem_filterMap.mp hrule
    rw [findGoal_name hfound]
    exact hfound
  · intro set hset
    rw [GoalSet.name_of_merge hset, untilLocked_goalSets, List.map_map]
    rfl
  · rw [← hany, ← hclosed]
    cases GoalSet.merge (rules.map (RuleSpec.goalSet goals)) <;> rfl
  · rw [GoalSet.merge_eq_none_iff, untilLocked_goalSets, hany, Goal.dedupe_eq_nil_iff, ← hnames,
      List.map_eq_nil_iff, List.any_eq_false]
    simp

theorem setBy_nil (goals : List Goal) : SetBy goals [] none :=
  @setBy_merge goals [] fun _ h => nomatch h

theorem setBy_singleton {rule : RuleSpec} (hrule : Resolved goals rule) :
    SetBy goals [rule] (GoalSet.merge [rule.goalSet goals]) := by
  have hset := setBy_merge (List.forall_mem_singleton.mpr hrule)
  rwa [upToLock_singleton] at hset

end Goals

/-! ## Rules as they are built -/

section Rules

variable {goals : List Goal}

/-- The rule does what is written. -/
structure BuiltFrom (goals : List Goal) (spec : RuleSpec) (rule : GoalRule) : Prop where
  answer : ∀ {ctx push files}, Context.Shows ctx push files → ∀ policy,
    rule.answer policy ctx = .ok (spec.verdict goals (TestSpec.holds push files))
  standard : ∀ P : {α : Type} → (Context → Probe α) → Prop,
    (∀ t : StandardTest, P t.test.run) → rule.Every P
  remembered : ∀ g ∈ rule.remembered,
    ∃ test ∈ TestSpec.nestedAmong spec.tests, test.build = .ok g ∧ g.cost = .expensive
  resolved : Resolved goals spec

theorem builtFrom_of_buildRule {spec : RuleSpec} {rule : GoalRule}
    (hbuild : buildRule goals spec = .ok rule) : BuiltFrom goals spec rule := by
  unfold buildRule at hbuild
  cases htests : TestSpec.buildAll spec.tests with
  | error pattern =>
      rw [htests] at hbuild
      cases hbuild
  | ok guards =>
      rw [htests] at hbuild
      have hbuilt := TestSpec.buildAll_eq_ok htests
      have hread := TestSpec.readEach_of_build (fun _ _ => TestSpec.readBy_of_build) hbuilt
      have hstandard := TestSpec.ReadBy.standard_memoize hread
      have hremembered := TestSpec.ReadBy.remembered_memoize hread hbuilt
      have hholds {ctx push files} (hshows : Context.Shows ctx push files) :
          (Guard.allOf guards).holds ctx = .ok (spec.applies (TestSpec.holds push files)) := by
        rw [Guard.holds, Guard.allOf, Guard.answer, TestSpec.ReadBy.answers_memoize hread hshows,
          RuleSpec.applies, ← TestSpec.ReadBy.all_map_matched]
        rfl
      by_cases hhalt : spec.halt = true
      · simp only [if_pos hhalt] at hbuild
        split at hbuild
        · cases hbuild
        · next hnone =>
            cases hbuild
            refine ⟨?_, hstandard, hremembered, ?_⟩
            · intro ctx push files hshows policy
              rw [Rule.answer, hholds hshows, RuleSpec.verdict, if_pos hhalt]
              cases spec.applies (TestSpec.holds push files) <;> rfl
            · have hgoals : spec.goals = [] := by
                cases hspec : spec.goals with
                | nil => rfl
                | cons name rest => simp [hspec] at hnone
              rw [Resolved, RuleSpec.goalSet, hgoals]
              rfl
      · simp only [if_neg hhalt] at hbuild
        cases hresolve : resolve goals spec.goals with
        | error missing =>
            rw [hresolve] at hbuild
            cases hbuild
        | ok found =>
            rw [hresolve] at hbuild
            cases hbuild
            obtain ⟨hfound, hnames⟩ := resolve_eq_ok hresolve
            refine ⟨?_, hstandard, hremembered, ?_⟩
            · intro ctx push files hshows policy
              rw [Rule.setGoals, Rule.answer, hholds hshows, RuleSpec.verdict, if_neg hhalt,
                RuleSpec.goalSet, ← hfound]
              cases spec.applies (TestSpec.holds push files) <;> rfl
            · rw [Resolved, RuleSpec.goalSet, ← hfound]
              exact hnames

theorem builtFrom_of_buildRules {specs : List RuleSpec} {rules : List GoalRule}
    (hbuild : buildRules goals specs = .ok rules) :
    List.Forall₂ (BuiltFrom goals) specs rules := by
  induction specs generalizing rules with
  | nil =>
      cases hbuild
      exact .nil
  | cons spec rest ih =>
      unfold buildRules at hbuild
      obtain ⟨rule, hrule, hthen⟩ := ok_of_bind hbuild
      obtain ⟨more, hmore, hrules⟩ := ok_of_bind hthen
      cases hrules
      exact .cons (builtFrom_of_buildRule hrule) (ih hmore)

variable {specs : List RuleSpec} {rules : List GoalRule} {ctx : Context} {push : Push}
  {files : ProjectFiles}

/-- The first rule that applies gives its goals, unless it halts. -/
theorem answerFirst_eq (hrules : List.Forall₂ (BuiltFrom goals) specs rules)
    (hshows : ctx.Shows push files) (policy : FailurePolicy) :
    Rule.answerFirst policy ctx rules = .ok (.ofOption
      ((((specs.find? (·.applies (TestSpec.holds push files))).toList.filter (!·.halt)).map
        (RuleSpec.goalSet goals)).head?)) := by
  induction hrules with
  | nil => rfl
  | @cons spec rule specs rules hrule _ ih =>
      rw [Rule.answerFirst, hrule.answer hshows policy, policy.supervised_ok, RuleSpec.verdict]
      by_cases happlies : spec.applies (TestSpec.holds push files) = true
      · rw [List.find?_cons_of_pos happlies, if_pos happlies]
        by_cases hhalt : spec.halt = true
        · have hnone : [spec].filter (!·.halt) = [] := by simp [hhalt]
          rw [if_pos hhalt, Option.toList_some, hnone]
          rfl
        · have hsome : [spec].filter (!·.halt) = [spec] := by simp [hhalt]
          rw [if_neg hhalt, Option.toList_some, hsome]
          rfl
      · rw [List.find?_cons_of_neg happlies, if_neg happlies]
        exact ih

theorem answerEach_eq (hrules : List.Forall₂ (BuiltFrom goals) specs rules)
    (hshows : ctx.Shows push files) (policy : FailurePolicy) :
    Eval.collect (Rule.answerEach policy ctx rules) =
      .ok (specs.map (RuleSpec.verdict goals (TestSpec.holds push files))) := by
  rw [Eval.collect_eq_ok_iff, Rule.answerEach_eq_map, List.map_map]
  induction hrules with
  | nil => rfl
  | cons hrule _ ih =>
      rw [List.map_cons, List.map_cons, ih, hrule.answer hshows policy, policy.supervised_ok]
      rfl

theorem filterMap_verdict (goals : List Goal) (holds : TestSpec → Bool) (specs : List RuleSpec) :
    (specs.map (RuleSpec.verdict goals holds)).filterMap Outcome.value? =
      ((specs.filter (·.applies holds)).filter (!·.halt)).map (RuleSpec.goalSet goals) := by
  induction specs with
  | nil => rfl
  | cons spec rest ih =>
      rw [List.map_cons, List.filterMap_cons, ih, RuleSpec.verdict]
      by_cases happlies : spec.applies holds = true <;> by_cases hhalt : spec.halt = true <;>
        simp [happlies, hhalt, Outcome.value?]

end Rules

/-! ## Files -/

variable {file : RulesFile} {settings : Settings} {decider : Decider} {ctx : Context}
  {push : Push} {files : ProjectFiles}

def chain (composition : Composition) (rules : List GoalRule) : GoalRule :=
  match composition with
  | .firstMatch => .firstMatch "rules" rules
  | .additive => .allMatches "rules" rules

theorem toDecider_eq_ok (hbuild : file.toDecider settings = .ok decider) :
    ∃ goals rules, file.goalDefinitions = .ok goals ∧ buildRules goals file.rules = .ok rules ∧
      decider = { chains := [chain file.composition rules], settings } := by
  unfold toDecider buildChain at hbuild
  obtain ⟨rule, hchain, hdecider⟩ := ok_of_bind hbuild
  obtain ⟨goals, hgoals, hthen⟩ := ok_of_bind hchain
  obtain ⟨rules, hrules, hrule⟩ := ok_of_bind hthen
  cases hdecider
  cases hrule
  exact ⟨goals, rules, hgoals, hrules, rfl⟩

section Chain

variable {goals : List Goal} {rules : List GoalRule}

theorem exists_spec {specs : List RuleSpec}
    (hrules : List.Forall₂ (BuiltFrom goals) specs rules) :
    ∀ rule ∈ rules, ∃ spec ∈ specs, BuiltFrom goals spec rule := by
  induction hrules with
  | nil => exact fun _ h => nomatch h
  | cons hrule _ ih =>
      refine List.forall_mem_cons.mpr ⟨⟨_, List.mem_cons_self, hrule⟩, ?_⟩
      intro rule hmem
      obtain ⟨spec, hspec, hbuilt⟩ := ih rule hmem
      exact ⟨spec, List.mem_cons_of_mem _ hspec, hbuilt⟩

theorem forall_resolved {specs : List RuleSpec}
    (hrules : List.Forall₂ (BuiltFrom goals) specs rules) :
    ∀ spec ∈ specs, Resolved goals spec := by
  induction hrules with
  | nil => exact fun _ h => nomatch h
  | cons hrule _ ih => exact List.forall_mem_cons.mpr ⟨hrule.resolved, ih⟩

/-- What holds of all standard tests holds of all work in the chain. -/
theorem every_chain {P : {α : Type} → (Context → Probe α) → Prop}
    (hall : ∀ t : StandardTest, P t.test.run) (composition : Composition)
    (hrules : List.Forall₂ (BuiltFrom goals) file.rules rules) :
    (chain composition rules).Every P := by
  have heach : ∀ rule ∈ rules, rule.Every P := by
    intro rule hrule
    obtain ⟨spec, _, hbuilt⟩ := exists_spec hrules rule hrule
    exact hbuilt.standard P hall
  cases composition <;> exact Rule.everyAmong_iff.mpr heach

theorem sameNamed_chain (composition : Composition) (hnames : file.NamesTell)
    (hrules : List.Forall₂ (BuiltFrom goals) file.rules rules) :
    Guard.SameNamed (chain composition rules).remembered := by
  have hremembered : (chain composition rules).remembered = Rule.rememberedAmong rules := by
    cases composition <;> rfl
  have hwritten : ∀ g ∈ (chain composition rules).remembered,
      ∃ test ∈ file.tests, test.build = .ok g ∧ g.cost = .expensive := by
    rw [hremembered, Rule.rememberedAmong_eq_flatMap, List.forall_mem_flatMap]
    intro rule hrule g hg
    obtain ⟨spec, hspec, hbuilt⟩ := exists_spec hrules rule hrule
    obtain ⟨test, htest, hfound⟩ := hbuilt.remembered g hg
    exact ⟨test, List.mem_flatMap_of_mem hspec htest, hfound⟩
  intro g hg h hh hname ctx
  obtain ⟨first, hfirst, hbuildFirst, hcostFirst⟩ := hwritten g hg
  obtain ⟨second, hsecond, hbuildSecond, hcostSecond⟩ := hwritten h hh
  have hsame : first = second :=
    hnames first hfirst second hsecond g h hbuildFirst hbuildSecond hcostFirst hcostSecond hname
  rw [hsame, hbuildSecond] at hbuildFirst
  rw [Except.ok.inj hbuildFirst]

/-- The chain gives what the contributing rules set together. -/
theorem chain_sets (hrules : List.Forall₂ (BuiltFrom goals) file.rules rules)
    (hshows : ctx.Shows push files) (policy : FailurePolicy) :
    ∃ outcome, (chain file.composition rules).answer policy ctx = .ok outcome ∧
      SetBy goals (file.contributing (TestSpec.holds push files))
        (GoalSet.merge ([outcome].filterMap Outcome.value?)) := by
  have hresolved := forall_resolved hrules
  have hgiven (given : Option GoalSet) :
      [Outcome.ofOption given].filterMap Outcome.value? = given.toList := by
    cases given <;> rfl
  unfold contributing
  cases file.composition with
  | firstMatch =>
      refine ⟨_, answerFirst_eq hrules hshows policy, ?_⟩
      rw [hgiven]
      cases hfind : file.rules.find? (·.applies (TestSpec.holds push files)) with
      | none => exact setBy_nil goals
      | some spec =>
          have hspec := hresolved spec (List.mem_of_find?_eq_some hfind)
          rw [Option.toList_some]
          by_cases hhalt : spec.halt = true
          · have hnone : [spec].filter (!·.halt) = [] := by simp [hhalt]
            rw [hnone]
            exact setBy_nil goals
          · have hsome : [spec].filter (!·.halt) = [spec] := by simp [hhalt]
            rw [hsome]
            exact setBy_singleton hspec
  | additive =>
      have hsets := filterMap_verdict goals (TestSpec.holds push files) file.rules
      have hanswer : (chain .additive rules).answer policy ctx =
          .ok (.ofOption (GoalSet.merge (((file.rules.filter
            (·.applies (TestSpec.holds push files))).filter (!·.halt)).map
              (RuleSpec.goalSet goals)))) := by
        unfold chain
        rw [Rule.answer, answerEach_eq hrules hshows policy, ← hsets]
        rfl
      refine ⟨_, hanswer, ?_⟩
      -- The decision merges what the chain has merged already.
      rw [hgiven, GoalSet.merge_merge]
      apply setBy_merge
      intro spec hspec
      exact hresolved spec (List.mem_of_mem_filter (List.mem_of_mem_filter hspec))

end Chain

/-- In a decider that is built from a file, rule sets alone record failures. -/
theorem toDecider_plain (hbuild : file.toDecider settings = .ok decider) : decider.Plain := by
  obtain ⟨goals, rules, _, hrules, rfl⟩ := toDecider_eq_ok hbuild
  exact List.forall_mem_singleton.mpr
    (every_chain StandardTest.recordsNothing file.composition (builtFrom_of_buildRules hrules))

/-- The decision is what the contributing rules of the file set. -/
theorem decides_what_it_says (hbuild : file.toDecider settings = .ok decider)
    (hnames : file.NamesTell) (hshows : ctx.Shows push files) {engine : Engine}
    (hempty : engine.caches.Empty) :
    ∃ goals decision, file.goalDefinitions = .ok goals ∧
      ((decider.decide ctx).run engine).1 = .ok decision ∧
      SetBy goals (file.contributing (TestSpec.holds push files)) decision.goals := by
  obtain ⟨goals, rules, hgoals, hrules, rfl⟩ := toDecider_eq_ok hbuild
  have hbuilt := builtFrom_of_buildRules hrules
  obtain ⟨outcome, hanswer, hset⟩ := chain_sets hbuilt hshows settings.failurePolicy
  let decider : Decider := { chains := [chain file.composition rules], settings }
  have hfree : ∀ rule ∈ decider.chains, rule.Every ScopeFree :=
    List.forall_mem_singleton.mpr
      (every_chain (fun t => t.lasting.scopeFree) file.composition hbuilt)
  have hsame : Guard.SameNamed (decider.chains.flatMap Rule.remembered) := by
    rw [List.flatMap_singleton]
    exact sameNamed_chain file.composition hnames hbuilt
  have hsettled : ((Eval.settle (Rule.superviseEach ctx decider.chains)).run
      (decider.start ctx engine)).1 = [.ok outcome] := by
    rw [Decider.settle_chains hfree hsame hempty, Rule.answerEach_eq_map, List.map_singleton,
      hanswer, FailurePolicy.supervised_ok]
  have hdecide := decider.decide_eq ctx engine
  rw [hsettled] at hdecide
  exact ⟨goals, _, hgoals, hdecide, hset⟩

/-- A file in which a rule halts, one locks and one comes too late; two rules look for the
same file. -/
def crateRules : RulesFile where
  composition := .additive
  goals := [{ name := "build" }, { name := "publish", dependsOn := ["build"] }]
  rules :=
    [{ name := "skip", tests := [.any [.toBranch "wip", .negation (.hasFile "Cargo.toml")]],
       halt := true },
     { name := "check", goals := ["build"] },
     { name := "release", tests := [.toDefaultBranch, .hasFile "Cargo.toml"],
       goals := ["publish", "build"], lock := true },
     { name := "late", goals := ["publish"] }]

theorem crateRules_namesTell : crateRules.NamesTell := by
  intro first hfirst second hsecond g h hg hh hcost hcost' hname
  simp only [tests, crateRules, TestSpec.nestedAmong_eq_flatMap, TestSpec.nested,
    List.flatMap_cons, List.flatMap_nil, List.append_nil, List.nil_append, List.cons_append,
    List.mem_cons, List.not_mem_nil, or_false] at hfirst hsecond
  rcases hfirst with rfl | rfl | rfl | rfl | rfl | rfl <;>
    rcases hsecond with rfl | rfl | rfl | rfl | rfl | rfl <;>
      cases hg <;> cases hh <;>
        first
          | rfl
          | exact absurd hcost (by decide)
          | exact absurd hcost' (by decide)
          | exact absurd hname (by decide)

def cratePush : Push := ⟨⟨"owner", "crate", "main"⟩, "main", [], none⟩

def crateFiles : ProjectFiles := ⟨(· == "Cargo.toml"), fun _ => none, fun _ => []⟩

/-- The crate is released from its default branch, and what stands behind the release is
left out. -/
theorem crateRules_release :
    ∃ decider decision, crateRules.toDecider {} = .ok decider ∧
      ((decider.decide ((Context.ofPush cratePush).withProject crateFiles.project)).run {}).1 =
        .ok decision ∧
      GoalSet.namesOf decision.goals = ["build", "publish"] ∧
      ∀ set, decision.goals = some set → set.name = "check, release" := by
  have hbuild : ∃ decider, crateRules.toDecider {} = .ok decider := ⟨_, rfl⟩
  obtain ⟨decider, hdecider⟩ := hbuild
  have hshows : ((Context.ofPush cratePush).withProject crateFiles.project).Shows cratePush
      crateFiles := ⟨rfl, rfl, rfl⟩
  have hempty : ({} : Engine).caches.Empty := Caches.empty_default
  obtain ⟨goals, decision, _, hdecide, hset⟩ :=
    decides_what_it_says hdecider crateRules_namesTell hshows hempty
  refine ⟨decider, decision, hdecider, hdecide, ?_, fun set hgiven => ?_⟩
  · rw [hset.names]
    decide
  · rw [hset.name set hgiven]
    decide

end RulesFile

end PushGoals
