import PushGoals.Proofs.RulesFile.Definitions
import PushGoals.Proofs.RulesFile.Reading

/-!
# Which rules files are accepted

A rules file can be built exactly when it is well formed: its goals have different names
and depend on goals before them, its patterns are regular expressions, its halting rules
set nothing, and its other rules set goals that are declared.  What is built has a member
for each rule.  Otherwise the error is about the first goal that cannot stand where it
stands or, if all of them can, about the first rule that is not well formed.
-/

namespace PushGoals

theorem fault?_bind {ε α β γ : Type} (first : Except ε α) (second : Except ε β) (f : α → β → γ) :
    fault? (do let a ← first; let b ← second; return f a b) =
      (fault? first).or (fault? second) := by
  cases first with
  | error e => rfl
  | ok a => cases second <;> rfl

/-! ## Patterns -/

namespace TestSpec

/-- The pattern that a test states itself. -/
def pattern? : TestSpec → Option String
  | .toBranchMatching pattern => some pattern
  | .hasFileContaining _ pattern => some pattern
  | .hasCommitMessageMatching pattern => some pattern
  | _ => none

/-- The patterns of tests and of the tests inside them, from left to right. -/
def patterns (tests : List TestSpec) : List String := (nestedAmong tests).filterMap pattern?

def compiles (pattern : String) : Bool := (Regex.compile? pattern).isSome

theorem patterns_cons (test : TestSpec) (rest : List TestSpec) :
    patterns (test :: rest) = test.nested.filterMap pattern? ++ patterns rest :=
  List.filterMap_append

theorem fault?_regex (pattern : String) :
    fault? (regex pattern) = [pattern].find? (!compiles ·) := by
  rw [List.find?_singleton, regex, compiles]
  cases Regex.compile? pattern <;> rfl

theorem fault?_buildAll_of {tests : List TestSpec}
    (htests : ∀ test ∈ tests,
      fault? (build test) = (test.nested.filterMap pattern?).find? (!compiles ·)) :
    fault? (buildAll tests) = (patterns tests).find? (!compiles ·) := by
  induction tests with
  | nil => rfl
  | cons test rest ih =>
      obtain ⟨htest, hrest⟩ := List.forall_mem_cons.mp htests
      rw [buildAll, fault?_bind, htest, ih hrest, patterns_cons, List.find?_append]

/-- The first pattern that is no regular expression is reported. -/
theorem fault?_build (test : TestSpec) :
    fault? (build test) = (test.nested.filterMap pattern?).find? (!compiles ·) := by
  induction test using TestSpec.induct with
  | onAnyPush => rfl
  | toDefaultBranch => rfl
  | toBranch branch => rfl
  | toBranchMatching pattern => exact (fault?_map _ _).trans (fault?_regex pattern)
  | isRepo owner name => rfl
  | hasFile path => rfl
  | hasFileContaining path pattern => exact (fault?_map _ _).trans (fault?_regex pattern)
  | hasCommitMessageMatching pattern => exact (fault?_map _ _).trans (fault?_regex pattern)
  | isMaterialChange extensions => rfl
  | negation inner ih =>
      rw [build, fault?_map, ih]
      rfl
  | any tests ih =>
      rw [build, fault?_map, fault?_buildAll_of ih]
      rfl

theorem fault?_buildAll (tests : List TestSpec) :
    fault? (buildAll tests) = (patterns tests).find? (!compiles ·) :=
  fault?_buildAll_of fun test _ => fault?_build test

end TestSpec

/-! ## Goals -/

/-- Each declaration can stand behind those before it. -/
def GoalSpec.AllWellPlaced (specs : List GoalSpec) : Prop :=
  ∀ before spec after, specs = before ++ spec :: after →
    spec.WellPlaced (before.map (·.name))

namespace RulesFile

open Goal (namesOf)

variable {goals : List Goal} {specs : List GoalSpec}

theorem DefinedInOrder.allWellPlaced (hdefined : DefinedInOrder specs goals) :
    GoalSpec.AllWellPlaced specs := by
  induction hdefined with
  | none =>
      intro before spec after hsplit
      exact absurd hsplit.symm (by simp)
  | @next specs goals last _ hearlier hplaced _ ih =>
      intro before spec after hsplit
      -- The declaration is the last one, or it stands among those before.
      rcases List.eq_nil_or_concat after with rfl | ⟨init, final, rfl⟩
      · obtain ⟨rfl, hlast⟩ := List.append_inj' hsplit rfl
        obtain rfl : last = spec := List.singleton_inj.mp hlast
        rwa [← hearlier.namesOf_eq]
      · rw [List.concat_eq_append, ← List.cons_append, ← List.append_assoc] at hsplit
        exact ih before spec init (List.append_inj' hsplit rfl).1

/-- All goals are defined, or the first that cannot stand where it stands is reported. -/
theorem defineGoals_cases {earlier : List GoalSpec} {defined : List Goal}
    (hearlier : DefinedInOrder earlier defined) (specs : List GoalSpec) :
    (∃ goals, DefinedInOrder (earlier ++ specs) goals ∧ defineGoals defined specs = .ok goals) ∨
      ∃ before spec after goals e, specs = before ++ spec :: after ∧
        DefinedInOrder (earlier ++ before) goals ∧ spec.Fault (namesOf goals) e ∧
        defineGoals defined specs = .error e := by
  induction specs generalizing earlier defined with
  | nil =>
      refine .inl ⟨defined, ?_, rfl⟩
      rwa [List.append_nil]
  | cons spec rest ih =>
      rcases defineGoals_cons defined spec rest with
        ⟨hplaced, dependsOn, hresolve, hnext⟩ | ⟨e, hfault, herror⟩
      · rw [hnext]
        rcases ih (hearlier.next hplaced hresolve) with
          ⟨goals, hgoals, hok⟩ | ⟨before, faulty, after, goals, e, rfl, hbefore, hfault, herror⟩
        · rw [List.append_assoc] at hgoals
          exact .inl ⟨goals, hgoals, hok⟩
        · rw [List.append_assoc] at hbefore
          exact .inr ⟨spec :: before, faulty, after, goals, e, rfl, hbefore, hfault, herror⟩
      · refine .inr ⟨[], spec, rest, defined, e, rfl, ?_, hfault, herror⟩
        rwa [List.append_nil]

end RulesFile

/-! ## Rules -/

namespace RuleSpec

/-- The rule can be built where goals of these names are declared. -/
structure WellFormed (declared : List String) (spec : RuleSpec) : Prop where
  patterns : ∀ pattern ∈ TestSpec.patterns spec.tests, TestSpec.compiles pattern = true
  halting : spec.halt = true → spec.goals = [] ∧ spec.lock = false
  goals : spec.halt = false → ∀ name ∈ spec.goals, name ∈ declared

/-- What is wrong with a rule where goals of these names are declared. -/
inductive Fault (declared : List String) (spec : RuleSpec) : RulesError → Prop
  | pattern {bad : String}
      (hbad : (TestSpec.patterns spec.tests).find? (!TestSpec.compiles ·) = some bad) :
      Fault declared spec (.invalidPattern spec.name bad)
  | halting (hpatterns : ∀ pattern ∈ TestSpec.patterns spec.tests, TestSpec.compiles pattern = true)
      (hhalt : spec.halt = true) (hsets : spec.goals ≠ [] ∨ spec.lock = true) :
      Fault declared spec (.haltWithGoals spec.name)
  | undefined {missing : String}
      (hpatterns : ∀ pattern ∈ TestSpec.patterns spec.tests, TestSpec.compiles pattern = true)
      (hhalt : spec.halt = false) (hmissing : spec.goals.find? (· ∉ declared) = some missing) :
      Fault declared spec (.undefinedGoal spec.name missing)

theorem Fault.not_wellFormed {declared : List String} {spec : RuleSpec} {e : RulesError}
    (hfault : spec.Fault declared e) : ¬ spec.WellFormed declared := by
  intro hformed
  cases hfault with
  | pattern hbad =>
      have hcompiles := hformed.patterns _ (List.mem_of_find?_eq_some hbad)
      have hfails := List.find?_some hbad
      simp [hcompiles] at hfails
  | halting _ hhalt hsets =>
      obtain ⟨hgoals, hlock⟩ := hformed.halting hhalt
      rcases hsets with hsets | hsets
      · exact hsets hgoals
      · exact absurd hsets (by simp [hlock])
  | undefined _ hhalt hmissing =>
      have hdeclared := hformed.goals hhalt _ (List.mem_of_find?_eq_some hmissing)
      have habsent := List.find?_some hmissing
      simp [hdeclared] at habsent

end RuleSpec

namespace RulesFile

open Goal (namesOf)

variable {goals : List Goal}

/-- A rule that is well formed is built under its name, and any other is refused. -/
theorem buildRule_cases (goals : List Goal) (spec : RuleSpec) :
    (spec.WellFormed (namesOf goals) ∧ ∃ rule, buildRule goals spec = .ok rule ∧
        ∀ learned, rule.name learned = spec.name) ∨
      ∃ e, spec.Fault (namesOf goals) e ∧ buildRule goals spec = .error e := by
  have hpatterns := TestSpec.fault?_buildAll spec.tests
  rw [buildRule]
  cases htests : TestSpec.buildAll spec.tests with
  | error bad =>
      rw [htests] at hpatterns
      exact .inr ⟨_, .pattern hpatterns.symm, rfl⟩
  | ok guards =>
      rw [htests] at hpatterns
      have hcompile : ∀ pattern ∈ TestSpec.patterns spec.tests,
          TestSpec.compiles pattern = true := by
        simpa using List.find?_eq_none.mp hpatterns.symm
      -- From here on the rule is refused for its goals or its lock, never for its tests.
      by_cases hhalt : spec.halt = true
      · by_cases hsets : spec.goals = [] ∧ spec.lock = false
        · refine .inl ⟨⟨hcompile, fun _ => hsets, fun h => ?_⟩, ?_⟩
          · cases hhalt.symm.trans h
          · simp only [hhalt, hsets]
            exact ⟨_, rfl, fun _ => rfl⟩
        · have hsome : spec.goals ≠ [] ∨ spec.lock = true :=
            (not_and_or.mp hsets).imp_right eq_true_of_ne_false
          refine .inr ⟨_, .halting hcompile hhalt hsome, ?_⟩
          rcases hsome with hgoals | hlock <;> simp [*]
      · have hgoals := fault?_resolve goals spec.goals
        have hgoes : spec.halt = false := eq_false_of_ne_true hhalt
        simp only [hgoes]
        cases hresolve : resolve goals spec.goals with
        | error missing =>
            rw [hresolve] at hgoals
            exact .inr ⟨_, .undefined hcompile hgoes hgoals.symm, rfl⟩
        | ok found =>
            rw [hresolve] at hgoals
            have hall : ∀ name ∈ spec.goals, name ∈ namesOf goals := by
              simpa using List.find?_eq_none.mp hgoals.symm
            exact .inl ⟨⟨hcompile, fun h => absurd h hhalt, fun _ => hall⟩, _, rfl, fun _ => rfl⟩

theorem buildRules_cases (goals : List Goal) (specs : List RuleSpec) :
    ((∀ spec ∈ specs, spec.WellFormed (namesOf goals)) ∧
        ∃ rules, buildRules goals specs = .ok rules ∧
          ∀ learned, rules.map (Rule.name learned) = specs.map (·.name)) ∨
      ∃ before spec after e, specs = before ++ spec :: after ∧
        (∀ spec ∈ before, spec.WellFormed (namesOf goals)) ∧ spec.Fault (namesOf goals) e ∧
        buildRules goals specs = .error e := by
  induction specs with
  | nil => exact .inl ⟨fun _ hspec => (nomatch hspec), [], rfl, fun _ => rfl⟩
  | cons spec rest ih =>
      rw [buildRules]
      rcases buildRule_cases goals spec with ⟨hformed, rule, hrule, hname⟩ | ⟨e, hfault, herror⟩
      · rw [hrule]
        rcases ih with
          ⟨hrest, rules, hrules, hnames⟩ | ⟨before, faulty, after, e, rfl, hbefore, hfault, herror⟩
        · rw [hrules]
          refine .inl ⟨List.forall_mem_cons.mpr ⟨hformed, hrest⟩, _, rfl, fun learned => ?_⟩
          rw [List.map_cons, List.map_cons, hname, hnames]
        · rw [herror]
          exact .inr ⟨spec :: before, faulty, after, e, rfl,
            List.forall_mem_cons.mpr ⟨hformed, hbefore⟩, hfault, rfl⟩
      · rw [herror]
        exact .inr ⟨[], spec, rest, e, rfl, fun _ hspec => (nomatch hspec), hfault, rfl⟩

end RulesFile

/-! ## Messages -/

/-- The first message of the error names something of this kind. -/
def RulesError.About (kind name : String) (e : RulesError) : Prop :=
  ∃ front back others, e.messages = (front ++ kind ++ " '" ++ name ++ "'" ++ back) :: others

theorem quote_append (text rest : String) : "'" ++ (text ++ rest) = "'" ++ text ++ rest :=
  String.append_assoc.symm

theorem GoalSpec.Fault.about {earlier : List String} {spec : GoalSpec} {e : RulesError}
    (hfault : spec.Fault earlier e) : e.About "goal" spec.name := by
  cases hfault with
  | duplicate =>
      refine ⟨"", " is defined twice", [], ?_⟩
      simp [RulesError.messages, String.append_assoc]
  | @undefined missing =>
      refine ⟨"", " depends on '" ++ missing ++ "', which is not defined before it", [], ?_⟩
      simp [RulesError.messages, String.append_assoc, quote_append]

theorem RuleSpec.Fault.about {declared : List String} {spec : RuleSpec} {e : RulesError}
    (hfault : spec.Fault declared e) : e.About "rule" spec.name := by
  cases hfault with
  | @pattern bad =>
      refine ⟨"in ", "", ["invalid pattern '" ++ bad ++ "'"], ?_⟩
      simp [RulesError.messages]
  | halting =>
      refine ⟨"", " halts, so it cannot set or lock goals", [], ?_⟩
      simp [RulesError.messages, String.append_assoc]
  | @undefined missing =>
      refine ⟨"", " uses undefined goal '" ++ missing ++ "'", [], ?_⟩
      simp [RulesError.messages, String.append_assoc, quote_append]

/-! ## Files -/

def Composition.style : Composition → Style
  | .firstMatch => .firstMatch
  | .additive => .allMatches

namespace RulesFile

/-- The file says nothing that the building of rules would have to refuse. -/
structure WellFormed (file : RulesFile) : Prop where
  names : (file.goals.map (·.name)).Nodup
  /-- A goal depends on goals declared strictly before it. -/
  dependsOn : ∀ before spec after, file.goals = before ++ spec :: after →
    ∀ name ∈ spec.dependsOn, name ∈ before.map (·.name)
  rules : ∀ rule ∈ file.rules, rule.WellFormed (file.goals.map (·.name))

/-- The error is about the first goal or rule of the file that must be refused, goals
before rules. -/
inductive FirstFault (file : RulesFile) (e : RulesError) : Prop
  | goal {before after : List GoalSpec} {spec : GoalSpec}
      (hgoals : file.goals = before ++ spec :: after) (hbefore : GoalSpec.AllWellPlaced before)
      (hfault : spec.Fault (before.map (·.name)) e) (habout : e.About "goal" spec.name)
  | rule {before after : List RuleSpec} {spec : RuleSpec}
      (hplaced : GoalSpec.AllWellPlaced file.goals) (hrules : file.rules = before ++ spec :: after)
      (hbefore : ∀ rule ∈ before, rule.WellFormed (file.goals.map (·.name)))
      (hfault : spec.Fault (file.goals.map (·.name)) e) (habout : e.About "rule" spec.name)

variable {file : RulesFile}

theorem WellFormed.allWellPlaced (hformed : file.WellFormed) :
    GoalSpec.AllWellPlaced file.goals := by
  intro before spec after hsplit
  refine ⟨fun hmem => ?_, hformed.dependsOn before spec after hsplit⟩
  have hnames := hformed.names
  rw [hsplit, List.map_append, List.nodup_append] at hnames
  exact hnames.2.2 _ hmem _ List.mem_cons_self rfl

theorem FirstFault.not_wellFormed {e : RulesError} (hfault : file.FirstFault e) :
    ¬ file.WellFormed := by
  intro hformed
  cases hfault with
  | goal hgoals _ hfault _ =>
      exact hfault.not_wellPlaced (hformed.allWellPlaced _ _ _ hgoals)
  | @rule before after spec _ hrules _ hfault _ =>
      have hmem : spec ∈ file.rules := hrules ▸ List.mem_append_right before List.mem_cons_self
      exact hfault.not_wellFormed (hformed.rules spec hmem)

/-- A well-formed file is built, and for any other the first fault is reported. -/
theorem buildChain_cases (file : RulesFile) :
    (file.WellFormed ∧ ∃ chain rules, file.buildChain = .ok chain ∧
        chain.parts? = some ⟨file.composition.style, rules⟩ ∧
        ∀ learned, rules.map (Rule.name learned) = file.rules.map (·.name)) ∨
      ∃ e, file.FirstFault e ∧ file.buildChain = .error e := by
  rcases defineGoals_cases .none file.goals with
    ⟨goals, hdefined, hgoals⟩ | ⟨before, spec, after, goals, e, hsplit, hbefore, hfault, herror⟩
  · rw [List.nil_append] at hdefined
    have hchain : file.buildChain = buildRules goals file.rules >>= fun rules =>
        .ok (match file.composition with
          | .firstMatch => .firstMatch "rules" rules
          | .additive => .allMatches "rules" rules) := by
      rw [buildChain, goalDefinitions, hgoals]
      rfl
    rw [hchain]
    rcases buildRules_cases goals file.rules with
      ⟨hformed, rules, hrules, hnames⟩ | ⟨before, spec, after, e, hsplit, hbefore, hfault, herror⟩
    · rw [hdefined.namesOf_eq] at hformed
      rw [hrules]
      refine .inl ⟨⟨?_, ?_, hformed⟩, _, rules, rfl, ?_, hnames⟩
      · rw [← hdefined.namesOf_eq]
        exact hdefined.nodup
      · exact fun before spec after hsplit =>
          (hdefined.allWellPlaced before spec after hsplit).dependsOn
      · cases file.composition <;> rfl
    · rw [hdefined.namesOf_eq] at hbefore hfault
      rw [herror]
      exact .inr ⟨e, .rule hdefined.allWellPlaced hsplit hbefore hfault hfault.about, rfl⟩
  · rw [List.nil_append] at hbefore
    rw [hbefore.namesOf_eq] at hfault
    rw [buildChain, goalDefinitions, herror]
    exact .inr ⟨e, .goal hsplit hbefore.allWellPlaced hfault hfault.about, rfl⟩

/-- Exactly the well-formed files are built, with a member for each rule in the order of
the file; the error for any other is about its first fault. -/
theorem accepted_iff_wellFormed (file : RulesFile) :
    ((∃ chain, file.buildChain = .ok chain) ↔ file.WellFormed) ∧
      (∀ chain, file.buildChain = .ok chain →
        ∃ rules, chain.parts? = some ⟨file.composition.style, rules⟩ ∧
          ∀ learned, rules.map (Rule.name learned) = file.rules.map (·.name)) ∧
      ∀ e, file.buildChain = .error e → file.FirstFault e := by
  rcases buildChain_cases file with
    ⟨hformed, chain, rules, hok, hparts, hnames⟩ | ⟨e, hfault, herror⟩
  · rw [hok]
    refine ⟨⟨fun _ => hformed, fun _ => ⟨chain, rfl⟩⟩, fun _ h => ?_, fun _ h => (nomatch h)⟩
    cases h
    exact ⟨rules, hparts, hnames⟩
  · rw [herror]
    refine ⟨⟨fun ⟨_, h⟩ => (nomatch h), fun hformed => ?_⟩, fun _ h => (nomatch h), fun _ h => ?_⟩
    · exact absurd hformed hfault.not_wellFormed
    · cases h
      exact hfault

/-- No goal is declared before itself. -/
example : buildChain { goals := [{ name := "build", dependsOn := ["build"] }] } =
    .error (.undefinedPrecondition "build" "build") := rfl

end RulesFile

end PushGoals
