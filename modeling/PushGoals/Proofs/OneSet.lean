import PushGoals.Proofs.Ahead
import PushGoals.Proofs.Goal.Flattening
import PushGoals.Proofs.Prediction.Agreement
import PushGoals.Proofs.Prediction.Determinacy
import PushGoals.Proofs.Prediction.Soundness

/-!
# A decider is one additive set

The chains of a decider and one all-matches set of them come to the same.  A decision
evaluates the chains in both cases from passes that differ in their logs only, and the
merge of what was merged changes nothing; an error is that of the first chain that
fails, wherever a lock stands.  A prediction attempts the one set as a whole before it
walks the chains, and the walk finds what it would have found without the attempt.
-/

namespace PushGoals

variable {ctx : Context}

/-! ## Passes that differ in their logs -/

/-- The passes are the same up to lines of the log that `extra` picks out. -/
def Pass.SameButLines (extra : Event → Bool) (p q : Pass) : Prop :=
  ∃ events, q = { p with engine := { p.engine with events } } ∧
    events.filter (!extra ·) = p.engine.events.filter (!extra ·)

/-- The passes are the same up to the log. -/
def Pass.SameButLog (p q : Pass) : Prop :=
  ∃ events, q = { p with engine := { p.engine with events } }

namespace Pass.SameButLines

theorem steady (extra : Event → Bool) : Steady True (SameButLines extra) where
  policy := by
    rintro p _ ⟨events, rfl, _⟩
    rfl
  learned := by
    rintro p _ - ⟨events, rfl, _⟩
    rfl
  emit := by
    rintro p _ e d hsame ⟨events, rfl, hlines⟩
    obtain rfl := hsame trivial
    refine ⟨events ++ [e], rfl, ?_⟩
    simp only [emit, Engine.emit, List.filter_append, hlines]
  isolate := by
    rintro p _ a b e hsame ⟨events, rfl, hlines⟩
    obtain rfl := hsame trivial
    refine ⟨events ++ [.ruleFailed a e.message], rfl, ?_⟩
    have hafter : ((Eval.isolate a e).run p).2.engine.events =
        p.engine.events ++ [.ruleFailed a e.message] := rfl
    rw [hafter, List.filter_append, List.filter_append, hlines]

end Pass.SameButLines

/-- What is in a log decides nothing that a rule does. -/
theorem Rule.inStep_sameButLines (rule : GoalRule) (ctx : Context) (extra : Event → Bool) :
    rule.InStep True ctx (Pass.SameButLines extra) := by
  have hprobe {α : Type} (probe : Probe α) :
      Eval.InStep (Pass.SameButLines extra) (Pass.SameButLines extra) (Eval.ofProbe probe) := by
    rintro p _ ⟨events, rfl, hlines⟩
    exact ⟨rfl, events, rfl, hlines⟩
  refine inStep_of_every (Pass.SameButLines.steady extra) ?_ ?_ ?_
    (rule.every_of_forall fun _ => trivial)
  · exact fun _ => hprobe _
  · intro ref guard _ hguard
    apply Eval.memoized_inStep _ _ hguard
    · rintro id - p _ ⟨events, rfl, hlines⟩
      exact ⟨rfl, events, rfl, hlines⟩
    · rintro id v - p _ ⟨events, rfl, hlines⟩
      exact ⟨rfl, events, rfl, hlines⟩
  · intro key guard reason compute _ _
    apply (hprobe _).bind _ (le_refl _)
    rintro ⟨name, value⟩
    have hlearn : Work.Lockstep (Pass.SameButLines extra) (Pass.SameButLines extra) (· = ·)
        (Eval.learn key name) (Eval.learn key name) := by
      rintro p _ ⟨events, rfl, hlines⟩
      cases name with
      | none => exact ⟨rfl, events, rfl, hlines⟩
      | some name => exact ⟨rfl, events, rfl, hlines⟩
    exact hlearn.then_ok (Outcome.matched value)

namespace Pass.SameButLog

theorem eq_sameButLines : SameButLog = SameButLines fun _ => true := by
  funext p q
  have hnone (events : List Event) : events.filter (fun _ => !true) = [] := by simp
  apply propext
  constructor
  · rintro ⟨events, rfl⟩
    exact ⟨events, rfl, (hnone events).trans (hnone p.engine.events).symm⟩
  · rintro ⟨events, rfl, _⟩
    exact ⟨events, rfl⟩

theorem steady : Steady True SameButLog := by
  rw [eq_sameButLines]
  exact Pass.SameButLines.steady _

end Pass.SameButLog

/-- Nothing that a rule does hangs on the log. -/
theorem Rule.inStep_sameButLog (rule : GoalRule) (ctx : Context) :
    rule.InStep True ctx Pass.SameButLog := by
  rw [Pass.SameButLog.eq_sameButLines]
  exact rule.inStep_sameButLines ctx _

/-- What the rules give and leave does not hang on the log. -/
theorem Rule.settle_sameButLog (ctx : Context) (rules : List GoalRule) :
    Work.Lockstep Pass.SameButLog Pass.SameButLog (· = ·) (Eval.settle (superviseEach ctx rules))
      (Eval.settle (superviseEach ctx rules)) :=
  Eval.InStep.settle (superviseEach_inStep Pass.SameButLog.steady fun rule _ =>
    eval_inStep Pass.SameButLog.steady (rule.inStep_sameButLog ctx))

/-! ## Sets of rules that fail -/

namespace Rule

variable {rules : List GoalRule} {p : Pass} {e : GoalError}

theorem supervise_error_iff {rule : GoalRule} :
    ((rule.supervise (rule.eval ctx)).run.run p).1 = .error e ↔
      p.scope.policy = .failFast ∧ ((rule.eval ctx).run.run p).1 = .error e := by
  unfold supervise
  rw [Eval.supervised_fst, rule.eval_policy]
  cases p.scope.policy with
  | failFast => exact (and_iff_right rfl).symm
  | isolateAndReport =>
      obtain ⟨o, ho⟩ := supervised_isolated ((rule.eval ctx).run.run p).1
      rw [ho]
      simp

theorem supervise_failures {rule : GoalRule} {outcome : Outcome GoalSet}
    (hok : ((rule.eval ctx).run.run p).1 = .ok outcome) :
    ((rule.supervise (rule.eval ctx)).run.run p).2.scope.failures =
      ((rule.eval ctx).run.run p).2.scope.failures := by
  unfold supervise
  rw [Eval.run_supervised_ok (fun _ => rfl) hok]
  by_cases hmatched : outcome.isMatched = true
  · simp only [if_pos hmatched]
    rfl
  · simp only [if_neg hmatched]

/-- Among `rules`, evaluated one after another from `p`, the first that fails does so
with `e`. -/
def FailsFirst (ctx : Context) (rules : List GoalRule) (p : Pass) (e : GoalError) : Prop :=
  ∃ before rule after, ∃ outcomes : List (Outcome GoalSet), ∃ q,
    rules = before ++ rule :: after ∧
    (Eval.settle (superviseEach ctx before)).run p = (outcomes.map .ok, q) ∧
    ((rule.eval ctx).run.run q).1 = .error e

theorem collect_settle_error (herror :
    Eval.collect ((Eval.settle (superviseEach ctx rules)).run p).1 = .error e) :
    p.scope.policy = .failFast ∧ FailsFirst ctx rules p e := by
  induction rules generalizing p with
  | nil => cases herror
  | cons rule rest ih =>
      rw [superviseEach, Eval.run_settle_cons] at herror
      cases hhead : ((rule.supervise (rule.eval ctx)).run.run p).1 with
      | error d =>
          rw [hhead] at herror
          cases herror
          obtain ⟨hpolicy, heval⟩ := supervise_error_iff.mp hhead
          exact ⟨hpolicy, [], rule, rest, [], p, rfl, rfl, heval⟩
      | ok outcome =>
          rw [hhead] at herror
          obtain ⟨hpolicy, before, failing, after, outcomes, q, rfl, hbefore, heval⟩ :=
            ih (error_of_map herror)
          rw [rule.supervise_policy] at hpolicy
          refine ⟨hpolicy, rule :: before, failing, after, outcome :: outcomes, q, rfl, ?_, heval⟩
          rw [superviseEach, Eval.run_settle_cons, hhead, hbefore]
          rfl

theorem FailsFirst.collect_settle (hfails : FailsFirst ctx rules p e)
    (hpolicy : p.scope.policy = .failFast) :
    Eval.collect ((Eval.settle (superviseEach ctx rules)).run p).1 = .error e := by
  obtain ⟨before, rule, after, outcomes, q, rfl, hbefore, heval⟩ := hfails
  induction before generalizing p outcomes with
  | nil =>
      have hlast : p = q := congrArg Prod.snd hbefore
      subst hlast
      have hhead := supervise_error_iff.mpr ⟨hpolicy, heval⟩
      rw [List.nil_append, superviseEach, Eval.run_settle_cons, hhead]
      rfl
  | cons first before ih =>
      rw [superviseEach, Eval.run_settle_cons] at hbefore
      obtain ⟨hanswers, hlast⟩ := Prod.mk.inj hbefore
      cases outcomes with
      | nil => cases hanswers
      | cons outcome outcomes =>
          obtain ⟨hhead, hothers⟩ := List.cons.inj hanswers
          rw [List.cons_append, superviseEach, Eval.run_settle_cons, hhead, Eval.collect,
            ih ((first.supervise_policy ctx p).trans hpolicy) outcomes (Prod.ext hothers hlast)]
          rfl

/-- An all-matches set gives the merge of what its contributors give. -/
theorem eval_allMatches_run (ctx : Context) (name : String) (contributors : List GoalRule)
    (p : Pass) :
    ((allMatches name contributors : GoalRule).eval ctx).run.run p =
      ((Eval.collect ((Eval.settle (superviseEach ctx contributors)).run p).1).map
        (fun outcomes => .ofOption (GoalSet.merge (outcomes.filterMap Outcome.value?))),
      ((Eval.settle (superviseEach ctx contributors)).run p).2) := by
  unfold eval
  rw [Eval.run_map, Eval.run_allSettled]
  rfl

end Rule

/-! ## Decisions -/

namespace Decider

/-- The decider whose one chain is the set of the chains. -/
def joined (decider : Decider) (name : String) : Decider :=
  { decider with chains := [.allMatches name decider.chains] }

variable (decider : Decider) (name : String) (ctx : Context) (engine : Engine)

theorem start_joined :
    (decider.start ctx engine).SameButLog ((decider.joined name).start ctx engine) :=
  ⟨_, rfl⟩

/-- A decider with one chain merges what the chain gives by itself. -/
theorem decide_single {decider : Decider} {rule : GoalRule} (hchain : decider.chains = [rule])
    (ctx : Context) (engine : Engine) :
    ((decider.decide ctx).run engine).1 =
      ((rule.supervise (rule.eval ctx)).run.run (decider.start ctx engine)).1.map fun outcome =>
        { push := ctx.id.map PushId.text
          goals := GoalSet.merge outcome.value?.toList
          failures := ((rule.supervise (rule.eval ctx)).run.run
            (decider.start ctx engine)).2.scope.failures } := by
  rw [decide_eq, hchain, Rule.superviseEach, Eval.run_settle_cons]
  cases ((rule.supervise (rule.eval ctx)).run.run (decider.start ctx engine)).1 with
  | error e => rfl
  | ok outcome => cases outcome <;> rfl

theorem decide_joined :
    (((decider.joined name).decide ctx).run engine).1 = ((decider.decide ctx).run engine).1 := by
  -- The two decisions log different numbers of chains before they evaluate the same ones.
  obtain ⟨hanswers, events, hafter⟩ := Rule.settle_sameButLog ctx decider.chains _ _
    (start_joined decider name ctx engine)
  have heval := Rule.eval_allMatches_run ctx name decider.chains
    ((decider.joined name).start ctx engine)
  rw [← hanswers, hafter] at heval
  rw [decide_single rfl, decide_eq]
  cases hcollect : Eval.collect ((Eval.settle (Rule.superviseEach ctx decider.chains)).run
    (decider.start ctx engine)).1 with
  | ok outcomes =>
      rw [hcollect] at heval
      have hok := congrArg Prod.fst heval
      rw [Rule.supervise_failures hok, heval]
      unfold Rule.supervise
      rw [Eval.run_supervised_ok (fun _ => rfl) hok]
      simp only [Except.map, Outcome.value?_ofOption, GoalSet.merge_merge]
  | error e =>
      rw [hcollect] at heval
      obtain ⟨hpolicy, _⟩ := Rule.collect_settle_error hcollect
      have hfailFast : ((decider.joined name).start ctx engine).scope.policy = .failFast :=
        hpolicy
      have herror := Rule.supervise_error_iff.mpr ⟨hfailFast, congrArg Prod.fst heval⟩
      rw [herror]
      rfl

/-- A decision is an error only if failures end it, and then it is that of the first
chain that fails, whether or not a chain before it is locked. -/
theorem decide_error_iff {e : GoalError} :
    ((decider.decide ctx).run engine).1 = .error e ↔
      decider.settings.failurePolicy = .failFast ∧
        Rule.FailsFirst ctx decider.chains (decider.start ctx engine) e := by
  rw [decide_eq]
  constructor
  · intro herror
    exact Rule.collect_settle_error (error_of_map herror)
  · rintro ⟨hpolicy, hfails⟩
    rw [hfails.collect_settle hpolicy]
    rfl

end Decider

/-! ## Predictions -/

namespace Forecast

/-- Sets that are there already do not show in a prediction. -/
theorem flatten_merge_nothing (f : Forecast) : (nothing.merge f).flatten = f.flatten := by
  have hdefinite := dedupe_goals_union [] f.definite
  have hpossible := dedupe_goals_union [] f.possible
  rw [List.nil_append] at hdefinite hpossible
  simp only [flatten, merge, nothing, hdefinite, hpossible, List.nil_append]

/-- Certain sets that are merged show in a prediction as the one set that they make. -/
theorem flatten_addUp_settled (results : List (Option GoalSet)) :
    (nothing.addUp false (results.map settled)).flatten =
      (settled (GoalSet.merge (results.filterMap id))).flatten := by
  have hunion := dedupe_goals_union [] (GoalSet.untilLocked (results.filterMap id))
  have hmerged := GoalSet.goals_merge (results.filterMap id)
  rw [List.nil_append] at hunion
  have hgiven (given : Option GoalSet) : (settled given).flatten =
      { definiteGoals := Goal.dedupe ((given.map (·.goals)).getD []) } := by
    cases given with
    | none => rfl
    | some set => simp [settled, certain, flatten, Goal.dedupe]
  rw [addUp_settled, hgiven, hmerged, Goal.dedupe_dedupe, ← hunion]
  rfl

end Forecast

/-- A single contribution is merged with nothing. -/
theorem Forecast.additive_single_yields {inv : Pass → Prop} {step : Work Forecast}
    {post : Forecast → Prop} (hstep : Work.Yields inv step post) :
    Work.Yields inv (additive .nothing false [step])
      (fun f => ∃ given, post given ∧ f = nothing.merge given) := by
  apply hstep.bind
  intro given hgiven
  by_cases hlocks : given.locks = true
  · simp only [Bool.false_eq_true, if_false, if_pos hlocks]
    exact Work.Yields.pure ⟨given, hgiven, rfl⟩
  · simp only [Bool.false_eq_true, if_false, if_neg hlocks]
    exact Work.Yields.pure ⟨given, hgiven, rfl⟩

namespace Rule

variable {inv : Pass → Prop} {rules : List GoalRule} {f : Forecast}

theorem classifyBy_gives_ok {evaluation : Eval (Outcome GoalSet)} {outcome : Outcome GoalSet}
    (heval : Eval.Gives inv evaluation (.ok outcome)) (failed : GoalError → Work Forecast) :
    Work.Yields inv (classifyBy evaluation failed) (· = .settled outcome.value?) := by
  apply Work.Yields.bind heval
  rintro _ rfl
  cases outcome <;> exact Work.Yields.pure rfl

/-- Rules that are not failing add up to what they answer. -/
theorem walk_adds_up
    (heval : ∀ rule ∈ rules, Eval.Gives inv (rule.eval ctx) (rule.answer .failFast ctx))
    {outcomes : List (Outcome GoalSet)}
    (hanswers : answerEach .failFast ctx rules = outcomes.map .ok) :
    Work.Yields inv (Forecast.additive .nothing false (classifyEach ctx rules))
      (· = Forecast.nothing.addUp false ((outcomes.map Outcome.value?).map .settled)) := by
  have hsteps : List.Forall₂ (fun step answer => ∀ outcome, answer = .ok outcome →
      Work.Yields inv step (· = .settled outcome.value?)) (classifyEach ctx rules)
      (answerEach .failFast ctx rules) := by
    rw [classifyEach_eq_map, answerEach_eq_map, forall₂_map_map]
    intro rule hrule outcome hanswer
    have hgives := heval rule hrule
    rw [show rule.answer .failFast ctx = .ok outcome from hanswer] at hgives
    exact classifyBy_gives_ok hgives _
  rw [hanswers, List.forall₂_map_right_iff] at hsteps
  apply Forecast.additive_adds_up
  rw [List.forall₂_map_right_iff, List.forall₂_map_right_iff]
  exact hsteps.imp fun _ outcome hstep => hstep outcome rfl

/-- Attempted as a whole or not, rules that fail for want of data only show in a
prediction as what the walk along them finds. -/
theorem classify_allMatches_yields (htame : Pass.Tame .failFast inv) (name : String)
    (heval : ∀ rule ∈ rules, Eval.Gives inv (rule.eval ctx) (rule.answer .failFast ctx))
    (hdata : ∀ rule ∈ rules, LacksDataOnly (rule.answer .failFast ctx))
    (hwalk : Work.Yields inv (Forecast.additive .nothing false (classifyEach ctx rules)) (· = f)) :
    Work.Yields inv (classify ctx (.allMatches name rules)) (·.flatten = f.flatten) := by
  have hset : Eval.Gives inv ((allMatches name rules).eval ctx)
      ((Eval.collect (answerEach .failFast ctx rules)).map fun outcomes =>
        .ofOption (GoalSet.merge (outcomes.filterMap Outcome.value?))) :=
    (Eval.allSettled_gives (htame.superviseEach_gives heval)).map _
  cases hcollect : Eval.collect (answerEach .failFast ctx rules) with
  | ok outcomes =>
      rw [hcollect] at hset
      have hadded := walk_adds_up heval (Eval.collect_eq_ok_iff.mp hcollect)
      intro p hp
      have hf : f = _ := (hwalk p hp).1.symm.trans (hadded p hp).1
      obtain ⟨hforecast, hthen⟩ := classifyBy_gives_ok hset
        (fun e => classifyFailed ctx e (.allMatches name rules)) p hp
      refine ⟨(congrArg Forecast.flatten hforecast).trans ?_, hthen⟩
      rw [hf, Forecast.flatten_addUp_settled, List.filterMap_map, Outcome.value?_ofOption]
      rfl
  | error e =>
      rw [hcollect] at hset
      have hlacks : e.isInsufficientData = true := by
        have hmembers : List.Forall₂ (fun answer _ => LacksDataOnly answer)
            (answerEach .failFast ctx rules) (answerEach .failFast ctx rules) := by
          rw [answerEach_eq_map, forall₂_map_map]
          exact hdata
        exact LacksDataOnly.compositional.collect hmembers e hcollect
      have hfailed : classifyFailed ctx e (.allMatches name rules) =
          Forecast.additive .nothing false (classifyEach ctx rules) := by
        simp [classifyFailed, hlacks]
      apply Work.Yields.bind hset
      rintro _ rfl
      change Work.Yields inv (classifyFailed ctx e (.allMatches name rules)) _
      rw [hfailed]
      exact fun p hp => ⟨congrArg Forecast.flatten (hwalk p hp).1, (hwalk p hp).2⟩

end Rule

namespace Decider

/-- What it takes for predictions to agree: the work in the chains does not hang on the
scratch, remembered tests of one name are the same test, a key is that of one rule, and
a chain that fails on the push lacks data. -/
structure Foreseeable (decider : Decider) (ctx : Context) : Prop where
  scopeFree : ∀ rule ∈ decider.chains, rule.Every ScopeFree
  sameNamed : Guard.SameNamed (decider.chains.flatMap Rule.remembered)
  keysTell : Rule.KeysTell (decider.chains.flatMap Rule.computations)
  lacksDataOnly : ∀ rule ∈ decider.chains, LacksDataOnly (rule.answer .failFast ctx)

namespace Foreseeable

variable {decider : Decider} {ctx : Context} {learned : LearnedNames}

theorem chain_gives (hrules : decider.Foreseeable ctx) :
    ∀ rule ∈ decider.chains, Eval.Gives
      (Pass.Settled ctx (decider.chains.flatMap Rule.remembered)
        (decider.chains.flatMap Rule.computations) learned)
      (rule.eval ctx) (rule.answer .failFast ctx) := by
  intro rule hrule
  apply (Pass.Settled.upheld hrules.sameNamed hrules.keysTell).eval_gives
    (hrules.scopeFree rule hrule)
  · exact fun _ hguard => List.mem_flatMap_of_mem hrule hguard
  · exact fun _ hinner => List.mem_flatMap_of_mem hrule hinner

theorem walk_determined (hrules : decider.Foreseeable ctx) :
    Work.Determined
      (Pass.Settled ctx (decider.chains.flatMap Rule.remembered)
        (decider.chains.flatMap Rule.computations) learned)
      (Forecast.additive .nothing false (Rule.classifyEach ctx decider.chains)) := by
  apply Forecast.additive_determined
  rw [Rule.classifyEach_eq_map, List.forall_mem_map]
  intro rule hrule
  apply Rule.classify_determined hrules.sameNamed hrules.keysTell (hrules.scopeFree rule hrule)
  · exact fun _ hguard => List.mem_flatMap_of_mem hrule hguard
  · exact fun _ hinner => List.mem_flatMap_of_mem hrule hinner

theorem predict_joined (hrules : decider.Foreseeable ctx) (name : String) {engine : Engine}
    (hempty : engine.caches.Empty) :
    (((decider.joined name).predict ctx).run engine).1 =
      ((decider.predict ctx).run engine).1 := by
  have hstart : Pass.Settled ctx (decider.chains.flatMap Rule.remembered)
      (decider.chains.flatMap Rule.computations) engine.learned ⟨engine, {}⟩ :=
    ⟨⟨rfl, hempty.truthful ctx _⟩, fun _ _ => rfl⟩
  obtain ⟨f, hwalk⟩ : Work.Determined
      (Pass.Settled ctx (decider.chains.flatMap Rule.remembered)
        (decider.chains.flatMap Rule.computations) engine.learned)
      (Forecast.additive .nothing false (Rule.classifyEach ctx decider.chains)) :=
    hrules.walk_determined
  have hset := Rule.classify_allMatches_yields
    (Pass.Settled.upheld hrules.sameNamed hrules.keysTell).tame name hrules.chain_gives
    hrules.lacksDataOnly hwalk
  obtain ⟨given, hgiven, hforecast⟩ := (Forecast.additive_single_yields hset _ hstart).1
  calc (((decider.joined name).predict ctx).run engine).1
      = (Forecast.nothing.merge given).flatten := congrArg Forecast.flatten hforecast
    _ = f.flatten := (Forecast.flatten_merge_nothing given).trans hgiven
    _ = ((decider.predict ctx).run engine).1 :=
        congrArg Forecast.flatten (hwalk _ hstart).1.symm

end Foreseeable

/-- The chains of a decider and the one all-matches set of them are decided alike,
whatever the caches hold: the same goals and failures, or the same error, which is that
of the first chain that fails even if a chain before it is locked.  From empty caches
they are predicted alike as well, although only the set is attempted as a whole. -/
theorem chains_are_one_set (decider : Decider) (name : String) (ctx : Context)
    (engine : Engine) :
    (((decider.joined name).decide ctx).run engine).1 = ((decider.decide ctx).run engine).1 ∧
      (∀ e, ((decider.decide ctx).run engine).1 = .error e ↔
        decider.settings.failurePolicy = .failFast ∧
          Rule.FailsFirst ctx decider.chains (decider.start ctx engine) e) ∧
      (decider.Foreseeable ctx → engine.caches.Empty →
        (((decider.joined name).predict ctx).run engine).1 =
          ((decider.predict ctx).run engine).1) :=
  ⟨decide_joined decider name ctx engine, fun _ => decide_error_iff decider ctx engine,
    fun hrules hempty => hrules.predict_joined name hempty⟩

/-- A locked chain stands before one that computes its goals. -/
def held : Decider where
  chains :=
    [.fixed (.test .onAnyPush) none ⟨"check", [.ofName "check"], false⟩,
     .fixed (.test .onAnyPush) none ⟨"hold", [.ofName "check", .ofName "hold"], true⟩,
     Rule.computeGoals 0 dockerGate (some "plan") fun ctx => do
      let branch ← Probe.ofExcept ctx.branch?
      return .set ⟨"goals for " ++ branch, [.ofName "deploy"], false⟩]

theorem held_foreseeable : held.Foreseeable .empty where
  scopeFree := by
    have hopen := PushTest.onAnyPush_lasting.scopeFree
    have hplan (fallback : String) : Lasting fun ctx => (do
        let goals ← (do
          let branch ← Probe.ofExcept ctx.branch?
          return Component.set ⟨"goals for " ++ branch, [.ofName "deploy"], false⟩ :
            Probe Component)
        return (goals.name?, goals.toGoalSet fallback) : Probe (Option String × GoalSet)) :=
      ((Lasting.ofExcept fun _ _ hmore => Context.available_kept hmore.branch "branch").bind
        fun _ => .const fun _ => rfl).bind fun _ => .const fun _ => rfl
    simp only [held, List.forall_mem_cons]
    refine ⟨hopen, hopen, ⟨⟨(PushTest.toBranch_lasting "main").scopeFree,
      (PushTest.hasFile_lasting "Dockerfile").scopeFree, trivial⟩,
      fun fallback => (hplan fallback).scopeFree⟩, fun _ h => nomatch h⟩
  sameNamed := by
    intro g hg h hh _ ctx
    rw [List.mem_singleton.mp hg, List.mem_singleton.mp hh]
  keysTell := by
    intro first hfirst second hsecond _
    rw [List.mem_singleton.mp hfirst, List.mem_singleton.mp hsecond]
  lacksDataOnly := by
    simp only [held, List.forall_mem_cons]
    refine ⟨LacksDataOnly.ok _, LacksDataOnly.ok _, ?_, fun _ h => nomatch h⟩
    intro e he
    cases he
    rfl

/-- Of an unknown push the chain behind the lock makes an error, of the chains as of the
set; both predict the goals up to the lock. -/
theorem held_is_one_set :
    held.Foreseeable .empty ∧ ({} : Engine).caches.Empty ∧
      Rule.FailsFirst .empty held.chains (held.start .empty {}) (.insufficientData "branch") ∧
      (((held.joined "all").decide .empty).run {}).1 = .error (.insufficientData "branch") ∧
      (((held.joined "all").predict .empty).run {}).1.definiteNames = ["check", "hold"] := by
  obtain ⟨hdecide, herror, hpredict⟩ := chains_are_one_set held "all" .empty {}
  have hfailures : ((held.decide .empty).run {}).1.map (·.failures) =
      .error (.insufficientData "branch") := by
    decide +kernel
  have hfails := error_of_map hfailures
  have hnames : ((held.predict .empty).run {}).1.definiteNames = ["check", "hold"] := by
    decide +kernel
  refine ⟨held_foreseeable, Caches.empty_default, ((herror _).mp hfails).2, ?_, ?_⟩
  · exact hdecide.trans hfails
  · rw [hpredict held_foreseeable Caches.empty_default]
    exact hnames

end Decider

end PushGoals
