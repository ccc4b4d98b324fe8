import PushGoals.Decision
import PushGoals.Proofs.Rule.Evaluation

/-!
# What a decider decides

A decider whose rules do not hang on the scratch decides, from empty caches, what
its chains mean together under its failure policy.  What the engine has learned
and counted before plays no part.
-/

namespace PushGoals
namespace Decider

/-- Failures are recorded by rule sets alone, and by no test, hook or computation. -/
def Plain (decider : Decider) : Prop := ∀ rule ∈ decider.chains, rule.Every RecordsNothing

/-- The pass in which the chains of a decision are evaluated. -/
def start (decider : Decider) (ctx : Context) (engine : Engine) : Pass :=
  Pass.emit ⟨engine.count .decisions, { policy := decider.settings.failurePolicy }⟩
    (.decisionStarted (pushLabel ctx) decider.chains.length)

/-- How a decision ends in the pass to which its chains have led: what they give is merged,
or the first error among their answers is given. -/
def conclude (ctx : Context) (p : Pass) :
    Except GoalError (List (Outcome GoalSet)) → Except GoalError Decision × Engine
  | .ok outcomes =>
      let decision : Decision :=
        { push := ctx.id.map PushId.text
          goals := GoalSet.merge (outcomes.filterMap Outcome.value?)
          failures := p.scope.failures }
      (.ok decision,
        p.engine.emit (.decisionFinished (pushLabel ctx) (decision.goals.map (·.name))
          decision.goalCount decision.failures.length))
  | .error e => (.error e, p.engine)

theorem decide_run (decider : Decider) (ctx : Context) (engine : Engine) :
    (decider.decide ctx).run engine =
      conclude ctx
        ((Eval.settle (Rule.superviseEach ctx decider.chains)).run (decider.start ctx engine)).2
        (Eval.collect ((Eval.settle (Rule.superviseEach ctx decider.chains)).run
          (decider.start ctx engine)).1) := by
  let fresh : Pass :=
    ⟨engine.count .decisions, { policy := decider.settings.failurePolicy }⟩
  have hstart : (modify (·.emit (.decisionStarted (pushLabel ctx) decider.chains.length)) :
      Eval PUnit).run.run fresh = (.ok (), decider.start ctx engine) := rfl
  have hdecide : (decider.decide ctx).run engine =
      (((decider.decideIn ctx).run.run fresh).1.map fun goals =>
          { push := ctx.id.map PushId.text, goals
            failures := ((decider.decideIn ctx).run.run fresh).2.scope.failures },
        ((decider.decideIn ctx).run.run fresh).2.engine) := rfl
  rw [hdecide]
  unfold decideIn
  rw [Eval.run_bind, hstart]
  simp only
  rw [Eval.run_bind, Eval.run_allSettled]
  cases Eval.collect ((Eval.settle (Rule.superviseEach ctx decider.chains)).run
    (decider.start ctx engine)).1 <;> rfl

/-- A decision is what its chains give, merged. -/
theorem decide_eq (decider : Decider) (ctx : Context) (engine : Engine) :
    ((decider.decide ctx).run engine).1 =
      (Eval.collect ((Eval.settle (Rule.superviseEach ctx decider.chains)).run
        (decider.start ctx engine)).1).map fun outcomes =>
          { push := ctx.id.map PushId.text
            goals := GoalSet.merge (outcomes.filterMap Outcome.value?)
            failures := ((Eval.settle (Rule.superviseEach ctx decider.chains)).run
              (decider.start ctx engine)).2.scope.failures } := by
  rw [decide_run]
  cases Eval.collect ((Eval.settle (Rule.superviseEach ctx decider.chains)).run
    (decider.start ctx engine)).1 <;> rfl

variable {decider : Decider} {ctx : Context} {policy : FailurePolicy}

theorem chain_gives (hfree : ∀ rule ∈ decider.chains, rule.Every ScopeFree)
    (hnames : Guard.SameNamed (decider.chains.flatMap Rule.remembered)) {rule : GoalRule}
    (hrule : rule ∈ decider.chains) :
    Eval.Gives (Pass.Faithful ctx (decider.chains.flatMap Rule.remembered) policy)
      (rule.eval ctx) (rule.answer policy ctx) := by
  apply Rule.eval_gives (hfree rule hrule) hnames
  exact fun g hg => List.mem_flatMap_of_mem hrule hg

/-- From empty caches the chains, each under the failure policy, come to what they
mean. -/
theorem settle_chains (hfree : ∀ rule ∈ decider.chains, rule.Every ScopeFree)
    (hnames : Guard.SameNamed (decider.chains.flatMap Rule.remembered)) {engine : Engine}
    (hempty : engine.caches.Empty) :
    ((Eval.settle (Rule.superviseEach ctx decider.chains)).run (decider.start ctx engine)).1 =
      Rule.answerEach decider.settings.failurePolicy ctx decider.chains := by
  have hstart : Pass.Faithful ctx (decider.chains.flatMap Rule.remembered)
      decider.settings.failurePolicy (decider.start ctx engine) :=
    ⟨rfl, hempty.truthful ctx _⟩
  have hchains : List.Forall₂ (Eval.Gives (Pass.Faithful ctx
        (decider.chains.flatMap Rule.remembered) decider.settings.failurePolicy))
      (Rule.superviseEach ctx decider.chains)
      (Rule.answerEach decider.settings.failurePolicy ctx decider.chains) :=
    Rule.superviseEach_gives fun _ => chain_gives hfree hnames
  exact (Eval.settle_yields hchains _ hstart).1

/-- What reliable predictions ask of the rules: their work does not hang on the
scratch, an answer of it is kept when more becomes known, and remembered tests of
one name are the same test. -/
structure Reliable (decider : Decider) : Prop where
  scopeFree : ∀ rule ∈ decider.chains, rule.Every ScopeFree
  stable : ∀ rule ∈ decider.chains, rule.Every Stable
  sameNamed : Guard.SameNamed (decider.chains.flatMap Rule.remembered)

def answer (decider : Decider) (ctx : Context) : Except GoalError (Option GoalSet) := do
  let outcomes ← Eval.collect (Rule.answerEach decider.settings.failurePolicy ctx decider.chains)
  return GoalSet.merge (outcomes.filterMap Outcome.value?)

/-- A decision from empty caches sets what the chains mean. -/
theorem answer_of_decide (hrules : decider.Reliable) {engine : Engine}
    (hempty : engine.caches.Empty) {decision : Decision}
    (hdecide : ((decider.decide ctx).run engine).1 = .ok decision) :
    decider.answer ctx = .ok decision.goals := by
  rw [decide_eq, settle_chains hrules.scopeFree hrules.sameNamed hempty] at hdecide
  obtain ⟨outcomes, houtcomes, hdecision⟩ := ok_of_map hdecide
  unfold answer
  rw [houtcomes, ← hdecision]
  rfl

end Decider
end PushGoals
