import PushGoals.Rule.Evaluation
import PushGoals.Rule.Description
import PushGoals.Settings

/-!
# Deciding goals

A decider holds chains, the top-level rules.  Every chain is evaluated for every
push, and what the chains give is merged in their order, a locked result ending
the merge.  Each decision has a scope of its own; the engine is shared.
-/

namespace PushGoals

structure Decider where
  chains : List GoalRule := []
  settings : Settings := {}

structure Decision where
  /-- The identity of the push, when it is known. -/
  push : Option String
  /-- Nothing when no chain set goals. -/
  goals : Option GoalSet
  /-- The rules that failed and were isolated. -/
  failures : List RuleFailure
deriving Inhabited

def Decision.goalCount (d : Decision) : Nat := (d.goals.map (·.goals.length)).getD 0

namespace Decider

/-- How a push is called in the log. -/
def pushLabel (ctx : Context) : String := (ctx.id.map PushId.text).getD "<unknown>"

/-- The goals of all chains together. -/
def decideIn (decider : Decider) (ctx : Context) : Eval (Option GoalSet) := do
  modify (·.emit (.decisionStarted (pushLabel ctx) decider.chains.length))
  let outcomes ← Eval.allSettled (Rule.superviseEach ctx decider.chains)
  let goals := GoalSet.merge (outcomes.filterMap Outcome.value?)
  let failures := (← get).scope.failures
  let finished : Event :=
    .decisionFinished (pushLabel ctx) (goals.map (·.name))
      ((goals.map (·.goals.length)).getD 0) failures.length
  modify (·.emit finished)
  return goals

/-- Decide the goals of a push in a fresh scope. -/
def decide (decider : Decider) (ctx : Context) : StateM Engine (Except GoalError Decision) :=
  fun engine =>
    let scope : Scope := { policy := decider.settings.failurePolicy }
    let (answer, p) := (decider.decideIn ctx).run ⟨engine.count .decisions, scope⟩
    (answer.map (fun goals =>
        { push := ctx.id.map PushId.text, goals, failures := p.scope.failures }),
      p.engine)

def describe (decider : Decider) (learned : LearnedNames) : List RuleDescription :=
  Rule.describeEach learned decider.chains

end Decider

end PushGoals
