import PushGoals.Rule.Basic
import PushGoals.Guard.Evaluation

/-!
# Evaluating rules

A first-match sequence evaluates its rules in order up to the first that
matches, halts or fails; halting ends it without a match.  An all-matches set
evaluates every contributor and merges what they give, a halt giving nothing.
An enriched rule leaves a locked base alone and otherwise merges base and
extension.

Wherever rules stand in a set, `Rule.supervise` puts each under the failure policy
of the scope: a failure ends the pass, or it is recorded and the rule
counts as not matching.
-/

namespace PushGoals

namespace Eval

/-- Learn a name for a rule, if there is one to learn. -/
def learn (key : RuleKey) : Option String → Work Unit
  | none => pure ()
  | some name =>
      modify fun p =>
        { p with engine := { p.engine with learned := p.engine.learned.set key name } }

/-- Record that the rule called `name` failed and was isolated. -/
def isolate (name : String) (e : GoalError) : Work Unit := do
  modify (·.emit (.ruleFailed name e.message))
  modify fun p => { p with scope := p.scope.recordFailure name e.message }
  modify (·.count .ruleFailures)

/-- An evaluation under the failure policy of the scope.  The name is asked for
when the evaluation is over, since the rule may have learned it meanwhile. -/
def supervised {V : Type} (name : Work String) (evaluation : Eval (Outcome V)) :
    Eval (Outcome V) := do
  match ← attempt evaluation with
  | .ok outcome =>
      if outcome.isMatched then
        let name ← name
        modify (·.emit (.ruleMatched name))
      return outcome
  | .error e =>
      match (← get).scope.policy with
      | .isolateAndReport =>
          let name ← name
          isolate name e
          return .noMatch
      | .failFast => throw e

end Eval

def Guard.evaluate (guard : Guard) (ctx : Context) : Eval (Outcome Bool) :=
  Eval.supervised (pure guard.name) (guard.eval ctx)

namespace Rule

variable {V : Type}

/-- The name a rule has by now. -/
def currentName (rule : Rule V) : Work String := do
  return rule.name (← get).engine.learned

/-- The evaluation of `rule` as a member of a rule set. -/
def supervise (rule : Rule V) (evaluation : Eval (Outcome V)) : Eval (Outcome V) :=
  Eval.supervised rule.currentName evaluation

def runHook (hook : Option Hook) (ctx : Context) : Eval Unit :=
  match hook with
  | none => pure ()
  | some work => Eval.ofProbe (work ctx)

/-- What an enriched rule gives, from what its two rules gave. -/
def combine [Contribution V] : Option V → Option V → Option V
  | some base, some extension => Contribution.merge [base, extension]
  | some base, none => some base
  | none, extension => extension

/-- Is there a value that is closed to further contributions? -/
def closed [Contribution V] : Option V → Bool
  | some v => Contribution.locked v
  | none => false

mutual

def eval [Contribution V] (ctx : Context) : Rule V → Eval (Outcome V)
  | .fixed guard _ value => do
      if ← guard.passes ctx then return .matched value else return .noMatch
  | .halting guard _ => do
      if ← guard.passes ctx then return .halt else return .noMatch
  | .computed key guard reason compute => do
      if ← guard.passes ctx then
        let (name, value) ← Eval.ofProbe (compute ctx (statedName guard reason))
        Eval.learn key name
        return .matched value
      else return .noMatch
  | .firstMatch _ rules => evalFirst ctx rules
  | .allMatches _ contributors => do
      let outcomes ← Eval.allSettled (superviseEach ctx contributors)
      return .ofOption (Contribution.merge (outcomes.filterMap Outcome.value?))
  | .enriched _ base extension => do
      let given ← supervise base (eval ctx base)
      if closed given.value? then return .ofOption given.value?
      let added ← supervise extension (eval ctx extension)
      return .ofOption (combine given.value? added.value?)
  | .leaf _ guard hook value => do
      if ← guard.passes ctx then
        runHook hook ctx
        return .matched value
      else return .noMatch
  | .branch _ guard hook children => do
      if ← guard.passes ctx then
        runHook hook ctx
        evalFirst ctx children
      else return .noMatch
  | .mapped f inner => do
      let outcome ← eval ctx inner
      return outcome.map f
  | .custom _ _ run => Eval.ofProbe (run ctx)

def evalFirst [Contribution V] (ctx : Context) : List (Rule V) → Eval (Outcome V)
  | [] => pure .noMatch
  | rule :: rest => do
      match ← supervise rule (eval ctx rule) with
      | .matched value => return .matched value
      | .noMatch => evalFirst ctx rest
      | .halt =>
          let name ← rule.currentName
          modify (·.emit (.ruleHalted name))
          return .noMatch

/-- The supervised evaluations of rules, not yet run. -/
def superviseEach [Contribution V] (ctx : Context) : List (Rule V) → List (Eval (Outcome V))
  | [] => []
  | rule :: rest => supervise rule (eval ctx rule) :: superviseEach ctx rest

end

def evaluate [Contribution V] (rule : Rule V) (ctx : Context) : Eval (Outcome V) :=
  supervise rule (rule.eval ctx)

end Rule

end PushGoals
