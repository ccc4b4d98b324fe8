import PushGoals.Prediction.Forecast
import PushGoals.Decision

/-!
# Predicting goals

A rule is first evaluated as if everything were known.  If that fails for want
of data, the rule is walked by its structure: the members of a sequence or a set
one by one, a guard apart from what stands behind it.  An error of any other
kind is never passed over; it becomes an unknown road.
-/

namespace PushGoals

namespace Forecast

/-- Contributions in order.  A certain lock ends the merge; after a possible one
the later contributions are only possible. -/
def additive (forecast : Forecast) (lockPossible : Bool) : List (Work Forecast) → Work Forecast
  | [] => pure forecast
  | step :: rest => do
      let next ← step
      let next := if lockPossible then next.demote else next
      let merged := forecast.merge next
      if next.locks then return merged
      else additive merged (lockPossible || next.mayLock) rest

end Forecast

namespace Rule

/-- The forecast of an evaluation, given what to do when it fails. -/
def classifyBy (evaluation : Eval (Outcome GoalSet)) (failed : GoalError → Work Forecast) :
    Work Forecast := do
  match ← evaluation.run with
  | .ok (.matched goals) => return .certain goals
  | .ok .noMatch => return .nothing
  | .ok .halt => return .nothing
  | .error e => failed e

/-- Look at the guard alone.  `behind` is the forecast of what stands behind it;
for a halt there is none. -/
def classifyGuard (name : String) (guard : Guard) (ctx : Context)
    (behind : Option (Work Forecast)) : Work Forecast := do
  modify (·.emit (.guardAlone name guard.name guard.cost))
  match ← (guard.passes ctx).run with
  | .ok true => behind.getD (pure .nothing)
  | .ok false => return .nothing
  | .error e =>
      if e.isInsufficientData then
        match behind with
        | none => return .road name ("may halt: " ++ e.message)
        | some body => return (← body).demote
      else return .road name e.message

/-- What stands behind a guard, once its hook has run.  A hook that lacks data
leaves the body undecided, since rules in it may read what the hook should have
prepared. -/
def classifyBody (name : String) (hook : Option Hook) (ctx : Context) (body : Work Forecast) :
    Work Forecast := do
  match ← (runHook hook ctx).run with
  | .ok _ => body
  | .error e =>
      if e.isInsufficientData then return (← body).demote.withRoad name e.message
      else return .road name e.message

mutual

/-- The forecast of a rule whose evaluation as a whole failed with `e`. -/
def classifyFailed (ctx : Context) (e : GoalError) : GoalRule → Work Forecast
  | .fixed guard reason value =>
      if !e.isInsufficientData then return .road (statedName guard reason) e.message
      else
        let name := statedName guard reason
        classifyGuard name guard ctx
          (some (classifyBody name none ctx (pure (.certain value))))
  | .halting guard reason =>
      if !e.isInsufficientData then return .road (statedName guard reason) e.message
      else classifyGuard (statedName guard reason) guard ctx none
  | .computed key guard reason compute => do
      let name ← currentName (.computed key guard reason compute)
      return .road name e.message
  | .firstMatch name rules =>
      if !e.isInsufficientData then return .road name e.message
      else classifyFirst ctx rules
  | .allMatches name contributors =>
      if !e.isInsufficientData then return .road name e.message
      else Forecast.additive .nothing false (classifyEach ctx contributors)
  | .enriched name base extension =>
      if !e.isInsufficientData then return .road name e.message
      else
        Forecast.additive .nothing false
          [classifyBy (eval ctx base) (fun e => classifyFailed ctx e base),
           classifyBy (eval ctx extension) (fun e => classifyFailed ctx e extension)]
  | .leaf name guard hook value =>
      if !e.isInsufficientData then return .road name e.message
      else
        classifyGuard name guard ctx
          (some (classifyBody name hook ctx (pure (.certain value))))
  | .branch name guard hook children =>
      if !e.isInsufficientData then return .road name e.message
      else
        classifyGuard name guard ctx
          (some
            (classifyBody name hook ctx
              (classifyBy (evalFirst ctx children)
                (fun e =>
                  if !e.isInsufficientData then return .road name e.message
                  else classifyFirst ctx children))))
  | .mapped f inner => do
      let name ← currentName (.mapped f inner)
      return .road name e.message
  | .custom name _ _ => return .road name e.message

/-- The forecast of a first-match sequence.  A rule that may match leaves the
rules behind it merely possible. -/
def classifyFirst (ctx : Context) : List GoalRule → Work Forecast
  | [] => return .nothing
  | rule :: rest => do
      match ← (eval ctx rule).run with
      | .ok .halt => return .nothing
      | .ok .noMatch => classifyFirst ctx rest
      | .ok (.matched goals) => return .certain goals
      | .error e =>
          let head ← classifyFailed ctx e rule
          let tail ← classifyFirst ctx rest
          return head.orElse tail

/-- The forecasts of rules, not yet made. -/
def classifyEach (ctx : Context) : List GoalRule → List (Work Forecast)
  | [] => []
  | rule :: rest =>
      classifyBy (eval ctx rule) (fun e => classifyFailed ctx e rule) :: classifyEach ctx rest

end

def classify (ctx : Context) (rule : GoalRule) : Work Forecast :=
  classifyBy (eval ctx rule) (fun e => classifyFailed ctx e rule)

end Rule

namespace Prediction

/-- The prediction that a classification in a fresh scope leads to. -/
def ofClassification (classification : Work Forecast) : StateM Engine Prediction :=
  fun engine =>
    let (forecast, p) := classification.run ⟨engine, {}⟩
    let prediction := forecast.flatten
    (prediction,
      (p.engine.count .predictions).emit
        (.predictionFinished prediction.definiteGoals.length prediction.possibleGoals.length
          prediction.unknownRoads.length))

def ofRule (rule : GoalRule) (ctx : Context) : StateM Engine Prediction :=
  ofClassification (rule.classify ctx)

/-- Predict the goals of chains that are merged as a decider merges them. -/
def ofChains (chains : List GoalRule) (ctx : Context) : StateM Engine Prediction :=
  ofClassification (Forecast.additive .nothing false (Rule.classifyEach ctx chains))

end Prediction

def Decider.predict (decider : Decider) (ctx : Context) : StateM Engine Prediction :=
  Prediction.ofChains decider.chains ctx

end PushGoals
