import PushGoals.Metrics
import PushGoals.Cost

/-!
# Events

What happens during decisions and predictions, as it is written to a log.
`Event.fields` is an event's line: its level, its message if it has one, and its
fields in order.
-/

namespace PushGoals

/-- Severities, the gravest first. -/
inductive Level where
  | error
  | warn
  | info
  | debug
  | trace
deriving DecidableEq, Repr

def Level.all : List Level := [.error, .warn, .info, .debug, .trace]

def Level.name : Level → String
  | .error => "ERROR"
  | .warn => "WARN"
  | .info => "INFO"
  | .debug => "DEBUG"
  | .trace => "TRACE"

inductive Event where
  | decisionStarted (push : String) (chains : Nat)
  | decisionFinished (push : String) (goals : Option String) (goalCount failures : Nat)
  | predictionFinished (definite possible unknown : Nat)
  | ruleMatched (rule : String)
  | ruleFailed (rule error : String)
  | ruleHalted (rule : String)
  /-- A prediction looks at the guard of a rule that could not be evaluated. -/
  | guardAlone (rule guard : String) (cost : Cost)
  | countersFlushed (metrics : Metrics)
deriving DecidableEq, Repr

namespace Event

def level : Event → Level
  | .decisionStarted .. | .decisionFinished .. | .predictionFinished .. => .info
  | .ruleMatched .. | .ruleHalted .. | .guardAlone .. => .debug
  | .ruleFailed .. => .warn
  | .countersFlushed .. => .info

def details : Event → List (String × String)
  | .decisionStarted push chains =>
      [("event", "decision.started"), ("push", push), ("chains", toString chains)]
  | .decisionFinished push goals goalCount failures =>
      [("event", "decision.finished"), ("push", push), ("goals", goals.getD "<none>"),
       ("goal_count", toString goalCount), ("failures", toString failures)]
  | .predictionFinished definite possible unknown =>
      [("event", "prediction.finished"), ("definite", toString definite),
       ("possible", toString possible), ("unknown", toString unknown)]
  | .ruleMatched rule => [("event", "rule.matched"), ("rule", rule)]
  | .ruleFailed rule error => [("event", "rule.failed"), ("rule", rule), ("error", error)]
  | .ruleHalted rule => [("message", "rule halted the sequence"), ("rule", rule)]
  | .guardAlone rule guard cost =>
      [("message", "evaluating guard alone"), ("rule", rule), ("guard", guard),
       ("cost", cost.title)]
  | .countersFlushed m =>
      ("metric", "flush") :: Counter.all.map (fun c => (c.name, toString (m.count c)))

def fields (e : Event) : List (String × String) := ("level", e.level.name) :: e.details

end Event

end PushGoals
