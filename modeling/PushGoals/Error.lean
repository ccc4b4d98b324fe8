/-!
# Errors of goal decisions

A decision or a test fails for one of seven causes.  Only the first, a field of
the push that is not available, can be mended by knowing more of the push; a
prediction treats it as an open question and every other cause as a dead end.
-/

namespace PushGoals

inductive GoalError where
  /-- A field of the push context was read but is not available. -/
  | insufficientData (field : String)
  | predicate (name reason : String)
  | project (reason : String)
  | invalidRule (reason : String)
  | config (reason : String)
  | serialization (reason : String)
  | io (reason : String)
deriving DecidableEq, Repr, Inhabited

namespace GoalError

def message : GoalError → String
  | .insufficientData field => "insufficient data: " ++ field ++ " is not available"
  | .predicate name reason => "push test '" ++ name ++ "' failed: " ++ reason
  | .project reason => "project error: " ++ reason
  | .invalidRule reason => "invalid rule: " ++ reason
  | .config reason => "config error: " ++ reason
  | .serialization reason => "serialization error: " ++ reason
  | .io reason => "io error: " ++ reason

/-- The message of the error and, where its cause is an error of its own, that
error's text. -/
def messages (e : GoalError) : List String :=
  match e with
  | .serialization reason | .io reason => [e.message, reason]
  | _ => [e.message]

def isInsufficientData : GoalError → Bool
  | .insufficientData _ => true
  | _ => false

end GoalError

end PushGoals
