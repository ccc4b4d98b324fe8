import PushGoals.Goal.Set
import PushGoals.Decode

/-!
# Written form of goals

A goal is written with all its fields, preconditions inside it in full; read
back, only its unique name is needed.  The environment defaults to the code
environment and the sorting name to the empty text.
-/

namespace PushGoals

def GoalDescriptions.toValue (d : GoalDescriptions) : Value :=
  .object
    [("working", .ofText? d.working), ("completed", .ofText? d.completed),
     ("failed", .ofText? d.failed), ("waiting_for_approval", .ofText? d.waitingForApproval)]

def GoalDescriptions.ofValue (v : Value) : Option GoalDescriptions := do
  let shape : Decode.Shape := ⟨["working", "completed", "failed", "waiting_for_approval"], false⟩
  let fields ← shape.fields? .json v
  let working ← Decode.optional fields "working" Decode.text
  let completed ← Decode.optional fields "completed" Decode.text
  let failed ← Decode.optional fields "failed" Decode.text
  let waitingForApproval ← Decode.optional fields "waiting_for_approval" Decode.text
  some { working, completed, failed, waitingForApproval }

namespace Goal

mutual

def toValue : Goal → Value
  | ⟨uniqueName, displayName, environment, orderedName, descriptions, approvalRequired,
      preApprovalRequired, retryFeasible, dependsOn⟩ =>
      .object
        [("unique_name", .string uniqueName), ("display_name", .ofText? displayName),
         ("environment", .string environment), ("ordered_name", .string orderedName),
         ("descriptions", descriptions.toValue), ("approval_required", .bool approvalRequired),
         ("pre_approval_required", .bool preApprovalRequired),
         ("retry_feasible", .bool retryFeasible), ("depends_on", .array (toValues dependsOn))]

def toValues : List Goal → List Value
  | [] => []
  | g :: rest => toValue g :: toValues rest

end

def shape : Decode.Shape where
  names :=
    ["unique_name", "display_name", "environment", "ordered_name", "descriptions",
     "approval_required", "pre_approval_required", "retry_feasible", "depends_on"]

/-- Read a goal from a value nested at most `depth` levels. -/
def ofValueWithin : Nat → Value → Option Goal
  | 0, _ => none
  | depth + 1, v => do
      let fields ← shape.fields? .json v
      let uniqueName ← Decode.required fields "unique_name" Decode.text
      let displayName ← Decode.optional fields "display_name" Decode.text
      let environment ← Decode.fallback fields "environment" codeEnvironment Decode.text
      let orderedName ← Decode.fallback fields "ordered_name" "" Decode.text
      let descriptions ← Decode.fallback fields "descriptions" {} GoalDescriptions.ofValue
      let approvalRequired ← Decode.fallback fields "approval_required" false Decode.flag
      let preApprovalRequired ← Decode.fallback fields "pre_approval_required" false Decode.flag
      let retryFeasible ← Decode.fallback fields "retry_feasible" false Decode.flag
      let dependsOn ← Decode.fallback fields "depends_on" [] (Decode.list (ofValueWithin depth))
      some
        { uniqueName, displayName, environment, orderedName, descriptions, approvalRequired,
          preApprovalRequired, retryFeasible, dependsOn }

def ofValue (v : Value) : Option Goal := ofValueWithin v.depth v

end Goal

namespace GoalSet

def toValue (set : GoalSet) : Value :=
  .object
    [("name", .string set.name), ("goals", .array (set.goals.map Goal.toValue)),
     ("locked", .bool set.locked)]

def ofValue (v : Value) : Option GoalSet := do
  let shape : Decode.Shape := ⟨["name", "goals", "locked"], false⟩
  let fields ← shape.fields? .json v
  let name ← Decode.required fields "name" Decode.text
  let goals ← Decode.required fields "goals" (Decode.list Goal.ofValue)
  let locked ← Decode.fallback fields "locked" false Decode.flag
  some { name, goals, locked }

end GoalSet

end PushGoals
