/-!
# Goals

A goal is a unit of delivery work, known by its unique name: two goals are the
same goal (`Goal.isSame`) when their names are equal, whatever else they say.
The goals it depends on are kept whole and in the order of their declaration;
running them in order is left to whoever runs them.

`Goal.dedupe` keeps the first of goals with one name.
-/

namespace PushGoals

/-- The environment of goals that need no deployment: building, testing. -/
def codeEnvironment : String := "0-code"

/-- The stages of a goal's life that are announced to people. -/
inductive GoalState where
  | working
  | completed
  | failed
  | waitingForApproval
deriving DecidableEq, Repr

def GoalState.all : List GoalState := [.working, .completed, .failed, .waitingForApproval]

/-- Announcements of a goal's own, by stage. -/
structure GoalDescriptions where
  working : Option String := none
  completed : Option String := none
  failed : Option String := none
  waitingForApproval : Option String := none
deriving DecidableEq, Repr, Inhabited

namespace GoalDescriptions

def get (d : GoalDescriptions) : GoalState → Option String
  | .working => d.working
  | .completed => d.completed
  | .failed => d.failed
  | .waitingForApproval => d.waitingForApproval

def set (d : GoalDescriptions) (state : GoalState) (text : String) : GoalDescriptions :=
  match state with
  | .working => { d with working := some text }
  | .completed => { d with completed := some text }
  | .failed => { d with failed := some text }
  | .waitingForApproval => { d with waitingForApproval := some text }

@[simp] theorem get_set_self (d : GoalDescriptions) (state : GoalState) (text : String) :
    (d.set state text).get state = some text := by
  cases state <;> rfl

end GoalDescriptions

structure Goal where
  uniqueName : String
  displayName : Option String := none
  environment : String := codeEnvironment
  /-- Where the goal stands in layouts and lists of statuses. -/
  orderedName : String := ""
  descriptions : GoalDescriptions := {}
  approvalRequired : Bool := false
  preApprovalRequired : Bool := false
  retryFeasible : Bool := false
  /-- The goals that must be complete before this one starts. -/
  dependsOn : List Goal := []
deriving Repr, Inhabited

namespace Goal

/-- A goal that is sorted by its own name and says nothing else. -/
def ofName (name : String) : Goal := { uniqueName := name, orderedName := name }

def label (goal : Goal) : String := goal.displayName.getD goal.uniqueName

def hasPreconditions (goal : Goal) : Bool := !goal.dependsOn.isEmpty

/-- The goal with more preconditions behind the ones it has. -/
def after (goal : Goal) (preconditions : List Goal) : Goal :=
  { goal with dependsOn := goal.dependsOn ++ preconditions }

/-- The announcement of a stage: the goal's own, or one made from its label. -/
def describe (goal : Goal) (state : GoalState) : String :=
  match goal.descriptions.get state with
  | some text => text
  | none =>
      match state with
      | .working => "Working: " ++ goal.label
      | .completed => "Complete: " ++ goal.label
      | .failed => "Failed: " ++ goal.label
      | .waitingForApproval => "Approval required: " ++ goal.label

/-- The same goal: the same unique name. -/
def isSame (a b : Goal) : Bool := a.uniqueName == b.uniqueName

/-- The goals whose names are neither in `seen` nor borne by an earlier goal. -/
def dedupeFrom (seen : List String) : List Goal → List Goal
  | [] => []
  | g :: rest =>
      if seen.contains g.uniqueName then dedupeFrom seen rest
      else g :: dedupeFrom (g.uniqueName :: seen) rest

/-- The first goal of each name, in order. -/
def dedupe (goals : List Goal) : List Goal := dedupeFrom [] goals

@[simp] theorem dedupeFrom_nil (seen : List String) : dedupeFrom seen [] = [] := rfl

theorem dedupeFrom_cons_of_mem {seen : List String} {g : Goal} (rest : List Goal)
    (h : g.uniqueName ∈ seen) : dedupeFrom seen (g :: rest) = dedupeFrom seen rest := by
  simp [dedupeFrom, h]

theorem dedupeFrom_cons_of_not_mem {seen : List String} {g : Goal} (rest : List Goal)
    (h : g.uniqueName ∉ seen) :
    dedupeFrom seen (g :: rest) = g :: dedupeFrom (g.uniqueName :: seen) rest := by
  simp [dedupeFrom, h]

end Goal

end PushGoals
