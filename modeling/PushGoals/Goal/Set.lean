import PushGoals.Goal.Basic

/-!
# Goal sets

What a push resolves to: named goals in the order in which they are shown, and a
lock.  A locked set is closed: nothing is merged into it.

`GoalSet.merge` puts contributions together in order up to and including the
first locked one.  `Contribution` is the little that the evaluation of rules has
to know about the values it puts together, so that rules may also give values
other than goals.
-/

namespace PushGoals

structure GoalSet where
  name : String
  /-- In display order; the order of execution comes from the preconditions. -/
  goals : List Goal
  locked : Bool := false
deriving Repr, Inhabited

namespace GoalSet

def lock (set : GoalSet) : GoalSet := { set with locked := true }

def goalNamed (set : GoalSet) (name : String) : Option Goal :=
  set.goals.find? (·.uniqueName == name)

def uniqueNames (set : GoalSet) : List String := set.goals.map (·.uniqueName)

/-- Equal names, the same goals in the same order, and equal locks. -/
def isSame (a b : GoalSet) : Bool :=
  a.name == b.name && a.uniqueNames == b.uniqueNames && a.locked == b.locked

/-- The contributions that count: all up to and including the first locked one. -/
def untilLocked : List GoalSet → List GoalSet
  | [] => []
  | set :: rest => if set.locked then [set] else set :: untilLocked rest

@[simp] theorem untilLocked_nil : untilLocked [] = [] := rfl

theorem untilLocked_cons_of_locked {set : GoalSet} (rest : List GoalSet) (h : set.locked = true) :
    untilLocked (set :: rest) = [set] := by
  simp [untilLocked, h]

theorem untilLocked_cons_of_open {set : GoalSet} (rest : List GoalSet) (h : set.locked = false) :
    untilLocked (set :: rest) = set :: untilLocked rest := by
  simp [untilLocked, h]

/-- The union of the contributions that count: their names joined, each goal
once, locked when one of them is.  Nothing when there is neither a goal nor a
lock. -/
def merge (contributions : List GoalSet) : Option GoalSet :=
  let counted := untilLocked contributions
  let goals := Goal.dedupe (counted.flatMap (·.goals))
  let locked := counted.any (·.locked)
  if goals.isEmpty && !locked then none
  else some { name := ", ".intercalate (counted.map (·.name)), goals, locked }

end GoalSet

/-- Values that several rules can contribute to one result. -/
class Contribution (V : Type) where
  locked : V → Bool
  /-- The result of contributions in order, if they make one. -/
  merge : List V → Option V

instance : Contribution GoalSet where
  locked := GoalSet.locked
  merge := GoalSet.merge

/-- What a goal rule may give: one goal, a list, or a named set. -/
inductive Component where
  | goal (g : Goal)
  | list (gs : List Goal)
  | set (named : GoalSet)
deriving Repr, Inhabited

namespace Component

def name? : Component → Option String
  | .set named => some named.name
  | _ => none

def toGoals : Component → List Goal
  | .goal g => [g]
  | .list gs => gs
  | .set named => named.goals

/-- The component as a set.  Bare goals take `fallback` as the set's name; a
named set keeps its name and its lock. -/
def toGoalSet (fallback : String) : Component → GoalSet
  | .set named => named
  | other => { name := fallback, goals := other.toGoals }

end Component

end PushGoals
