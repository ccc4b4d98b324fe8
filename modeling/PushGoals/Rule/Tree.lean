import PushGoals.Rule.Basic

/-!
# Building decision trees

A node of a decision tree is put together in three steps: the tests of its guard
with the preparations that run before them, the name it is called by with the
hook that runs once the guard has passed, and what stands behind it.

Preparations add up in their order.  A node has one hook, and a later one takes
the place of an earlier one.
-/

namespace PushGoals

/-- A decision node of which only the guard is said. -/
structure Given where
  tests : List Guard
  preparations : List Preparation := []

/-- A decision node of which all is said but what stands behind it. -/
structure Node where
  name : String
  guard : Guard
  hook : Option Hook := none

namespace Given

def prepare (given : Given) (preparation : Preparation) : Given :=
  { given with preparations := given.preparations ++ [preparation] }

/-- The guard: every test passes, once the preparations have run. -/
def guard (given : Given) : Guard := (Guard.allOf given.tests).preparedBy given.preparations

def means (given : Given) (name : String) : Node := { name, guard := given.guard }

@[simp] theorem preparations_prepare (given : Given) (preparation : Preparation) :
    (given.prepare preparation).preparations = given.preparations ++ [preparation] := rfl

end Given

namespace Node

variable {V : Type}

def compute (node : Node) (hook : Hook) : Node := { node with hook := some hook }

def leadsTo (node : Node) (children : List (Rule V)) : Rule V :=
  .branch node.name node.guard node.hook children

def gives (node : Node) (value : V) : Rule V := .leaf node.name node.guard node.hook value

@[simp] theorem compute_compute (node : Node) (first second : Hook) :
    (node.compute first).compute second = node.compute second := rfl

end Node

end PushGoals
