import PushGoals.Goal.Codec

/-!
# Forecasts

What can be said of the goals of a push that is only partly known: sets that
will certainly be set, sets that may be, and roads that could not be followed.
A forecast keeps whole goal sets, so that locks stay visible while forecasts are
put together; `Forecast.flatten` makes the prediction of it.
-/

namespace PushGoals

/-- A part of the rules that could not be seen through. -/
structure UnknownRoad where
  name : String
  reason : String
deriving DecidableEq, Repr, Inhabited

/-- Goals sorted by how certain they are; a goal that is definite is not repeated
as possible. -/
structure Prediction where
  definiteGoals : List Goal := []
  possibleGoals : List Goal := []
  unknownRoads : List UnknownRoad := []
deriving Repr, Inhabited

namespace Prediction

def isEmpty (p : Prediction) : Bool :=
  p.definiteGoals.isEmpty && p.possibleGoals.isEmpty && p.unknownRoads.isEmpty

def definiteNames (p : Prediction) : List String := p.definiteGoals.map (·.uniqueName)

def possibleNames (p : Prediction) : List String := p.possibleGoals.map (·.uniqueName)

end Prediction

def UnknownRoad.toValue (r : UnknownRoad) : Value :=
  .object [("name", .string r.name), ("reason", .string r.reason)]

def UnknownRoad.ofValue (v : Value) : Option UnknownRoad := do
  let shape : Decode.Shape := ⟨["name", "reason"], false⟩
  let fields ← shape.fields? .json v
  let name ← Decode.required fields "name" Decode.text
  let reason ← Decode.required fields "reason" Decode.text
  some { name, reason }

def Prediction.toValue (p : Prediction) : Value :=
  .object
    [("definite_goals", .array (p.definiteGoals.map Goal.toValue)),
     ("possible_goals", .array (p.possibleGoals.map Goal.toValue)),
     ("unknown_roads", .array (p.unknownRoads.map UnknownRoad.toValue))]

def Prediction.ofValue (v : Value) : Option Prediction := do
  let shape : Decode.Shape := ⟨["definite_goals", "possible_goals", "unknown_roads"], false⟩
  let fields ← shape.fields? .json v
  let definiteGoals ← Decode.required fields "definite_goals" (Decode.list Goal.ofValue)
  let possibleGoals ← Decode.required fields "possible_goals" (Decode.list Goal.ofValue)
  let unknownRoads ← Decode.required fields "unknown_roads" (Decode.list UnknownRoad.ofValue)
  some { definiteGoals, possibleGoals, unknownRoads }

structure Forecast where
  definite : List GoalSet := []
  possible : List GoalSet := []
  unknown : List UnknownRoad := []
deriving Inhabited

namespace Forecast

def nothing : Forecast := {}

def certain (set : GoalSet) : Forecast := { definite := [set] }

def road (name reason : String) : Forecast := { unknown := [⟨name, reason⟩] }

def withRoad (f : Forecast) (name reason : String) : Forecast :=
  { f with unknown := f.unknown ++ [⟨name, reason⟩] }

def isEmpty (f : Forecast) : Bool :=
  f.definite.isEmpty && f.possible.isEmpty && f.unknown.isEmpty

/-- A locked set will certainly be produced. -/
def locks (f : Forecast) : Bool := f.definite.any (·.locked)

/-- A locked set may be produced, or part of the rules is unseen. -/
def mayLock (f : Forecast) : Bool :=
  !f.unknown.isEmpty || (f.definite ++ f.possible).any (·.locked)

/-- The sets with those of `more` behind them that are not there yet. -/
def union (sets more : List GoalSet) : List GoalSet :=
  more.foldl (fun sets s => if sets.any (·.isSame s) then sets else sets ++ [s]) sets

/-- What two rules that both contribute give together. -/
def merge (f g : Forecast) : Forecast where
  definite := union f.definite g.definite
  possible := union f.possible g.possible
  unknown := f.unknown ++ g.unknown

/-- Everything that was definite becomes merely possible. -/
def demote (f : Forecast) : Forecast where
  definite := []
  possible := union f.definite f.possible
  unknown := f.unknown

/-- What a sequence gives whose head may match, leaving the tail unevaluated, or
not. -/
def orElse (head tail : Forecast) : Forecast :=
  if head.isEmpty then tail
  else
    { definite := []
      possible :=
        union (union (union (union [] head.definite) head.possible) tail.definite) tail.possible
      unknown := head.unknown ++ tail.unknown }

/-- The goals of all sets, each goal once and on its most certain side. -/
def flatten (f : Forecast) : Prediction :=
  let definite := Goal.dedupe (f.definite.flatMap (·.goals))
  { definiteGoals := definite
    possibleGoals :=
      (Goal.dedupe (f.possible.flatMap (·.goals))).filter (fun g => !definite.any (·.isSame g))
    unknownRoads := f.unknown }

end Forecast

end PushGoals
