import PushGoals.Guard.Basic
import PushGoals.Goal.Set
import PushGoals.Engine

/-!
# Rules

A rule turns a push into a value, says that it does not apply, or halts the
sequence it stands in.  Most rules are a guard with something behind it: a fixed
value, a computation, further rules, or a halt.  `Rule.parts?` and
`Rule.guarded?` show how a rule is made, so that it can be described and
predicted without knowing what its tests would answer.

A rule that computes a goal set learns that set's name and is called by it from
then on; names therefore depend on what has been learned.
-/

namespace PushGoals

/-- Work between a guard and what stands behind it. -/
abbrev Hook := Context → Probe Unit

inductive Rule (V : Type) where
  | fixed (guard : Guard) (reason : Option String) (value : V)
  | halting (guard : Guard) (reason : Option String)
  /-- Computes a value, given the name to use for one without a name; a name the
  value brings along is learned. -/
  | computed (key : RuleKey) (guard : Guard) (reason : Option String)
      (compute : Context → String → Probe (Option String × V))
  | firstMatch (name : String) (rules : List (Rule V))
  | allMatches (name : String) (contributors : List (Rule V))
  | enriched (name : String) (base extension : Rule V)
  /-- A decision node with a value behind it. -/
  | leaf (name : String) (guard : Guard) (hook : Option Hook) (value : V)
  /-- A decision node with further rules behind it; the first match wins. -/
  | branch (name : String) (guard : Guard) (hook : Option Hook) (children : List (Rule V))
  | mapped (f : V → V) (inner : Rule V)
  /-- A rule of the caller's own, of which nothing else is known. -/
  | custom (name : String) (cost : Cost) (run : Context → Probe (Outcome V))

namespace Rule

variable {V : Type}

/-- A guarded rule is called by its reason, or else by its guard. -/
def statedName (guard : Guard) (reason : Option String) : String := reason.getD guard.name

def name (learned : LearnedNames) : Rule V → String
  | .fixed guard reason _ => statedName guard reason
  | .halting guard reason => statedName guard reason
  | .computed key guard reason _ => (learned.get? key).getD (statedName guard reason)
  | .firstMatch name _ => name
  | .allMatches name _ => name
  | .enriched name _ _ => name
  | .leaf name _ _ _ => name
  | .branch name _ _ _ => name
  | .mapped _ inner => inner.name learned
  | .custom name _ _ => name

/-- Only rules of the caller's own have a stated cost. -/
def cost : Rule V → Cost
  | .custom _ cost _ => cost
  | .mapped _ inner => inner.cost
  | _ => .unknown

def parts? : Rule V → Option (Parts (Rule V))
  | .firstMatch _ rules => some ⟨.firstMatch, rules⟩
  | .allMatches _ contributors => some ⟨.allMatches, contributors⟩
  | .enriched _ base extension => some ⟨.enrich, [base, extension]⟩
  | _ => none

/-- What stands behind a guard. -/
inductive Body (V : Type) where
  | value (v : V)
  | rules (rule : Rule V)
  | halt

/-- A rule seen as a guard with something behind it. -/
structure Guarded (V : Type) where
  guard : Guard
  /-- Runs once the guard has passed. -/
  hook : Option Hook
  body : Body V

/-- The view of a rule as guarded.  What a computation would give is not known
without running it, so a computed rule has no such view. -/
def guarded? : Rule V → Option (Guarded V)
  | .fixed guard _ value => some ⟨guard, none, .value value⟩
  | .halting guard _ => some ⟨guard, none, .halt⟩
  | .leaf _ guard hook value => some ⟨guard, hook, .value value⟩
  | .branch name guard hook children => some ⟨guard, hook, .rules (.firstMatch name children)⟩
  | _ => none

/-- The goals of one rule extended by those of another.  The name is put together
when the rule is made. -/
def enrich (learned : LearnedNames) (base extension : Rule V) : Rule V :=
  .enriched (base.name learned ++ ", " ++ extension.name learned) base extension

/-- A rule for goals that are the same for every push.  Bare goals are named
after the rule. -/
def setGoals (guard : Guard) (reason : Option String) (goals : Component) : Rule GoalSet :=
  .fixed guard reason (goals.toGoalSet (statedName guard reason))

/-- A rule for goals that are computed from the push. -/
def computeGoals (key : RuleKey) (guard : Guard) (reason : Option String)
    (compute : Context → Probe Component) : Rule GoalSet :=
  .computed key guard reason fun ctx fallback => do
    let goals ← compute ctx
    return (goals.name?, goals.toGoalSet fallback)

end Rule

abbrev GoalRule := Rule GoalSet

end PushGoals
