import PushGoals.Probe
import PushGoals.Cost
import PushGoals.Outcome
import PushGoals.Cache

/-!
# Guards

A guard is a boolean formula over push tests.  `Guard.allOf` and `Guard.anyOf`
build it from parts and have the expensive ones among them remembered, so that
within one push an expensive test runs once; tests of other costs are run again,
since what they answer may depend on the scope.

The name of a guard is made from the names of its tests.  It is what a
remembered result is filed under.
-/

namespace PushGoals

inductive Style where
  | and
  | or
  | not
  /-- The first rule that matches wins. -/
  | firstMatch
  /-- Every rule is evaluated and the results are merged. -/
  | allMatches
  /-- A second rule adds to the result of the first, unless that is locked. -/
  | enrich
deriving DecidableEq, Repr

namespace Style

def name : Style → String
  | .and => "and"
  | .or => "or"
  | .not => "not"
  | .firstMatch => "first_match"
  | .allMatches => "all_matches"
  | .enrich => "enrich"

def all : List Style := [.and, .or, .not, .firstMatch, .allMatches, .enrich]

def ofName? (s : String) : Option Style := all.find? (·.name == s)

@[simp] theorem ofName?_name (s : Style) : ofName? s.name = some s := by
  cases s <;> decide

end Style

structure Parts (α : Type) where
  style : Style
  components : List α

/-- A named question about a push. -/
structure PushTest where
  name : String
  cost : Cost
  run : Context → Probe Bool

namespace PushTest

def renamed (test : PushTest) (name : String) : PushTest := { test with name }

/-- A question about the project alone; it cannot be answered without one. -/
def ofProject (name : String) (cost : Cost) (run : Project → Probe Bool) : PushTest where
  name
  cost
  run ctx := do
    let project ← Probe.ofExcept ctx.project?
    run project

end PushTest

/-- Work on the scratch that cannot fail, done before a guard is evaluated. -/
abbrev Preparation := Scratch → Scratch

namespace Preparation

/-- The scratch behind the preparation, to which failures recorded before it are earlier
ones. -/
def run (preparation : Preparation) (s : Scratch) : Scratch :=
  let after := preparation { s with earlier := s.earlier ++ s.recorded, recorded := [] }
  { s with
    values := after.values
    journal := after.journal
    recorded := s.recorded ++ after.recorded }

/-- The scratch behind all preparations, in their order. -/
def runAll (preparations : List Preparation) (s : Scratch) : Scratch :=
  preparations.foldl (fun s preparation => preparation.run s) s

end Preparation

inductive Guard where
  | test (t : PushTest)
  /-- A test of the caller's own, which may also not apply or halt. -/
  | custom (name : String) (cost : Cost) (run : Context → Probe (Outcome Bool))
  | all (parts : List Guard)
  | any (parts : List Guard)
  | negation (inner : Guard)
  /-- Answers are remembered by push and name. -/
  | memo (cache : CacheRef) (inner : Guard)
  /-- Each preparation runs before the guard does. -/
  | prepared (preparations : List Preparation) (inner : Guard)
  /-- The answer is changed by a function. -/
  | mapped (f : Bool → Bool) (inner : Guard)

namespace Guard

mutual

def name : Guard → String
  | .test t => t.name
  | .custom name _ _ => name
  | .all parts => " && ".intercalate (names parts)
  | .any parts => " || ".intercalate (names parts)
  | .negation inner => "not (" ++ name inner ++ ")"
  | .memo _ inner => name inner
  | .prepared _ inner => name inner
  | .mapped _ inner => name inner

def names : List Guard → List String
  | [] => []
  | g :: rest => name g :: names rest

end

mutual

/-- A composite costs what its most expensive part costs. -/
def cost : Guard → Cost
  | .test t => t.cost
  | .custom _ cost _ => cost
  | .all parts => costOfAll parts
  | .any parts => costOfAll parts
  | .negation inner => cost inner
  | .memo _ inner => cost inner
  | .prepared _ inner => cost inner
  | .mapped _ inner => cost inner

def costOfAll : List Guard → Cost
  | [] => .cheap
  | g :: rest => (cost g).max (costOfAll rest)

end

/-- The parts of a formula.  Remembering and preparing leave them visible;
changing the answer hides them. -/
def parts? : Guard → Option (Parts Guard)
  | .all parts => some ⟨.and, parts⟩
  | .any parts => some ⟨.or, parts⟩
  | .negation inner => some ⟨.not, [inner]⟩
  | .memo _ inner => parts? inner
  | .prepared _ inner => parts? inner
  | .test _ | .custom .. | .mapped .. => none

/-- Have the answers of an expensive guard remembered in a cache. -/
def memoizeIn (cache : CacheRef) (guard : Guard) : Guard :=
  if guard.cost = .expensive then .memo cache guard else guard

/-- Have the answers of an expensive guard remembered in the shared cache. -/
def memoize (guard : Guard) : Guard := memoizeIn .shared guard

def allOf (tests : List Guard) : Guard := .all (tests.map memoize)

def anyOf (tests : List Guard) : Guard := .any (tests.map memoize)

/-- Run preparations first, if there are any. -/
def preparedBy (preparations : List Preparation) (guard : Guard) : Guard :=
  if preparations.isEmpty then guard else .prepared preparations guard

end Guard

end PushGoals
