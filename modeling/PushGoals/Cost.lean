/-!
# Costs of tests

The author of a test declares what it costs; nothing is measured.  Expensive
tests are worth remembering per push, the others are simply run again.
-/

namespace PushGoals

/-- What a test costs, as its author declares; ordered from cheap to expensive. -/
inductive Cost where
  /-- Looks only at what is known of the push. -/
  | cheap
  | unknown
  /-- Reads the content of the project. -/
  | expensive
deriving DecidableEq, Repr, Inhabited

namespace Cost

def name : Cost → String
  | .cheap => "cheap"
  | .unknown => "unknown"
  | .expensive => "expensive"

def title : Cost → String
  | .cheap => "Cheap"
  | .unknown => "Unknown"
  | .expensive => "Expensive"

def ofName? (s : String) : Option Cost :=
  [Cost.cheap, .unknown, .expensive].find? (·.name == s)

@[simp] theorem ofName?_name (c : Cost) : ofName? c.name = some c := by
  cases c <;> decide

def max : Cost → Cost → Cost
  | .expensive, _ => .expensive
  | _, .expensive => .expensive
  | .unknown, _ => .unknown
  | _, .unknown => .unknown
  | .cheap, .cheap => .cheap

end Cost

end PushGoals
