/-!
# Counters

How often each of five things has happened since the counters were started, in 64 bits:
a counter that is full begins again.
-/

namespace PushGoals

inductive Counter where
  | decisions
  | predictions
  | cacheHits
  | cacheMisses
  | ruleFailures
deriving DecidableEq, Repr

/-- All counters in the order in which they are reported. -/
def Counter.all : List Counter :=
  [.decisions, .predictions, .cacheHits, .cacheMisses, .ruleFailures]

def Counter.name : Counter → String
  | .decisions => "decisions"
  | .predictions => "predictions"
  | .cacheHits => "cache_hits"
  | .cacheMisses => "cache_misses"
  | .ruleFailures => "rule_failures"

def Counter.ofName? (s : String) : Option Counter := Counter.all.find? (·.name == s)

@[simp] theorem Counter.ofName?_name (c : Counter) : Counter.ofName? c.name = some c := by
  cases c <;> decide

structure Metrics where
  decisions : UInt64 := 0
  predictions : UInt64 := 0
  cacheHits : UInt64 := 0
  cacheMisses : UInt64 := 0
  ruleFailures : UInt64 := 0
deriving DecidableEq, Repr, Inhabited

namespace Metrics

def count (m : Metrics) : Counter → Nat
  | .decisions => m.decisions.toNat
  | .predictions => m.predictions.toNat
  | .cacheHits => m.cacheHits.toNat
  | .cacheMisses => m.cacheMisses.toNat
  | .ruleFailures => m.ruleFailures.toNat

def increment (m : Metrics) : Counter → Metrics
  | .decisions => { m with decisions := m.decisions + 1 }
  | .predictions => { m with predictions := m.predictions + 1 }
  | .cacheHits => { m with cacheHits := m.cacheHits + 1 }
  | .cacheMisses => { m with cacheMisses := m.cacheMisses + 1 }
  | .ruleFailures => { m with ruleFailures := m.ruleFailures + 1 }

end Metrics

end PushGoals
