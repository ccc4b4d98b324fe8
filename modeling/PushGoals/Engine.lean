import PushGoals.Probe
import PushGoals.Cache
import PushGoals.Event

/-!
# The state behind evaluations

`Engine` outlives the passes: the caches of test results, the names that rules
have learned from goals they computed, the counters, the log and the journal.
A `Pass` is an engine with the scope of one decision pass.  `Eval` is a step of
a pass: it may fail, and what it did before it failed stays done.  A `Work` is a
step that cannot fail.
-/

namespace PushGoals

/-- Recognises a rule that computes its goals; the occurrences of one rule in a
graph share it. -/
abbrev RuleKey := Nat

/-- The names that rules have taken from the goal sets they computed. -/
abbrev LearnedNames := List (RuleKey × String)

namespace LearnedNames

def get? (names : LearnedNames) (key : RuleKey) : Option String := names.lookup key

def set (names : LearnedNames) (key : RuleKey) (name : String) : LearnedNames :=
  (key, name) :: names.filter (·.1 != key)

end LearnedNames

structure Engine where
  caches : Caches := {}
  learned : LearnedNames := []
  metrics : Metrics := {}
  /-- Oldest first. -/
  events : List Event := []
  journal : Journal := {}
deriving Inhabited

namespace Engine

def emit (engine : Engine) (e : Event) : Engine := { engine with events := engine.events ++ [e] }

def count (engine : Engine) (c : Counter) : Engine :=
  { engine with metrics := engine.metrics.increment c }

end Engine

structure Pass where
  engine : Engine
  scope : Scope
deriving Inhabited

namespace Pass

def emit (p : Pass) (e : Event) : Pass := { p with engine := p.engine.emit e }

def count (p : Pass) (c : Counter) : Pass := { p with engine := p.engine.count c }

/-- What a piece of work in the pass starts from. -/
def scratch (p : Pass) : Scratch where
  values := p.scope.values
  journal := p.engine.journal
  policy := p.scope.policy
  earlier := p.scope.failures

/-- The pass with what a piece of work has left: its values, its journal and the
failures that it recorded. -/
def withScratch (p : Pass) (s : Scratch) : Pass where
  engine := { p.engine with journal := s.journal }
  scope :=
    { p.scope with
      values := s.values
      failures := RuleFailure.recordEach p.scope.failures s.recorded }

@[simp] theorem failures_withScratch (p : Pass) (s : Scratch) :
    (p.withScratch s).scope.failures = p.scope.failures ++ s.recorded :=
  RuleFailure.recordEach_eq p.scope.failures s.recorded

end Pass

/-- A step of a pass that cannot fail. -/
abbrev Work (α : Type) := StateM Pass α

/-- A step of a pass. -/
abbrev Eval (α : Type) := ExceptT GoalError (StateM Pass) α

namespace Eval

/-- A step as one that never fails, its failure an answer. -/
def attempt {α : Type} (step : Eval α) : Eval (Except GoalError α) :=
  ExceptT.mk (Except.ok <$> step.run)

def ofExcept {α : Type} (answer : Except GoalError α) : Eval α := ExceptT.mk (pure answer)

/-- Run a probe on the pass. -/
def ofProbe {α : Type} (probe : Probe α) : Eval α :=
  ExceptT.mk fun p =>
    let (answer, scratch) := probe.run p.scratch
    (answer, p.withScratch scratch)

/-! In a pass, work on the scratch is work on the scope. -/

@[simp] theorem run_policy (p : Pass) :
    (ofProbe Probe.policy).run.run p = (.ok p.scope.policy, p) := rfl

@[simp] theorem run_failures (p : Pass) :
    (ofProbe Probe.failures).run.run p = (.ok p.scope.failures, p) := by
  change (Except.ok (p.scope.failures ++ []), p) = (Except.ok p.scope.failures, p)
  rw [List.append_nil]

@[simp] theorem run_recordFailure (rule reason : String) (p : Pass) :
    (ofProbe (Probe.recordFailure rule reason)).run.run p =
      (.ok (), { p with scope := p.scope.recordFailure rule reason }) := rfl

/-- The answers, or the first error among them. -/
def collect {α : Type} : List (Except GoalError α) → Except GoalError (List α)
  | [] => .ok []
  | .error e :: _ => .error e
  | .ok a :: rest => (collect rest).map (a :: ·)

theorem collect_eq_ok_iff {α : Type} {answers : List (Except GoalError α)} {values : List α} :
    collect answers = .ok values ↔ answers = values.map .ok := by
  induction answers generalizing values with
  | nil => cases values <;> simp [collect]
  | cons answer rest ih =>
      cases answer with
      | error e => cases values <;> simp [collect]
      | ok a =>
          cases h : collect rest with
          | error e =>
              have hfail (vs : List α) : rest ≠ vs.map .ok := fun hvs => by
                have hok := ih.2 hvs
                simp [h] at hok
              cases values <;> simp [collect, h, Except.map, hfail]
          | ok vs =>
              have hrest := ih.1 h
              subst hrest
              have hinj (xs : List α) : vs = xs ↔
                  vs.map (@Except.ok GoalError α) = xs.map .ok :=
                (List.map_inj_right fun _ _ hab => Except.ok.inj hab).symm
              cases values with
              | nil => simp [collect, h, Except.map]
              | cons v values => simp [collect, h, Except.map, hinj]

/-- Every step in order, each whatever became of those before it. -/
def settle {α : Type} : List (Eval α) → Work (List (Except GoalError α))
  | [] => pure []
  | step :: rest => do
      let answer ← step.run
      let answers ← settle rest
      return answer :: answers

/-- Every step in order; then all answers, or the error of the first step that
failed. -/
def allSettled {α : Type} (steps : List (Eval α)) : Eval (List α) := do
  let answers ← settle steps
  ofExcept (collect answers)

end Eval

end PushGoals
