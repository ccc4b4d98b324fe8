import PushGoals.Value

/-!
# Evaluation scopes

One scope accompanies one decision pass.  Tests and hooks keep values in it
under keys; rules that fail without ending the pass are listed in it; and its
policy says which of the two a failing rule does.
-/

namespace PushGoals

/-- What a rule set does when one of its rules fails. -/
inductive FailurePolicy where
  /-- The first failure ends the pass. -/
  | failFast
  /-- A failing rule is recorded and counts as not matching. -/
  | isolateAndReport
deriving DecidableEq, Repr, Inhabited

namespace FailurePolicy

def name : FailurePolicy → String
  | .failFast => "fail-fast"
  | .isolateAndReport => "isolate-and-report"

def ofName? (s : String) : Option FailurePolicy :=
  if s == "fail-fast" then some .failFast
  else if s == "isolate-and-report" then some .isolateAndReport
  else none

@[simp] theorem ofName?_name (p : FailurePolicy) : ofName? p.name = some p := by
  cases p <;> rfl

/-- Read a policy from its name, or say what is wrong with the name. -/
def parse (s : String) : Except String FailurePolicy :=
  match ofName? s with
  | some p => .ok p
  | none =>
      .error ("unknown failure policy '" ++ s ++ "' (expected fail-fast or isolate-and-report)")

end FailurePolicy

/-- A rule that failed without ending its pass, with the text of its error. -/
structure RuleFailure where
  rule : String
  reason : String
deriving DecidableEq, Repr, Inhabited

namespace RuleFailure

def toValue (f : RuleFailure) : Value :=
  .object [("rule", .string f.rule), ("reason", .string f.reason)]

/-- The failures with others recorded behind them, one by one. -/
def recordEach (failures : List RuleFailure) : List RuleFailure → List RuleFailure
  | [] => failures
  | f :: rest => recordEach (failures ++ [f]) rest

@[simp] theorem recordEach_eq (failures more : List RuleFailure) :
    recordEach failures more = failures ++ more := by
  induction more generalizing failures with
  | nil => simp [recordEach]
  | cons f rest ih => simp [recordEach, ih]

end RuleFailure

abbrev ScopeValues := List (String × Value)

namespace ScopeValues

def get? (values : ScopeValues) (key : String) : Option Value := Value.field? key values

/-- The values with `v` under `key`, in place of what was there. -/
def set (values : ScopeValues) (key : String) (v : Value) : ScopeValues :=
  match values with
  | [] => [(key, v)]
  | (k, w) :: rest => if k == key then (k, v) :: rest else (k, w) :: set rest key v

/-- The integer that follows the one under `key`, in 64 bits with a sign.  A
missing value and one that is no such integer count as 0. -/
def successor (values : ScopeValues) (key : String) : Int :=
  Int.bmod (((get? values key).bind Value.signed?).getD 0 + 1) integerCount

/-- Store the next integer under `key`. -/
def increment (values : ScopeValues) (key : String) : ScopeValues :=
  set values key (.ofInt (successor values key))

@[simp] theorem get?_set_self (values : ScopeValues) (key : String) (v : Value) :
    get? (set values key v) key = some v := by
  induction values with
  | nil => simp [set, get?, Value.field?]
  | cons entry rest ih =>
      simp only [get?] at ih
      by_cases h : entry.1 = key
      · simp [set, get?, Value.field?, h]
      · simp [set, get?, Value.field?, h, ih]

theorem get?_set_of_ne {key other : String} (h : other ≠ key) (values : ScopeValues) (v : Value) :
    get? (set values key v) other = get? values other := by
  induction values with
  | nil => simp [set, get?, Value.field?, Ne.symm h]
  | cons entry rest ih =>
      simp only [get?] at ih
      by_cases hk : entry.1 = key
      · simp [set, get?, Value.field?, hk, Ne.symm h]
      · by_cases ho : entry.1 = other
        · simp [set, get?, Value.field?, ho, h]
        · simp [set, get?, Value.field?, hk, ho, ih]

end ScopeValues

structure Scope where
  policy : FailurePolicy := .failFast
  values : ScopeValues := []
  failures : List RuleFailure := []
deriving Inhabited

namespace Scope

def recordFailure (scope : Scope) (rule reason : String) : Scope :=
  { scope with failures := scope.failures ++ [⟨rule, reason⟩] }

end Scope

end PushGoals
