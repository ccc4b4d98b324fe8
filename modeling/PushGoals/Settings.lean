import PushGoals.Decode
import PushGoals.Scope
import PushGoals.Cache
import PushGoals.Event
import PushGoals.Error
import PushGoals.Text.Blank

/-!
# Settings

How an engine is set up: the size of its cache, its failure policy and how it
logs.  Every setting has a default; two of them can be overridden from the
environment.
-/

namespace PushGoals

structure Settings where
  cacheCapacity : Nat := PushTestCache.defaultCapacity
  failurePolicy : FailurePolicy := .failFast
  logJson : Bool := false
  logLevel : String := "info"
deriving DecidableEq, Repr, Inhabited

namespace Settings

def toValue (s : Settings) : Value :=
  .object
    [("cache_capacity", .ofNat s.cacheCapacity),
     ("failure_policy", .string s.failurePolicy.name), ("log_json", .bool s.logJson),
     ("log_level", .string s.logLevel)]

def ofValue (format : Format) (v : Value) : Option Settings := do
  let shape : Decode.Shape :=
    ⟨["cache_capacity", "failure_policy", "log_json", "log_level"], false⟩
  let fields ← shape.fields? format v
  let cacheCapacity ←
    Decode.fallback fields "cache_capacity" PushTestCache.defaultCapacity Decode.natural
  let failurePolicy ←
    Decode.fallback fields "failure_policy" .failFast
      (Decode.constant format FailurePolicy.ofName?)
  let logJson ← Decode.fallback fields "log_json" false Decode.flag
  let logLevel ← Decode.fallback fields "log_level" "info" Decode.text
  some { cacheCapacity, failurePolicy, logJson, logLevel }

def cacheCapacityVariable : String := "SDM_CACHE_CAPACITY"

def failurePolicyVariable : String := "SDM_FAILURE_POLICY"

/-- A whole number up to `2^64 - 1` in decimal digits, after an optional plus
sign. -/
def natural? (s : String) : Option Nat :=
  let digits :=
    match s.toList with
    | '+' :: rest => rest
    | cs => cs
  if digits.isEmpty || !digits.all Char.isDigit then none
  else
    let n : Nat := digits.foldl (fun n d => n * 10 + (d.toNat - '0'.toNat)) 0
    if (n : Int) ≤ maxUnsigned then some n else none

/-- Override from the environment; blanks around a value do not count.  The cache
capacity is looked at first. -/
def override (s : Settings) (environment : List (String × String)) : Except GoalError Settings := do
  let s ←
    match environment.lookup cacheCapacityVariable with
    | none => pure s
    | some raw =>
        match natural? (Text.trim raw) with
        | some n => pure { s with cacheCapacity := n }
        | none =>
            throw (.config (cacheCapacityVariable ++ " must be a number, got '" ++ raw ++ "'"))
  match environment.lookup failurePolicyVariable with
  | none => pure s
  | some raw =>
      match FailurePolicy.parse (Text.trim raw) with
      | .ok policy => pure { s with failurePolicy := policy }
      | .error reason => throw (.config (failurePolicyVariable ++ ": " ++ reason))

/-- The level of a name in letters of either case, or of a number from 1 for the
gravest to 5. -/
def levelOfName? (s : String) : Option Level :=
  match Level.all.find? (fun l => l.name.toLower == s.toLower) with
  | some l => some l
  | none =>
      match natural? s with
      | some (n + 1) => Level.all[n]?
      | _ => none

def level (s : Settings) : Except GoalError Level :=
  match levelOfName? s.logLevel with
  | some l => .ok l
  | none => .error (.config ("unknown log level '" ++ s.logLevel ++ "'"))

end Settings

end PushGoals
