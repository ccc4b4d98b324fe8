import PushGoals.Decode

/-!
# Rules files

A rules file declares goals and rules, in TOML or as a JSON value.  Files,
goals and rules are strict: a field that they do not declare is an error.  Push
tests are records with the kind of test under `test`; of them, other fields are
skipped.

A push test may also be written as an array that begins with the kind.  Inside
another test of a JSON document the kind may be given by its number in the list of
kinds.
-/

namespace PushGoals

/-- How the rules of a file are put together. -/
inductive Composition where
  /-- The first rule that matches sets the goals. -/
  | firstMatch
  /-- Every rule that matches contributes goals. -/
  | additive
deriving DecidableEq, Repr, Inhabited

def Composition.ofName? : String → Option Composition
  | "first-match" => some .firstMatch
  | "additive" => some .additive
  | _ => none

structure GoalSpec where
  name : String
  displayName : Option String := none
  environment : Option String := none
  dependsOn : List String := []
  approvalRequired : Bool := false
  preApprovalRequired : Bool := false
  retryFeasible : Bool := false
deriving DecidableEq, Repr, Inhabited

inductive TestSpec where
  | onAnyPush
  | toDefaultBranch
  | toBranch (branch : String)
  | toBranchMatching (pattern : String)
  | isRepo (owner name : String)
  | hasFile (path : String)
  | hasFileContaining (path pattern : String)
  | hasCommitMessageMatching (pattern : String)
  | isMaterialChange (extensions : List String)
  | negation (inner : TestSpec)
  | any (tests : List TestSpec)
deriving Repr, Inhabited

structure RuleSpec where
  name : String
  tests : List TestSpec := []
  goals : List String := []
  lock : Bool := false
  /-- Halt the rules, setting no goals. -/
  halt : Bool := false
deriving Repr, Inhabited

structure RulesFile where
  composition : Composition := .firstMatch
  goals : List GoalSpec := []
  rules : List RuleSpec := []
deriving Repr, Inhabited

def GoalSpec.ofValue (format : Format) (v : Value) : Option GoalSpec := do
  let shape : Decode.Shape :=
    { names :=
        ["name", "display_name", "environment", "depends_on", "approval_required",
         "pre_approval_required", "retry_feasible"]
      strict := true }
  let fields ← shape.fields? format v
  let name ← Decode.required fields "name" Decode.text
  let displayName ← Decode.optional fields "display_name" Decode.text
  let environment ← Decode.optional fields "environment" Decode.text
  let dependsOn ← Decode.fallback fields "depends_on" [] (Decode.list Decode.text)
  let approvalRequired ← Decode.fallback fields "approval_required" false Decode.flag
  let preApprovalRequired ← Decode.fallback fields "pre_approval_required" false Decode.flag
  let retryFeasible ← Decode.fallback fields "retry_feasible" false Decode.flag
  some
    { name, displayName, environment, dependsOn, approvalRequired, preApprovalRequired,
      retryFeasible }

inductive TestKind where
  | onAnyPush
  | toDefaultBranch
  | toBranch
  | toBranchMatching
  | isRepo
  | hasFile
  | hasFileContaining
  | hasCommitMessageMatching
  | isMaterialChange
  | negation
  | any
deriving DecidableEq, Repr

namespace TestKind

def all : List TestKind :=
  [.onAnyPush, .toDefaultBranch, .toBranch, .toBranchMatching, .isRepo, .hasFile,
   .hasFileContaining, .hasCommitMessageMatching, .isMaterialChange, .negation, .any]

def name : TestKind → String
  | .onAnyPush => "on_any_push"
  | .toDefaultBranch => "to_default_branch"
  | .toBranch => "to_branch"
  | .toBranchMatching => "to_branch_matching"
  | .isRepo => "is_repo"
  | .hasFile => "has_file"
  | .hasFileContaining => "has_file_containing"
  | .hasCommitMessageMatching => "has_commit_message_matching"
  | .isMaterialChange => "is_material_change"
  | .negation => "not"
  | .any => "any"

/-- The fields of a test of this kind, in order. -/
def fieldNames : TestKind → List String
  | .onAnyPush | .toDefaultBranch => []
  | .toBranch => ["branch"]
  | .toBranchMatching | .hasCommitMessageMatching => ["pattern"]
  | .isRepo => ["owner", "name"]
  | .hasFile => ["path"]
  | .hasFileContaining => ["path", "pattern"]
  | .isMaterialChange => ["extensions"]
  | .negation | .any => ["of"]

/-- The kind that a value names, or, where `numbered`, counts. -/
def ofValue (numbered : Bool) : Value → Option TestKind
  | .string s => all.find? (·.name == s)
  | .number (.int n) => if numbered && 0 ≤ n then all[n.toNat]? else none
  | _ => none

end TestKind

namespace TestSpec

/-- The kind of a written test and what is written besides. -/
def tagged? (numbered : Bool) : Value → Option (TestKind × Value)
  | .object fields =>
      if (fields.filter (·.1 == "test")).length > 1 then none
      else do
        let kind ← Decode.required fields "test" (TestKind.ofValue numbered)
        some (kind, .object (fields.filter (·.1 != "test")))
  | .array (tag :: rest) => (TestKind.ofValue numbered tag).map (·, .array rest)
  | _ => none

/-- Read a test from a value nested at most `depth` levels.  `inner` says that it
stands inside another test. -/
def ofValueWithin (format : Format) : Nat → Bool → Value → Option TestSpec
  | 0, _, _ => none
  | depth + 1, inner, v => do
      let (kind, body) ← tagged? (inner && format == .json) v
      match kind with
      | .onAnyPush => some .onAnyPush
      | .toDefaultBranch => some .toDefaultBranch
      | kind =>
          let shape : Decode.Shape := { names := kind.fieldNames }
          let fields ← shape.fields? .json body
          let text (key : String) := Decode.required fields key Decode.text
          match kind with
          | .onAnyPush => some .onAnyPush
          | .toDefaultBranch => some .toDefaultBranch
          | .toBranch => return .toBranch (← text "branch")
          | .toBranchMatching => return .toBranchMatching (← text "pattern")
          | .isRepo => return .isRepo (← text "owner") (← text "name")
          | .hasFile => return .hasFile (← text "path")
          | .hasFileContaining => return .hasFileContaining (← text "path") (← text "pattern")
          | .hasCommitMessageMatching => return .hasCommitMessageMatching (← text "pattern")
          | .isMaterialChange => do
              let extensions ← Decode.required fields "extensions" (Decode.list Decode.text)
              return .isMaterialChange extensions
          | .negation => do
              let test ← Decode.required fields "of" (ofValueWithin format depth true)
              return .negation test
          | .any => do
              let tests ←
                Decode.required fields "of" (Decode.list (ofValueWithin format depth true))
              return .any tests

def ofValue (format : Format) (v : Value) : Option TestSpec :=
  ofValueWithin format (v.depth + 1) false v

mutual

/-- The paths that a test looks up in the project. -/
def paths : TestSpec → List String
  | .hasFile path => [path]
  | .hasFileContaining path _ => [path]
  | .negation inner => paths inner
  | .any tests => pathsOfAll tests
  | _ => []

def pathsOfAll : List TestSpec → List String
  | [] => []
  | test :: rest => paths test ++ pathsOfAll rest

end

end TestSpec

def RuleSpec.ofValue (format : Format) (v : Value) : Option RuleSpec := do
  let shape : Decode.Shape := ⟨["name", "when", "goals", "lock", "halt"], true⟩
  let fields ← shape.fields? format v
  let name ← Decode.required fields "name" Decode.text
  let tests ← Decode.fallback fields "when" [] (Decode.list (TestSpec.ofValue format))
  let goals ← Decode.fallback fields "goals" [] (Decode.list Decode.text)
  let lock ← Decode.fallback fields "lock" false Decode.flag
  let halt ← Decode.fallback fields "halt" false Decode.flag
  some { name, tests, goals, lock, halt }

def RulesFile.ofValue (format : Format) (v : Value) : Option RulesFile := do
  let shape : Decode.Shape := ⟨["composition", "goal", "rule"], true⟩
  let fields ← shape.fields? format v
  let composition ←
    Decode.fallback fields "composition" .firstMatch
      (Decode.constant format Composition.ofName?)
  let goals ← Decode.fallback fields "goal" [] (Decode.list (GoalSpec.ofValue format))
  let rules ← Decode.fallback fields "rule" [] (Decode.list (RuleSpec.ofValue format))
  some { composition, goals, rules }

/-- The paths that the rules may look up in the project. -/
def RulesFile.paths (file : RulesFile) : List String :=
  file.rules.flatMap fun rule => TestSpec.pathsOfAll rule.tests

end PushGoals
