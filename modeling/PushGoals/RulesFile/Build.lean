import PushGoals.RulesFile.Basic
import PushGoals.Toml.Reader
import PushGoals.Guard.Standard
import PushGoals.Decision

/-!
# Building rules files

A rules file becomes one rule that holds all its rules.  Goals are defined in the
order of the file and may depend only on goals before them, so that no goal
depends on itself.  A file that cannot be built is refused with the first thing
that is wrong with it, goals before rules.
-/

namespace PushGoals

inductive RulesError where
  /-- The text is no TOML, or no rules file. -/
  | malformed
  | duplicateGoal (goal : String)
  | undefinedPrecondition (goal precondition : String)
  | invalidPattern (rule pattern : String)
  | haltWithGoals (rule : String)
  | undefinedGoal (rule goal : String)
deriving DecidableEq, Repr

/-- The messages of an error, the widest first. -/
def RulesError.messages : RulesError → List String
  | .malformed => ["invalid rules file"]
  | .duplicateGoal goal => ["goal '" ++ goal ++ "' is defined twice"]
  | .undefinedPrecondition goal precondition =>
      ["goal '" ++ goal ++ "' depends on '" ++ precondition ++
        "', which is not defined before it"]
  | .invalidPattern rule pattern =>
      ["in rule '" ++ rule ++ "'", "invalid pattern '" ++ pattern ++ "'"]
  | .haltWithGoals rule => ["rule '" ++ rule ++ "' halts, so it cannot set or lock goals"]
  | .undefinedGoal rule goal =>
      ["rule '" ++ rule ++ "' uses undefined goal '" ++ goal ++ "'"]

namespace TestSpec

/-- A regular expression, or the text that is none. -/
def regex (pattern : String) : Except String Regex :=
  match Regex.compile? pattern with
  | some r => .ok r
  | none => .error pattern

mutual

/-- The test that a specification describes, or the first pattern in it that is no
regular expression. -/
def build : TestSpec → Except String Guard
  | .onAnyPush => .ok (.test .onAnyPush)
  | .toDefaultBranch => .ok (.test .toDefaultBranch)
  | .toBranch branch => .ok (.test (.toBranch branch))
  | .toBranchMatching pattern => do
      let r ← regex pattern
      return .test (.toBranchMatching r)
  | .isRepo owner name => .ok (.test (.isRepo owner name))
  | .hasFile path => .ok (.test (.hasFile path))
  | .hasFileContaining path pattern => do
      let r ← regex pattern
      return .test (.hasFileContaining path r)
  | .hasCommitMessageMatching pattern => do
      let r ← regex pattern
      return .test (.hasCommitMessageMatching r)
  | .isMaterialChange extensions => .ok (.test (.isMaterialChange extensions))
  | .negation inner => do
      let g ← build inner
      return .negation g
  | .any tests => do
      let gs ← buildAll tests
      return .anyOf gs

def buildAll : List TestSpec → Except String (List Guard)
  | [] => .ok []
  | t :: rest => do
      let g ← build t
      let gs ← buildAll rest
      return g :: gs

end

end TestSpec

/-- The goal of a declaration with its preconditions in full. -/
def GoalSpec.toGoal (spec : GoalSpec) (dependsOn : List Goal) : Goal :=
  { Goal.ofName spec.name with
    displayName := spec.displayName
    environment := spec.environment.getD codeEnvironment
    approvalRequired := spec.approvalRequired
    preApprovalRequired := spec.preApprovalRequired
    retryFeasible := spec.retryFeasible
    dependsOn }

namespace RulesFile

def findGoal (goals : List Goal) (name : String) : Option Goal :=
  goals.find? (·.uniqueName == name)

/-- Names as goals, or the first name without a goal. -/
def resolve (goals : List Goal) : List String → Except String (List Goal)
  | [] => .ok []
  | name :: rest =>
      match findGoal goals name with
      | none => .error name
      | some g => do
          let gs ← resolve goals rest
          return g :: gs

/-- Define goals one by one behind those in `defined`. -/
def defineGoals (defined : List Goal) : List GoalSpec → Except RulesError (List Goal)
  | [] => .ok defined
  | spec :: rest =>
      if (findGoal defined spec.name).isSome then .error (.duplicateGoal spec.name)
      else
        match resolve defined spec.dependsOn with
        | .error missing => .error (.undefinedPrecondition spec.name missing)
        | .ok dependsOn => defineGoals (defined ++ [spec.toGoal dependsOn]) rest

/-- All goals of the file, in its order. -/
def goalDefinitions (file : RulesFile) : Except RulesError (List Goal) :=
  defineGoals [] file.goals

def buildRule (goals : List Goal) (spec : RuleSpec) : Except RulesError GoalRule :=
  match TestSpec.buildAll spec.tests with
  | .error pattern => .error (.invalidPattern spec.name pattern)
  | .ok tests =>
      let guard := Guard.allOf tests
      if spec.halt then
        if !spec.goals.isEmpty || spec.lock then .error (.haltWithGoals spec.name)
        else .ok (.halting guard (some spec.name))
      else
        match resolve goals spec.goals with
        | .error missing => .error (.undefinedGoal spec.name missing)
        | .ok gs =>
            .ok (.setGoals guard (some spec.name)
              (.set { name := spec.name, goals := gs, locked := spec.lock }))

def buildRules (goals : List Goal) : List RuleSpec → Except RulesError (List GoalRule)
  | [] => .ok []
  | spec :: rest => do
      let rule ← buildRule goals spec
      let rules ← buildRules goals rest
      return rule :: rules

/-- The rules of the file as one rule. -/
def buildChain (file : RulesFile) : Except RulesError GoalRule := do
  let goals ← file.goalDefinitions
  let rules ← buildRules goals file.rules
  return match file.composition with
    | .firstMatch => .firstMatch "rules" rules
    | .additive => .allMatches "rules" rules

def toDecider (file : RulesFile) (settings : Settings) : Except RulesError Decider := do
  let chain ← file.buildChain
  return { chains := [chain], settings }

def ofToml (text : String) : Except RulesError RulesFile :=
  match (Toml.parse text).bind (RulesFile.ofValue .toml) with
  | some file => .ok file
  | none => .error .malformed

end RulesFile

def Settings.ofToml? (text : String) : Option Settings :=
  (Toml.parse text).bind (Settings.ofValue .toml)

end PushGoals
