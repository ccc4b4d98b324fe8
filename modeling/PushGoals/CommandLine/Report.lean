import PushGoals.CommandLine.Arguments
import PushGoals.Decision

/-!
# What a command answers

A report is what is printed, what went wrong, the widest message first, and the
exit code: 0 after success, 1 after a failure and 2 for a command line that could
not be read.
-/

namespace PushGoals.CommandLine

def programName : String := "sdm"

def version : String := "0.3.1"

structure Report where
  exitCode : Nat
  stdout : String := ""
  errors : List String := []
deriving DecidableEq, Repr

namespace Report

/-- Success, with a text and the end of its last line. -/
def printed (text : String) : Report := { exitCode := 0, stdout := text ++ "\n" }

def failed (errors : List String) : Report := { exitCode := 1, errors }

def usage : String :=
  "\n".intercalate
    ["Usage: sdm [OPTIONS] COMMAND",
     "",
     "Commands:",
     "  goals     -r RULES -p PUSH [--project DIR]  decide the goals of a push",
     "  predict   -r RULES -p PUSH                  predict goals from what is known of a push",
     "  graph     -r RULES -p PUSH [--project DIR]  render the goals as a Graphviz digraph",
     "  describe  -r RULES                          show how the rules are made",
     "",
     "Options:",
     "  -v, --verbose  --json  --config FILE  -h, --help  -V, --version"]

def ofStop : Stop → Report
  | .misuse => { exitCode := 2 }
  | .help => printed usage
  | .version => printed (programName ++ " " ++ version)

def ofExcept : Except (List String) String → Report
  | .ok text => printed text
  | .error errors => failed errors

end Report

/-! ## Decisions as text -/

/-- The line of a goal: what is going on, where, and what it waits for. -/
def goalLine (goal : Goal) : String :=
  "  " ++ goal.describe .working ++ " [" ++ goal.environment ++ "]" ++
    (if goal.approvalRequired then " approval required" else "") ++
    (if goal.hasPreconditions then
      " after " ++ ", ".intercalate (goal.dependsOn.map (·.uniqueName))
    else "")

def failureLine (failure : RuleFailure) : String :=
  "  ! rule '" ++ failure.rule ++ "' failed: " ++ failure.reason

/-- A decision line by line.  Where no goals were set, nothing else is said. -/
def decisionText (decision : Decision) : String :=
  match decision.goals with
  | none => "No goals"
  | some set =>
      "\n".intercalate
        (("Goals: " ++ set.name ++ (if set.locked then " (locked)" else "")) ::
          (set.goals.map goalLine ++ decision.failures.map failureLine))

end PushGoals.CommandLine
