import PushGoals.Goal.Set
import PushGoals.Text.Blank

/-!
# Goal graphs

A goal set as a Graphviz digraph: a line for each goal in set order, then a line
for each declared precondition, from the precondition to the goal.  A node is
identified by environment and unique name, with the characters that Graphviz
identifiers cannot carry replaced.
-/

namespace PushGoals.Graph

/-- Hyphens, points and blanks cannot stand in an identifier. -/
def sanitizeChar (c : Char) : Char :=
  if c == '-' || c == '.' || Text.isBlank c then '_' else c

def sanitize (s : String) : String := String.ofList (s.toList.map sanitizeChar)

def nodeId (goal : Goal) : String := sanitize (goal.environment ++ "_" ++ goal.uniqueName)

/-- Backslashes and quotes are escaped inside a label. -/
def escapeLabelChar (c : Char) : List Char :=
  if c == '\\' then ['\\', '\\'] else if c == '"' then ['\\', '"'] else [c]

def escapeLabel (s : String) : String := String.ofList (s.toList.flatMap escapeLabelChar)

def attributes : List String :=
  ["fontname=\"Arial\";", "splines=\"polyline\";", "rankdir=\"LR\";",
   "edge [arrowhead=\"vee\"];", "node [shape=box, fontname=\"Arial\", style=\"rounded\"];"]

def nodeLine (goal : Goal) : String :=
  nodeId goal ++ " [label=\"" ++ escapeLabel goal.label ++ "\"]"

def edgeLines (goal : Goal) : List String :=
  goal.dependsOn.map (fun d => nodeId d ++ " -> " ++ nodeId goal)

/-- The lines of nodes, then the lines of edges. -/
def lines (set : GoalSet) : List String :=
  set.goals.map nodeLine ++ set.goals.flatMap edgeLines

def render (set : GoalSet) : String :=
  let indented := "\n    ".intercalate
  "digraph " ++ sanitize set.name ++ " \x7b\n    " ++ indented attributes ++ "\n" ++
    (if (lines set).isEmpty then "" else "\n    " ++ indented (lines set) ++ "\n") ++
    "\x7d"

end PushGoals.Graph
