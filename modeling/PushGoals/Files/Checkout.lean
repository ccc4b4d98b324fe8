import PushGoals.Files.Basic
import PushGoals.Project
import PushGoals.Text.Blank

/-!
# Checked-out projects

A project whose files stand in a directory.  Paths are refused when they could
lead out of that directory; a file that is not there is an answer, and any other
trouble with the files is an error.  Which files changed is asked of git.
-/

namespace PushGoals.Files

/-- The path from the directory `root`, unless it leads out of it. -/
def resolve (root path : String) : Except GoalError String :=
  if Path.staysBelow path then .ok (Path.join root path)
  else .error (.project ("path '" ++ path ++ "' is not relative to the project root"))

/-- The changes since the commit `sha`, as git lists them, or what went wrong. -/
def changes (sha : String) : Except FileError CommandOutput → Except GoalError (List String)
  | .ok r =>
      if r.succeeded then .ok ((Text.lines r.output).filter (!·.isEmpty))
      else .error (.project ("git diff against " ++ sha ++ " failed: " ++ Text.trim r.errors))
  | .error e => .error (.io e.message)

/-- The project checked out in the directory `root`. -/
def project (files : Files) (root : String) : Project where
  hasFile path := do
    let full ← resolve root path
    match files.look full with
    | .ok (.file _) => .ok true
    | .ok .directory => .ok false
    | .error .notFound => .ok false
    | .error e => .error (.io e.message)
  readFile path := do
    let full ← resolve root path
    match files.read full with
    | .ok content => .ok (some content)
    | .error .notFound => .ok none
    | .error e => .error (.io e.message)
  changedFilesSince sha := changes sha (files.diff root sha)

end PushGoals.Files
