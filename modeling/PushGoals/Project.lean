import PushGoals.Error

/-!
# Projects

The files of the repository that a push landed on.  Rules only look things up
in a project; where the files are is up to the one who supplies it.  Every
look-up may fail.
-/

namespace PushGoals

structure Project where
  /-- Is there a file at this path from the project's root? -/
  hasFile : String → Except GoalError Bool
  /-- The content of the file at this path, if there is one. -/
  readFile : String → Except GoalError (Option String)
  /-- The paths that changed between this commit and the pushed head. -/
  changedFilesSince : String → Except GoalError (List String)

namespace Project

/-- A project held in memory: contents by path, and the paths that are reported
as changed whatever commit is asked for. -/
def inMemory (files : List (String × String)) (changed : List String) : Project where
  hasFile path := .ok (files.any (·.1 == path))
  readFile path := .ok (files.lookup path)
  changedFilesSince _ := .ok changed

end Project

end PushGoals
