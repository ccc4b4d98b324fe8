import PushGoals.CommandLine.Execution

/-!
# The command

The files that a command may look at are read before it is run: those it names,
and those its rules look up in the project.
-/

namespace PushGoals.CommandLine

/-- The number of an error of the system, which is also given as its negative. -/
def errorNumber (code : UInt32) : UInt32 := if code < 0x80000000 then code else 0 - code

/-- The trouble behind an error of the system. -/
def fileErrorOf : IO.Error → FileError
  | .noFileOrDirectory .. => .notFound
  | .inappropriateType _ code details =>
      if errorNumber code = 21 then .isADirectory
      else if errorNumber code = 20 then .notADirectory
      else .other details
  | .invalidArgument _ code details =>
      if errorNumber code = 36 then .nameTooLong else .other details
  | e => .other (toString e)

/-- What stands at a path of the disk. -/
def lookOnDisk (path : String) : IO (Except FileError FileEntry) := do
  try
    let content ← IO.FS.readFile path
    return .ok (.file content)
  catch e =>
    match fileErrorOf e with
    | .isADirectory => return .ok .directory
    | trouble => return .error trouble

/-- The files at some paths.  Other commands are not run. -/
def snapshot (paths : List String) : IO Files := do
  let entries ← paths.mapM fun path => do return (path, ← lookOnDisk path)
  return {
    look := fun path => (entries.lookup path).getD (.error .notFound)
    diff := fun _ _ => .error (.other "git is not run") }

/-- The paths of the project that an invocation may look up. -/
def projectPaths (files : Files) (invocation : Invocation) : List String :=
  match invocation.project, files.read invocation.rules with
  | some root, .ok text =>
      match RulesFile.ofToml text with
      | .ok rules => (rules.paths.filter Path.staysBelow).map (Path.join root)
      | .error _ => []
  | _, _ => []

def environmentOf (names : List String) : IO (List (String × String)) := do
  let values ← names.mapM fun name => do return (← IO.getEnv name).map (name, ·)
  return values.filterMap id

def runOnDisk (environment : List (String × String)) (invocation : Invocation) : IO Report := do
  let named := invocation.config.toList ++ [invocation.rules, invocation.push]
  let files ← snapshot named
  let all ← snapshot (named ++ projectPaths files invocation)
  return runInvocation all environment invocation

end PushGoals.CommandLine

open PushGoals.CommandLine in
def main (arguments : List String) : IO UInt32 := do
  let environment ←
    environmentOf
      [configVariable, PushGoals.Settings.cacheCapacityVariable,
       PushGoals.Settings.failurePolicyVariable]
  let report ←
    match parse environment arguments with
    | .error stop => pure (Report.ofStop stop)
    | .ok invocation => runOnDisk environment invocation
  IO.print report.stdout
  unless report.errors.isEmpty do
    IO.eprintln ("Error: " ++ "\n  caused by: ".intercalate report.errors)
  return UInt32.ofNat report.exitCode
