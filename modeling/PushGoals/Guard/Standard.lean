import PushGoals.Guard.Basic
import PushGoals.Regex.Parser

/-!
# Standard push tests

The tests that rules are usually made of.  Those that look only at what is known
of the push are cheap; those that read the project are expensive.
-/

namespace PushGoals.PushTest

/-- Every push, without reading anything. -/
def onAnyPush : PushTest where
  name := "onAnyPush"
  cost := .cheap
  run _ := pure true

def toDefaultBranch : PushTest where
  name := "toDefaultBranch"
  cost := .cheap
  run ctx := Probe.ofExcept ctx.isDefaultBranch?

def toBranch (branch : String) : PushTest where
  name := "toBranch(" ++ branch ++ ")"
  cost := .cheap
  run ctx := do
    let actual ← Probe.ofExcept ctx.branch?
    return actual == branch

def toBranchMatching (pattern : Regex) : PushTest where
  name := "toBranchMatching(" ++ pattern.source ++ ")"
  cost := .cheap
  run ctx := do
    let branch ← Probe.ofExcept ctx.branch?
    return pattern.matchesIn branch

def isRepo (owner name : String) : PushTest where
  name := "isRepo(" ++ owner ++ "/" ++ name ++ ")"
  cost := .cheap
  run ctx := do
    let repo ← Probe.ofExcept ctx.repo?
    return repo.owner == owner && repo.name == name

def hasCommitMessageMatching (pattern : Regex) : PushTest where
  name := "hasCommitMessageMatching(" ++ pattern.source ++ ")"
  cost := .cheap
  run ctx := do
    let commits ← Probe.ofExcept ctx.commits?
    return commits.any (fun c => pattern.matchesIn c.message)

def hasFile (path : String) : PushTest :=
  .ofProject ("hasFile(" ++ path ++ ")") .expensive fun project => project.lookFor path

/-- The file is there and its content matches. -/
def hasFileContaining (path : String) (pattern : Regex) : PushTest :=
  .ofProject ("hasFileContaining(" ++ path ++ ", " ++ pattern.source ++ ")") .expensive
    fun project => do
      let content ← project.open? path
      return content.any pattern.matchesIn

/-- Does the path end in a point and the extension?  Leading points of the
extension do not count. -/
def hasExtension (path ext : String) : Bool :=
  ('.' :: ext.toList.dropWhile (· == '.')).isSuffixOf path.toList

/-- Some file with one of the extensions was changed; on a branch that is new,
everything was. -/
def isMaterialChange (extensions : List String) : PushTest where
  name := "isMaterialChange(" ++ ",".intercalate extensions ++ ")"
  cost := .expensive
  run ctx := do
    let push ← Probe.ofExcept ctx.push?
    match push.beforeSha with
    | none => return true
    | some sha =>
        let project ← Probe.ofExcept ctx.project?
        let changed ← project.changesSince sha
        return changed.any fun path => extensions.any (hasExtension path)

end PushGoals.PushTest
