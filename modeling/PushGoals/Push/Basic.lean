import PushGoals.Decode

/-!
# Pushes

A push is a list of commits that lands on a branch of a repository.
`PartialPush` is a push known field by field; it is complete when repository,
branch and commits are known.  `PushId` is what a push is recognised by.
-/

namespace PushGoals

structure RepoRef where
  owner : String
  name : String
  defaultBranch : String := "main"
deriving DecidableEq, Repr, Inhabited

def RepoRef.slug (repo : RepoRef) : String := repo.owner ++ "/" ++ repo.name

structure Commit where
  sha : String
  message : String
deriving DecidableEq, Repr, Inhabited

structure Push where
  repo : RepoRef
  branch : String
  /-- Oldest first; the last one is the pushed head. -/
  commits : List Commit := []
  /-- The branch's head before the push, when the branch existed. -/
  beforeSha : Option String := none
deriving DecidableEq, Repr, Inhabited

namespace Push

def head? (push : Push) : Option Commit := push.commits.getLast?

def isDefaultBranch (push : Push) : Bool := push.branch == push.repo.defaultBranch

end Push

/-- A push of which any field may be unknown. -/
structure PartialPush where
  repo : Option RepoRef := none
  branch : Option String := none
  commits : Option (List Commit) := none
  beforeSha : Option String := none
deriving DecidableEq, Repr, Inhabited

namespace PartialPush

/-- Is nothing known?  The head before the push does not count. -/
def isEmpty (p : PartialPush) : Bool := p.repo.isNone && p.branch.isNone && p.commits.isNone

/-- The push, when repository, branch and commits are known. -/
def complete? (p : PartialPush) : Option Push := do
  let repo ← p.repo
  let branch ← p.branch
  let commits ← p.commits
  some { repo, branch, commits, beforeSha := p.beforeSha }

end PartialPush

def Push.toPartial (push : Push) : PartialPush where
  repo := some push.repo
  branch := some push.branch
  commits := some push.commits
  beforeSha := push.beforeSha

@[simp] theorem Push.complete?_toPartial (push : Push) :
    push.toPartial.complete? = some push := rfl

/-- The stable identity of a push: its repository, its branch and its head. -/
structure PushId where
  owner : String
  repo : String
  branch : String
  sha : String
deriving DecidableEq, Repr, Inhabited

namespace PushId

/-- A push without commits has the empty text for its head. -/
def ofPush (push : Push) : PushId where
  owner := push.repo.owner
  repo := push.repo.name
  branch := push.branch
  sha := (push.head?.map (·.sha)).getD ""

def text (id : PushId) : String :=
  id.owner ++ "/" ++ id.repo ++ "#" ++ id.branch ++ "@" ++ id.sha

end PushId

/-- The token for talking to the host of the repository. -/
structure Credentials where
  token : String
deriving DecidableEq, Repr, Inhabited

end PushGoals
