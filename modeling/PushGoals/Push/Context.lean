import PushGoals.Push.Basic
import PushGoals.Project

/-!
# Push contexts

What is known of a push when a goal decision is made.  Every field may be
missing; reading a missing one is the error that says so, which is how rules
meet a push that is only partly known.

The same push is kept whole and field by field, and its identity beside it.  The
three ways to start (`ofPush`, `ofPartial`, `empty`) and `withPush` keep them in
step.
-/

namespace PushGoals

structure Context where
  id : Option PushId := none
  push : Option Push := none
  fields : PartialPush := {}
  project : Option Project := none
  credentials : Option Credentials := none
  /-- The name of the channel on which people are told about this push. -/
  channel : Option String := none
deriving Inhabited

namespace Context

def empty : Context := {}

/-- Know a push as a whole. -/
def withPush (ctx : Context) (push : Push) : Context :=
  { ctx with id := some (PushId.ofPush push), push := some push, fields := push.toPartial }

def ofPush (push : Push) : Context := empty.withPush push

/-- Know a push field by field; it has an identity once it is complete. -/
def ofPartial (fields : PartialPush) : Context :=
  { id := fields.complete?.map PushId.ofPush, push := fields.complete?, fields }

def withId (ctx : Context) (id : PushId) : Context := { ctx with id := some id }

def withProject (ctx : Context) (project : Project) : Context :=
  { ctx with project := some project }

def withCredentials (ctx : Context) (credentials : Credentials) : Context :=
  { ctx with credentials := some credentials }

def withChannel (ctx : Context) (channel : String) : Context :=
  { ctx with channel := some channel }

/-- A field, or the error that it is not available. -/
def available {α : Type} (field : String) : Option α → Except GoalError α
  | some a => .ok a
  | none => .error (.insufficientData field)

def id? (ctx : Context) : Except GoalError PushId := available "id" ctx.id

def push? (ctx : Context) : Except GoalError Push := available "push" ctx.push

def repo? (ctx : Context) : Except GoalError RepoRef := available "repo" ctx.fields.repo

def branch? (ctx : Context) : Except GoalError String := available "branch" ctx.fields.branch

def commits? (ctx : Context) : Except GoalError (List Commit) :=
  available "commits" ctx.fields.commits

/-- Is the push to the default branch?  The branch is asked for first. -/
def isDefaultBranch? (ctx : Context) : Except GoalError Bool := do
  let branch ← ctx.branch?
  let repo ← ctx.repo?
  return branch == repo.defaultBranch

def project? (ctx : Context) : Except GoalError Project := available "project" ctx.project

def credentials? (ctx : Context) : Except GoalError Credentials :=
  available "credentials" ctx.credentials

def channel? (ctx : Context) : Except GoalError String :=
  available "address_channels" ctx.channel

end Context

end PushGoals
