import PushGoals.Rule.Basic
import PushGoals.Push.Codec

/-!
# Scripted tests, hooks and projects

Tests, hooks and projects described by data, for trying rules out without the
world around them.  A script leaves lines in the journal, so that one can see
what was evaluated, in which order, and how often.
-/

namespace PushGoals

/-- What can be read from a push context. -/
inductive ContextField where
  | id
  | push
  | repo
  | branch
  | commits
  | isDefaultBranch
  | project
  | credentials
  | addressChannels
deriving DecidableEq, Repr

namespace ContextField

def all : List ContextField :=
  [.id, .push, .repo, .branch, .commits, .isDefaultBranch, .project, .credentials,
   .addressChannels]

def name : ContextField → String
  | .id => "id"
  | .push => "push"
  | .repo => "repo"
  | .branch => "branch"
  | .commits => "commits"
  | .isDefaultBranch => "is_default_branch"
  | .project => "project"
  | .credentials => "credentials"
  | .addressChannels => "address_channels"

def ofName? (s : String) : Option ContextField := all.find? (·.name == s)

@[simp] theorem ofName?_name (f : ContextField) : ofName? f.name = some f := by
  cases f <;> decide

/-- The written form of a field.  Project and channel have none: that they are
there is all that can be read. -/
def read (ctx : Context) : ContextField → Except GoalError Value
  | .id => ctx.id?.map PushId.toValue
  | .push => ctx.push?.map Push.toValue
  | .repo => ctx.repo?.map RepoRef.toValue
  | .branch => ctx.branch?.map .string
  | .commits => ctx.commits?.map Commit.listToValue
  | .isDefaultBranch => ctx.isDefaultBranch?.map .bool
  | .project => ctx.project?.map fun _ => .bool true
  | .credentials => ctx.credentials?.map Credentials.toValue
  | .addressChannels => ctx.channel?.map fun _ => .bool true

end ContextField

/-- A step of a scripted hook. -/
inductive HookStep where
  | set (key : String) (v : Value)
  | increment (key : String)
  | note (line : String)
  | read (field : ContextField) (key : String)
  | lookFor (path key : String)
  | address (message : String)
  | fail (e : GoalError)

namespace HookStep

def run (ctx : Context) : HookStep → Probe Unit
  | .set key v => Probe.set key v
  | .increment key => do
      let _ ← Probe.increment key
  | .note line => Probe.note line
  | .read field key => do
      let v ← Probe.ofExcept (field.read ctx)
      Probe.set key v
  | .lookFor path key => do
      let project ← Probe.ofExcept ctx.project?
      let found ← project.lookFor path
      Probe.set key (.bool found)
  | .address message => ctx.address message
  | .fail e => throw e

/-- The steps in order, up to the first that fails. -/
def runAll (ctx : Context) : List HookStep → Probe Unit
  | [] => pure ()
  | step :: rest => do
      step.run ctx
      runAll ctx rest

def hook (steps : List HookStep) : Hook := fun ctx => runAll ctx steps

/-- What a step does to the scratch when there is no context to ask. -/
def prepare (scratch : Scratch) : HookStep → Scratch
  | .set key v => { scratch with values := scratch.values.set key v }
  | .increment key => { scratch with values := scratch.values.increment key }
  | .note line => { scratch with journal := scratch.journal.note line }
  | _ => scratch

def preparation (steps : List HookStep) : Preparation := fun scratch =>
  steps.foldl prepare scratch

end HookStep

/-- Plain values are never closed, and of several the first counts. -/
instance : Contribution Value where
  locked _ := false
  merge := List.head?

namespace Script

/-- Answers `value` and says that it was asked. -/
def answering (name : String) (cost : Cost) (value : Bool) : PushTest where
  name
  cost
  run _ := do
    Probe.note ("test " ++ name)
    return value

/-- Fails and says that it was asked. -/
def failing (name : String) (cost : Cost) (e : GoalError) : PushTest where
  name
  cost
  run _ := do
    Probe.note ("test " ++ name)
    throw e

/-- Reads a field of the context; only the value false counts against it. -/
def reading (name : String) (cost : Cost) (field : ContextField) : PushTest where
  name
  cost
  run ctx := do
    Probe.note ("reads " ++ field.name)
    let v ← Probe.ofExcept (field.read ctx)
    return !v.same (.bool false)

/-- Compares a value of the scope. -/
def comparing (name : String) (cost : Cost) (key : String) (v : Value) : PushTest where
  name
  cost
  run _ := do
    let found ← Probe.get? key
    return found.any (·.same v)

/-- Counts in the scope how often it was asked, and passes from a number on. -/
def counting (name : String) (cost : Cost) (key : String) (atLeast : Int) : PushTest where
  name
  cost
  run _ := do
    let n ← Probe.increment key
    return decide (atLeast ≤ n)

/-- Looks for a file in the project. -/
def lookingFor (name : String) (cost : Cost) (path : String) : PushTest :=
  .ofProject name cost fun project => project.lookFor path

/-- An outcome of any kind or a failure, with a line that it was asked for. -/
def giving {V : Type} (name : String) (outcome : Except GoalError (Outcome V)) (_ : Context) :
    Probe (Outcome V) := do
  Probe.note ("raw " ++ name)
  Probe.ofExcept outcome

/-- What a scripted computation of goals ends with. -/
inductive Gift where
  | component (c : Component)
  /-- Goals named by the text that the scope holds under a key: one goal, a list
  with the goal twice, or a set. -/
  | goalFromScope (key : String)
  | listFromScope (key : String)
  | setFromScope (key : String)

/-- The text that the scope holds under `key`. -/
def textFromScope (key : String) : Probe String := do
  match ← Probe.get? key with
  | some (.string s) => return s
  | _ => throw (.insufficientData key)

def Gift.give : Gift → Probe Component
  | .component c => return c
  | .goalFromScope key => do
      let name ← textFromScope key
      return .goal (.ofName name)
  | .listFromScope key => do
      let name ← textFromScope key
      return .list [.ofName name, .ofName name]
  | .setFromScope key => do
      let name ← textFromScope key
      return .set { name := "goals for " ++ name, goals := [.ofName name] }

/-- A computation of goals: some steps, then the goals. -/
def computing (steps : List HookStep) (gift : Gift) (ctx : Context) : Probe Component := do
  HookStep.runAll ctx steps
  gift.give

/-- A project whose look-ups fail as listed: by the line that notes the look-up,
or by a star for all of them. -/
def failingProject (failures : List (String × GoalError)) (project : Project) : Project where
  hasFile path := guarded ("has_file " ++ path) (project.hasFile path)
  readFile path := guarded ("read_file " ++ path) (project.readFile path)
  changedFilesSince sha := guarded ("changed_files_since " ++ sha) (project.changedFilesSince sha)
where
  guarded {α : Type} (line : String) (answer : Except GoalError α) : Except GoalError α :=
    match (failures.lookup "*") <|> (failures.lookup line) with
    | some e => .error e
    | none => answer

end Script

end PushGoals
