import PushGoals.Push.Context
import PushGoals.Scope

/-!
# What tests and hooks run in

A push test, a hook of a decision tree and a computation of goals see the push
context and work on a `Scratch`: what they may do with the scope, and a journal of
what the outside world notices, look-ups in the project and messages to people.  A
`Probe` is such a piece of work.  It may fail, and what it did before it failed
stays done.

Values of the scope can be read and written.  Its policy can be read, and so can the
failures recorded in it, to which a probe may add failures of its own; none can be
taken back.
-/

namespace PushGoals

/-- What was looked up and said, in order. -/
structure Journal where
  lines : List String := []
  /-- Messages with the channel they went to. -/
  messages : List (String × String) := []
deriving Inhabited

namespace Journal

def note (journal : Journal) (line : String) : Journal :=
  { journal with lines := journal.lines ++ [line] }

def tell (journal : Journal) (channel message : String) : Journal :=
  { journal with messages := journal.messages ++ [(channel, message)] }

def messagesTo (journal : Journal) (channel : String) : List String :=
  (journal.messages.filter (·.1 == channel)).map (·.2)

end Journal

structure Scratch where
  values : ScopeValues := []
  journal : Journal := {}
  /-- The policy of the scope, for reading. -/
  policy : FailurePolicy := .failFast
  /-- The failures recorded before the work began, for reading. -/
  earlier : List RuleFailure := []
  /-- The failures that the work has recorded itself. -/
  recorded : List RuleFailure := []
deriving Inhabited

abbrev Probe (α : Type) := ExceptT GoalError (StateM Scratch) α

namespace Probe

def ofExcept {α : Type} (answer : Except GoalError α) : Probe α := ExceptT.mk (pure answer)

def note (line : String) : Probe Unit :=
  modify fun s => { s with journal := s.journal.note line }

def get? (key : String) : Probe (Option Value) := do
  return (← get).values.get? key

def set (key : String) (v : Value) : Probe Unit :=
  modify fun s => { s with values := s.values.set key v }

/-- Count one up under `key` and give the new count. -/
def increment (key : String) : Probe Int := do
  let next := (← get).values.successor key
  modify fun s => { s with values := s.values.increment key }
  return next

def policy : Probe FailurePolicy := do
  return (← get).policy

/-- All failures recorded so far. -/
def failures : Probe (List RuleFailure) := do
  let s ← get
  return s.earlier ++ s.recorded

/-- Record a failure in the scope, as a rule set does with a rule it isolates. -/
def recordFailure (rule reason : String) : Probe Unit :=
  modify fun s => { s with recorded := s.recorded ++ [⟨rule, reason⟩] }

end Probe

namespace Project

/-- Look for a file; the look-up is noted first. -/
def lookFor (project : Project) (path : String) : Probe Bool := do
  Probe.note ("has_file " ++ path)
  Probe.ofExcept (project.hasFile path)

def open? (project : Project) (path : String) : Probe (Option String) := do
  Probe.note ("read_file " ++ path)
  Probe.ofExcept (project.readFile path)

def changesSince (project : Project) (sha : String) : Probe (List String) := do
  Probe.note ("changed_files_since " ++ sha)
  Probe.ofExcept (project.changedFilesSince sha)

end Project

namespace Context

/-- Tell people about the push on its channel. -/
def address (ctx : Context) (message : String) : Probe Unit := do
  let channel ← Probe.ofExcept ctx.channel?
  modify fun s => { s with journal := s.journal.tell channel message }

end Context

end PushGoals
