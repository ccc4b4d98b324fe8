import PushGoals.CommandLine.Report
import PushGoals.Files.Checkout
import PushGoals.Text.Quoted
import PushGoals.Json.Reader
import PushGoals.Json.Printer
import PushGoals.Push.Codec
import PushGoals.RulesFile.Build
import PushGoals.Prediction.Classification
import PushGoals.Graph

/-!
# Running a command

A command reads its settings first, then its rules, then its push; the first
thing that cannot be read ends it.  It sees the disk only as `Files`, so that the
same command can be run on a tree in memory.
-/

namespace PushGoals

/-- Read settings, the defaults where no file is named, and override them from the
environment. -/
def Settings.load (files : Files) (environment : List (String × String)) (path : Option String) :
    Except GoalError Settings := do
  let settings ←
    match path with
    | none => pure {}
    | some path =>
        match files.read path with
        | .error e => throw (.config ("cannot read " ++ path ++ ": " ++ e.message))
        | .ok text =>
            match Settings.ofToml? text with
            | none => throw (.config "TOML parse error")
            | some settings => pure settings
  settings.override environment

namespace CommandLine

/-- A step of a command; an error is told from the widest message down. -/
abbrev Step (α : Type) := Except (List String) α

/-- An error of the engine below a message. -/
def inContext {α : Type} (message : String) : Except GoalError α → Step α
  | .ok a => .ok a
  | .error e => .error (message :: e.messages)

/-- Settings for an invocation.  A wish for more messages makes up for a log level
that is none. -/
def loadSettings (files : Files) (environment : List (String × String)) (invocation : Invocation) :
    Step Settings := do
  let settings ←
    inContext "failed to load engine config" (Settings.load files environment invocation.config)
  if invocation.verbose then return settings
  let _ ← inContext "invalid log_level" settings.level
  return settings

def loadDecider (files : Files) (settings : Settings) (path : String) : Step Decider := do
  let text ←
    match files.read path with
    | .ok text => pure text
    | .error e => throw ["failed to read rules file " ++ path, e.message]
  let file ←
    match RulesFile.ofToml text with
    | .ok file => pure file
    | .error e => throw (("in " ++ path) :: e.messages)
  match file.toDecider settings with
  | .ok decider => return decider
  | .error e => throw e.messages

def loadDocument (files : Files) (path : String) : Step Value := do
  let text ←
    match files.read path with
    | .ok text => pure text
    | .error e => throw ["Failed to read JSON file: " ++ Text.quote path, e.message]
  match Json.parse text with
  | some document => return document
  | none => throw ["Invalid JSON in " ++ Text.quote path]

/-- The context of a push that is fully known, with its project if one is named. -/
def loadPush (files : Files) (path : String) (project : Option String) : Step Context := do
  let document ← loadDocument files path
  match Push.ofValue document with
  | none => throw [Text.quote path ++ " is not a valid push"]
  | some push =>
      let ctx := Context.ofPush push
      return match project with
        | none => ctx
        | some root => ctx.withProject (files.project root)

/-- The context of a push of which something is known; `null` stands for nothing. -/
def loadPartialPush (files : Files) (path : String) : Step Context := do
  match ← loadDocument files path with
  | .null => return .ofPartial {}
  | document =>
      match PartialPush.ofValue document with
      | none => throw [Text.quote path ++ " is not a valid partial push"]
      | some fields => return .ofPartial fields

def engineFor (settings : Settings) : Engine :=
  { caches := { shared := .ofCapacity settings.cacheCapacity } }

def decide (files : Files) (settings : Settings) (invocation : Invocation) : Step Decision := do
  let decider ← loadDecider files settings invocation.rules
  let ctx ← loadPush files invocation.push invocation.project
  inContext "goal decision failed" ((decider.decide ctx).run (engineFor settings)).1

def execute (files : Files) (settings : Settings) (invocation : Invocation) : Step String :=
  match invocation.command with
  | .goals => do
      let decision ← decide files settings invocation
      return decisionText decision
  | .graph => do
      let decision ← decide files settings invocation
      match decision.goals with
      | some set => return Graph.render set
      | none => throw ["no goals were set for this push"]
  | .predict => do
      let decider ← loadDecider files settings invocation.rules
      let ctx ← loadPartialPush files invocation.push
      let (prediction, _) := (decider.predict ctx).run (engineFor settings)
      return Json.pretty prediction.toValue
  | .describe => do
      let decider ← loadDecider files settings invocation.rules
      return Json.pretty (.array ((decider.describe []).map RuleDescription.toValue))

def runInvocation (files : Files) (environment : List (String × String))
    (invocation : Invocation) : Report :=
  .ofExcept do
    let settings ← loadSettings files environment invocation
    execute files settings invocation

def run (files : Files) (environment : List (String × String)) (arguments : List String) :
    Report :=
  match parse environment arguments with
  | .error stop => .ofStop stop
  | .ok invocation => runInvocation files environment invocation

end CommandLine

end PushGoals
