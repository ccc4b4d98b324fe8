import PushGoals.Settings

/-!
# Command line arguments

A command line is read on two levels: options of the program, the name of a
command, and options of that command, among which those of the program may be
repeated.  On each level an option is given at most once and in any order; its
value stands behind an equals sign, in the next argument, or, for a short
option, directly behind the letter.  Two hyphens alone end the options.

Whatever does not fit is a `Stop.misuse`.  Asking for help or for the version
stops the reading with no look at what follows.
-/

namespace PushGoals.CommandLine

inductive Key where
  | verbose
  | json
  | config
  | rules
  | push
  | project
  | help
  | version
deriving DecidableEq, Repr

namespace Key

def long : Key → String
  | .verbose => "verbose"
  | .json => "json"
  | .config => "config"
  | .rules => "rules"
  | .push => "push"
  | .project => "project"
  | .help => "help"
  | .version => "version"

def short? : Key → Option Char
  | .verbose => some 'v'
  | .rules => some 'r'
  | .push => some 'p'
  | .help => some 'h'
  | .version => some 'V'
  | .json | .config | .project => none

def takesValue : Key → Bool
  | .config | .rules | .push | .project => true
  | .verbose | .json | .help | .version => false

/-- Options that may stand on either level. -/
def shared : List Key := [.verbose, .json, .config, .help]

end Key

inductive CommandName where
  | goals
  | predict
  | graph
  | describe
deriving DecidableEq, Repr

namespace CommandName

def all : List CommandName := [.goals, .predict, .graph, .describe]

def text : CommandName → String
  | .goals => "goals"
  | .predict => "predict"
  | .graph => "graph"
  | .describe => "describe"

def ofText? (s : String) : Option CommandName := all.find? (·.text == s)

@[simp] theorem ofText?_text (c : CommandName) : ofText? c.text = some c := by
  cases c <;> decide

/-- Options that must be given, and options that may be. -/
def required : CommandName → List Key
  | .goals | .predict | .graph => [.rules, .push]
  | .describe => [.rules]

def optional : CommandName → List Key
  | .goals | .graph => [.project]
  | .predict | .describe => []

end CommandName

/-- Why no command is run. -/
inductive Stop where
  | misuse
  | help
  | version
deriving DecidableEq, Repr

/-- Options with their values; a flag has the empty text. -/
abbrev Given := List (Key × String)

def give (given : Given) (key : Key) (value : String) : Except Stop Given :=
  if (given.lookup key).isSome || (key.takesValue && value.isEmpty) then .error .misuse
  else
    match key with
    | .help => .error .help
    | .version => .error .version
    | _ => .ok ((key, value) :: given)

def giveAll (given : Given) : List (Key × String) → Except Stop Given
  | [] => .ok given
  | (key, value) :: rest => do
      let given ← give given key value
      giveAll given rest

/-! ## One argument -/

inductive Token where
  /-- Options; `pending` is one whose value must be the next argument. -/
  | options (given : List (Key × String)) (pending : Option Key)
  /-- Two hyphens alone. -/
  | divider
  | word
  | unknown
deriving Repr

/-- Letters behind one hyphen.  A letter with a value takes the rest of the
argument for it, and nothing is read behind a letter that stops the reading. -/
def cluster (keys : List Key) : List Char → Token
  | [] => .options [] none
  | c :: rest =>
      match keys.find? (·.short? == some c) with
      | none => .unknown
      | some key =>
          if key.takesValue then
            match rest with
            | [] => .options [] (some key)
            | '=' :: value => .options [(key, String.ofList value)] none
            | value => .options [(key, String.ofList value)] none
          else if key = .help ∨ key = .version then .options [(key, "")] none
          else
            match cluster keys rest with
            | .options given pending => .options ((key, "") :: given) pending
            | other => other

/-- A name behind two hyphens, perhaps with a value. -/
def longOption (keys : List Key) (cs : List Char) : Token :=
  let name := cs.takeWhile (· != '=')
  match keys.find? (·.long.toList == name) with
  | none => .unknown
  | some key =>
      match cs.dropWhile (· != '='), key.takesValue with
      | [], true => .options [] (some key)
      | [], false => .options [(key, "")] none
      | _ :: value, true => .options [(key, String.ofList value)] none
      | _ :: _, false => .unknown

def Token.ofArgument (keys : List Key) (argument : String) : Token :=
  match argument.toList with
  | ['-', '-'] => .divider
  | '-' :: '-' :: cs => longOption keys cs
  | '-' :: c :: cs => cluster keys (c :: cs)
  | _ => .word

/-! ## A level -/

/-- The options of one level, up to the first word, with that word and what
follows it.  `pending` is an option that waits for its value. -/
def readLevel (keys : List Key) (given : Given) (pending : Option Key) :
    List String → Except Stop (Given × List String)
  | [] => if pending.isSome then .error .misuse else .ok (given, [])
  | argument :: rest =>
      match pending, Token.ofArgument keys argument with
      | some key, .word => do
          let given ← give given key argument
          readLevel keys given none rest
      | some _, _ => .error .misuse
      | none, .options more pending => do
          let given ← giveAll given more
          readLevel keys given pending rest
      | none, .divider => if rest.isEmpty then .ok (given, []) else .error .misuse
      | none, .word => .ok (given, argument :: rest)
      | none, .unknown => .error .misuse

/-! ## Whole command lines -/

structure Invocation where
  verbose : Bool
  json : Bool
  config : Option String
  command : CommandName
  rules : String
  /-- Empty for a command that has no push. -/
  push : String
  project : Option String
deriving DecidableEq, Repr

/-- The name of the environment variable that names a settings file. -/
def configVariable : String := "SDM_CONFIG"

/-- Put both levels together.  Where the settings file is named twice the command's
own option counts, and any option before the environment.  A level that takes the
name from the environment cannot take an empty one. -/
def assemble (environment : List (String × String)) (command : CommandName)
    (outer inner : Given) : Except Stop Invocation :=
  let named := environment.lookup configVariable
  let fromEnvironment := (outer.lookup Key.config).isNone || (inner.lookup Key.config).isNone
  if command.required.any (fun key => (inner.lookup key).isNone) then .error .misuse
  else if fromEnvironment && named == some "" then .error .misuse
  else
    .ok
      { verbose := (outer ++ inner).any (·.1 == .verbose)
        json := (outer ++ inner).any (·.1 == .json)
        config := (inner.lookup .config).or ((outer.lookup .config).or named)
        command
        rules := (inner.lookup .rules).getD ""
        push := (inner.lookup .push).getD ""
        project := inner.lookup .project }

/-- What can be asked for help about: the commands and help itself. -/
def isTopic (name : String) : Bool := (CommandName.ofText? name).isSome || name == "help"

def helpOn : List String → Stop
  | [] => .help
  | [topic] => if isTopic topic then .help else .misuse
  | _ => .misuse

/-- Read a command line, the program's own name left out. -/
def parse (environment : List (String × String)) (arguments : List String) :
    Except Stop Invocation := do
  let (outer, rest) ← readLevel (.version :: Key.shared) [] none arguments
  match rest with
  | [] => throw .misuse
  | name :: rest =>
      if name == "help" then throw (helpOn rest)
      match CommandName.ofText? name with
      | none => throw .misuse
      | some command =>
          let keys := command.required ++ command.optional ++ Key.shared
          let (inner, rest) ← readLevel keys [] none rest
          if rest.isEmpty then assemble environment command outer inner else throw .misuse

end PushGoals.CommandLine
