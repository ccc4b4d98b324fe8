import PushGoals.Regex.ByteSequence
import Std.Data.HashMap

/-!
# The size of machines

An expression is turned into two machines that read the bytes of a text, one
forward and one backward.  Here only their sizes are computed: a state takes 32
bytes, a link from a state that branches 4, a range of bytes in a state with several
8.  `Pattern.fits` says whether both are within 10 MiB.

A set of characters beyond ASCII becomes states that share what they have in common,
as far as it is remembered: the states built last are kept in a table with one
place for each hash, so that later ones displace earlier ones.
-/

namespace PushGoals.Regex

/-- What has been built: the number of states, and bytes besides. -/
structure Machine where
  states : Nat := 0
  extra : Nat := 0

/-- The most bytes of a machine. -/
def maxBytes : Nat := 10485760

namespace Machine

/-- Add states and bytes, within the limit. -/
def add (m : Machine) (states extra : Nat) : Option Machine :=
  let m := { states := m.states + states, extra := m.extra + extra }
  if 32 * m.states + m.extra ≤ maxBytes then some m else none

/-- Link the end of a part to something; ends that branch pay for it. -/
def link (m : Machine) (branching : Bool) : Option Machine :=
  m.add 0 (if branching then 4 else 0)

end Machine

/-- A part that has been built: the machine and whether the end of the part
branches. -/
abbrev Built := Option (Machine × Bool)

/-! ## Sets of characters -/

/-- The hash of numbers, 64 bits wide: each is mixed in by an exclusive or and a
multiplication. -/
def hashNumbers (ns : List Nat) : UInt64 :=
  ns.foldl (fun h n => (h ^^^ UInt64.ofNat n) * 1099511628211) 14695981039346656037

/-- A range of bytes and the state it leads to. -/
structure Transition where
  range : ByteRange
  target : Nat
deriving DecidableEq

/-- States by what leads on from them or, backward, to them, one for each hash. -/
abbrev Memory := Std.HashMap UInt64 (List Transition × Nat)

/-- The place of transitions in a memory of `size` places. -/
def memoryPlace (size : UInt64) (key : List Transition) : UInt64 :=
  hashNumbers (key.flatMap fun t => [t.range.first, t.range.last, t.target]) % size

/-- The state with these transitions, if it is remembered. -/
def remembered? (memory : Memory) (place : UInt64) (key : List Transition) : Option Nat :=
  match memory[place]? with
  | some (key', state) => if key' = key then some state else none
  | none => none

/-- A machine with the states that are remembered. -/
structure Assembly where
  machine : Machine
  memory : Memory := ∅

/-- The places of the memory of a machine that reads forward. -/
def forwardPlaces : UInt64 := 10000

/-- The places of the memory of a machine that reads backward. -/
def backwardPlaces : UInt64 := 1000

/-- The state with the given transitions, a new one if it is not remembered. -/
def Assembly.state (a : Assembly) (transitions : List Transition) :
    Option (Nat × Assembly) := do
  let place := memoryPlace forwardPlaces transitions
  match remembered? a.memory place transitions with
  | some state => some (state, a)
  | none =>
      let machine ← a.machine.add 1 (8 * transitions.length)
      let state := a.machine.states
      some (state, ⟨machine, a.memory.insert place (transitions, state)⟩)

/-- The transitions at the root of a tree whose ends lead to `target`; what they lead
to is built first. -/
def Assembly.transitions (target : Nat) : ByteTree → Assembly →
    Option (List Transition × Assembly)
  | .none, a => some ([], a)
  | .edge range .none next, a => do
      let (others, a) ← transitions target next a
      some (⟨range, target⟩ :: others, a)
  | .edge range child next, a => do
      let (inner, a) ← transitions target child a
      let (state, a) ← a.state inner
      let (others, a) ← transitions target next a
      some (⟨range, state⟩ :: others, a)

/-- The states of a set that is read forward: an end, and those of the tree. -/
def Machine.addTree (m : Machine) (tree : ByteTree) : Option Machine := do
  let target := m.states
  let m ← m.add 1 0
  let (root, a) ← Assembly.transitions target tree ⟨m, ∅⟩
  let (_, a) ← a.state root
  some a.machine

/-- The states of a sequence that is read backward and ends in `state`, with the
first of them. -/
def Assembly.addSequence : Nat → List ByteRange → Assembly → Option Assembly
  | _, [], a => some a
  | state, range :: rest, a => do
      let key : List Transition := [⟨range, state⟩]
      let place := hashNumbers [state, range.first, range.last] % backwardPlaces
      match remembered? a.memory place key with
      | some state => addSequence state rest a
      | none =>
          let machine ← a.machine.add 1 0
          let state := a.machine.states
          addSequence state rest ⟨machine, a.memory.insert place (key, state)⟩

/-- The states of a set that is read backward: a start that branches to each of its
sequences, an end, and those of the sequences. -/
def Machine.addSequences (m : Machine) (sequences : List (List ByteRange)) :
    Option Machine := do
  let target := m.states + 1
  let m ← m.add 2 0
  let a ← sequences.foldlM
    (fun (a : Assembly) sequence => do
      let a ← Assembly.addSequence target sequence a
      some { a with machine := ← a.machine.add 0 4 })
    ⟨m, ∅⟩
  some a.machine

/-! ## Alternatives of literals -/

/-- The parts of a list between the places where the condition holds. -/
def splitWhere {α : Type} (p : α → Bool) : List α → List (List α)
  | [] => [[]]
  | a :: as =>
      match splitWhere p as with
      | [] => []
      | part :: parts => if p a then [] :: part :: parts else (a :: part) :: parts

/-- What follows each first byte, the bytes in the order in which they come up. -/
def byFirst : List (List Nat) → List (Nat × List (List Nat))
  | [] => []
  | [] :: rest => byFirst rest
  | (b :: bs) :: rest =>
      let groups := byFirst rest
      match groups.lookup b with
      | some tails => (b, bs :: tails) :: groups.filter (·.1 != b)
      | none => (b, [bs]) :: groups

/-- The states of texts that are read from one state on, as a tree: one for what may
come first up to the end of a text, and from there on again, and one that branches
to these and to the ends.  Ends before anything can come count once. -/
def Machine.addTexts : Nat → List (List Nat) → Machine → Option Machine
  | 0, _, m => some m
  | fuel + 1, texts, m =>
      if texts.all (·.isEmpty) then some m
      else do
        let early := texts.takeWhile (·.isEmpty)
        let parts := (splitWhere (·.isEmpty) (texts.drop early.length)).map byFirst
        let ends := parts.length - 1 + (if early.isEmpty then 0 else 1)
        let m ← parts.foldlM
          (fun (m : Machine) groups => do
            let m ← groups.foldlM (fun (m : Machine) group => addTexts fuel group.2 m) m
            let ways := groups.length
            if ways = 0 then some m else m.add 1 (if ways = 1 then 0 else 8 * ways))
          m
        m.add 1 (4 * ((parts.filter (!·.isEmpty)).length + ends))

/-! ## Expressions -/

/-- An atom with the sequences of bytes of its characters. -/
structure Layout where
  atom : Atom
  sequences : List (List ByteRange) := []
  tree : ByteTree := .none

/-- The sequences of a set beyond ASCII are worked out once for all its copies. -/
def Atom.layout (atom : Atom) : Layout :=
  match atom with
  | .chars set =>
      if set.isAscii then { atom }
      else
        let sequences := byteSequences set
        { atom, sequences, tree := .ofSequences sequences }
  | _ => { atom }

namespace Layout

def build (backward : Bool) (layout : Layout) (m : Machine) : Built := do
  let m ←
    match layout.atom with
    | .literal text => m.add (Atom.literalLength text) 0
    | .look _ => m.add 1 0
    | .chars set =>
        if set.isAscii then
          m.add 2 (if set.ranges.length = 1 then 0 else 8 * set.ranges.length)
        else if backward then m.addSequences layout.sequences
        else m.addTree layout.tree
  some (m, false)

def bytes? (layout : Layout) : Option (List Nat) :=
  match layout.atom with
  | .literal text => some (text.flatMap fun c => utf8Bytes (utf8Length c.toNat) c.toNat)
  | _ => none

end Layout

/-- `n` copies of a part behind an end. -/
def buildCopies (part : Machine → Built) : Nat → Machine → Bool → Built
  | 0, m, branching => some (m, branching)
  | n + 1, m, branching => do
      let (m, next) ← part m
      buildCopies part n (← m.link branching) next

/-- `n` copies of a part behind an end, each of which may be left out with those after
it. -/
def buildOptional (part : Machine → Built) : Nat → Machine → Bool → Built
  | 0, m, branching => some (m, branching)
  | n + 1, m, branching => do
      let m ← m.add 1 8
      let (m, next) ← part m
      buildOptional part n (← m.link branching) next

def buildExactly (part : Machine → Built) (n : Nat) (m : Machine) : Built :=
  if n = 0 then do some (← m.add 1 0, false) else buildCopies part n m false

def buildLoop (part : Machine → Built) (mayBeEmpty : Bool) (min : Nat) (max : Option Nat)
    (m : Machine) : Built :=
  match min, max with
  | 0, some 1 => do
      let m ← m.add 1 0
      let (m, branching) ← part m
      let m ← m.add 1 8
      some (← m.link branching, false)
  | 0, none =>
      if mayBeEmpty then do
        let (m, branching) ← part m
        let m ← m.add 3 16
        some (← m.link branching, false)
      else do
        let m ← m.add 1 0
        let (m, branching) ← part m
        let m ← m.add 0 4
        some (← m.link branching, true)
  | min + 1, none => do
      let (m, before) ← buildCopies part min m false
      let (m, branching) ← part m
      let m ← m.add 1 4
      let m ← m.link before
      some (← m.link branching, true)
  | min, some max =>
      if min = max then buildExactly part min m
      else do
        let (m, branching) ← buildExactly part min m
        let m ← m.add 1 0
        let (m, branching) ← buildOptional part (max - min) m branching
        some (← m.link branching, false)

/-- The literals among which to choose, if all branches are literals. -/
def literals? (branches : List (Expr Layout)) : Option (List (List Nat)) :=
  branches.mapM fun
    | .atom layout => layout.bytes?
    | _ => none

namespace Expr

mutual

/-- Build an expression; groups are marked at both ends by machines that read
forward. -/
def build (backward : Bool) : Expr Layout → Machine → Built
  | .empty, m => do some (← m.add 1 0, false)
  | .atom layout, m => layout.build backward m
  | .loop inner min max _, m =>
      let mayBeEmpty := !(inner.minLength (·.atom.minLength)).any (0 < ·)
      buildLoop (build backward inner) mayBeEmpty min max m
  | .group _ inner, m =>
      if backward then build backward inner m
      else do
        let m ← m.add 1 0
        let (m, branching) ← build backward inner m
        let m ← m.add 1 0
        some (← m.link branching, false)
  | .seq parts, m =>
      if backward then buildBackward parts m else buildForward parts m false
  | .alt branches, m =>
      match literals? branches with
      | some texts => do
          let texts := if backward then texts.map List.reverse else texts
          let m ← m.add 1 0
          let fuel := texts.foldl (fun n text => Nat.max n text.length) 0
          some (← m.addTexts (fuel + 1) texts, false)
      | none => do some (← buildBranches backward branches 0 m, false)

def buildForward : List (Expr Layout) → Machine → Bool → Built
  | [], m, branching => some (m, branching)
  | e :: es, m, branching => do
      let (m, next) ← build false e m
      buildForward es (← m.link branching) next

def buildBackward : List (Expr Layout) → Machine → Built
  | [], m => some (m, false)
  | e :: es, m => do
      let (m, branching) ← buildBackward es m
      let (m, next) ← build true e m
      some (← m.link branching, next)

/-- Branches, of which `count` have been built.  The states where they part and meet
come behind the second. -/
def buildBranches (backward : Bool) : List (Expr Layout) → Nat → Machine → Option Machine
  | [], _, m => some m
  | e :: es, count, m => do
      let (m, branching) ← build backward e m
      let m ← m.add (if count = 1 then 2 else 0) 4
      buildBranches backward es (count + 1) (← m.link branching)

end

end Expr

namespace Pattern

/-- Build the whole machine.  Where a match may begin anywhere, a loop over all bytes
comes first. -/
def machine? (backward anchored : Bool) (e : Expr Layout) : Option Machine := do
  let m : Machine := {}
  let m ← if anchored then m.add 1 0 else m.add 3 8
  let whole := if backward then e else .group 0 e
  let (m, branching) ← whole.build backward m
  (← m.link branching).add 1 0

/-- Are the machines of the expression within the limit? -/
def fits (e : Pattern) : Bool :=
  let layout := e.map Atom.layout
  (machine? false (startsWith .textStart e) layout).isSome &&
    (machine? true (endsWith .textEnd e) layout).isSome

end Pattern

end PushGoals.Regex
