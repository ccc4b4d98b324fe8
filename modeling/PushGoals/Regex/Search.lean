import PushGoals.Regex.CharClass
import PushGoals.Regex.Expr

/-!
# Where expressions match

A position in a text is told by the characters before and after it.  A set of
positions is a natural number, bit `i` for position `i`.  `Expr.reach` takes the
set of positions where a match may start to the set of those where it may end,
so that a text has a match somewhere exactly when what is reached from all of
its positions is not empty.

A repetition is followed round by round.  It is finished when a round reaches
nothing, or nothing new.
-/

namespace PushGoals.Regex

/-- A position: the characters before and after it. -/
structure Boundary where
  before : Option Char
  after : Option Char

namespace Look

/-- Is there a character of words? -/
def isWord (unicode : Bool) : Option Char → Bool
  | none => false
  | some c => (shorthandClass unicode 'w').contains c

def holds (look : Look) (b : Boundary) : Bool :=
  match look with
  | .textStart => b.before.isNone
  | .textEnd => b.after.isNone
  | .lineStart => b.before.isNone || b.before == some '\n'
  | .lineEnd => b.after.isNone || b.after == some '\n'
  | .anyLineStart =>
      b.before.isNone || b.before == some '\n' ||
        (b.before == some '\r' && b.after != some '\n')
  | .anyLineEnd =>
      b.after.isNone || b.after == some '\r' ||
        (b.after == some '\n' && b.before != some '\r')
  | .wordBoundary u => isWord u b.before != isWord u b.after
  | .noWordBoundary u => isWord u b.before == isWord u b.after
  | .wordStart u => !isWord u b.before && isWord u b.after
  | .wordEnd u => isWord u b.before && !isWord u b.after
  | .wordStartHalf u => !isWord u b.before
  | .wordEndHalf u => !isWord u b.after

end Look

/-- The positions of a text, the one before the first character first. -/
def boundaries (text : List Char) : List Boundary :=
  go none text
where
  go (before : Option Char) : List Char → List Boundary
    | [] => [⟨before, none⟩]
    | c :: rest => ⟨before, some c⟩ :: go (some c) rest

/-- The set of the positions that satisfy a condition. -/
def positions (condition : Boundary → Bool) (bs : List Boundary) : Nat :=
  bs.foldr (fun b set => 2 * set + (if condition b then 1 else 0)) 0

/-- What an atom does on a text. -/
inductive Move where
  /-- One character after the other, each from one of a set of positions. -/
  | advance (sets : List Nat)
  /-- Stay, at one of a set of positions. -/
  | stay (set : Nat)

namespace Move

def apply : Move → Nat → Nat
  | advance sets, set => sets.foldl (fun set allowed => (set &&& allowed) <<< 1) set
  | stay allowed, set => set &&& allowed

end Move

def Atom.move (bs : List Boundary) : Atom → Move
  | literal text => .advance (text.map fun c => positions (·.after == some c) bs)
  | chars set => .advance [positions (·.after.any set.contains) bs]
  | look l => .stay (positions l.holds bs)

/-- Follow `rounds` rounds; a set that a round leaves as it is stays so. -/
def rounds (step : Nat → Nat) : Nat → Nat → Nat
  | 0, set => set
  | n + 1, set =>
      let next := step set
      if next == set then set else rounds step n next

/-- Everything reached by at most `n` further rounds, where `frontier` is what the
round before reached for the first time. -/
def saturate (step : Nat → Nat) : Nat → Nat → Nat → Nat
  | 0, seen, _ => seen
  | n + 1, seen, frontier =>
      let next := step frontier
      let all := seen ||| next
      if all == seen then seen else saturate step n all next

/-- The number of rounds that matter beyond the least number: no more than there
are positions, since each must reach a new one. -/
def extraRounds (size min : Nat) : Option Nat → Nat
  | none => size
  | some max => Nat.min (max - min) size

namespace Expr

mutual

/-- Where a match may end that starts in `set`, in a text with `size` positions. -/
def reach (size : Nat) : Expr Move → Nat → Nat
  | .empty, set => set
  | .atom move, set => move.apply set
  | .loop inner min max _, set =>
      let start := rounds (reach size inner) min set
      saturate (reach size inner) (extraRounds size min max) start start
  | .group _ inner, set => reach size inner set
  | .seq parts, set => reachLast size parts set
  | .alt branches, set => reachAny size branches set

def reachLast (size : Nat) : List (Expr Move) → Nat → Nat
  | [], set => set
  | e :: es, set => reachLast size es (reach size e set)

def reachAny (size : Nat) : List (Expr Move) → Nat → Nat
  | [], _ => 0
  | e :: es, set => reach size e set ||| reachAny size es set

end

end Expr

/-- Is there a match somewhere in the text? -/
def Pattern.matchesIn (e : Pattern) (text : List Char) : Bool :=
  let bs := boundaries text
  (e.map (Atom.move bs)).reach bs.length (positions (fun _ => true) bs) != 0

end PushGoals.Regex
