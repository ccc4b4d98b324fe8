import PushGoals.Text.CharSet

/-!
# Regular expressions

An expression is built of atoms: literal texts, sets of characters and conditions
on a position.  The functions in `Pattern` build expressions that are as plain as
possible: a set of one character is a literal, literals in a row are one, sequences
within sequences and alternatives within alternatives are opened, alternatives of
single characters or sets are a set, and what all alternatives begin with stands
before them.
-/

namespace PushGoals.Regex

open Text (CharSet)

inductive Look where
  | textStart
  | textEnd
  | lineStart
  | lineEnd
  /-- Line ends may also be a carriage return, alone or before a line feed. -/
  | anyLineStart
  | anyLineEnd
  | wordBoundary (unicode : Bool)
  | noWordBoundary (unicode : Bool)
  | wordStart (unicode : Bool)
  | wordEnd (unicode : Bool)
  | wordStartHalf (unicode : Bool)
  | wordEndHalf (unicode : Bool)
deriving DecidableEq, Repr

inductive Atom where
  | literal (text : List Char)
  | chars (set : CharSet)
  | look (l : Look)
deriving DecidableEq, Repr

inductive Expr (α : Type) where
  | empty
  | atom (a : α)
  /-- At least `min` rounds and at most `max`, if there is a bound. -/
  | loop (inner : Expr α) (min : Nat) (max : Option Nat) (greedy : Bool)
  | group (index : Nat) (inner : Expr α)
  | seq (parts : List (Expr α))
  | alt (branches : List (Expr α))

abbrev Pattern := Expr Atom

namespace Expr

mutual

def map {α β : Type} (f : α → β) : Expr α → Expr β
  | .empty => .empty
  | .atom a => .atom (f a)
  | .loop inner min max greedy => .loop (map f inner) min max greedy
  | .group index inner => .group index (map f inner)
  | .seq parts => .seq (mapAll f parts)
  | .alt branches => .alt (mapAll f branches)

def mapAll {α β : Type} (f : α → β) : List (Expr α) → List (Expr β)
  | [] => []
  | e :: es => map f e :: mapAll f es

end

mutual

def same {α : Type} [DecidableEq α] : Expr α → Expr α → Bool
  | .empty, .empty => true
  | .atom a, .atom b => a = b
  | .loop a min max greedy, .loop b min' max' greedy' =>
      min == min' && max == max' && greedy == greedy' && same a b
  | .group i a, .group j b => i == j && same a b
  | .seq as, .seq bs => sameAll as bs
  | .alt as, .alt bs => sameAll as bs
  | _, _ => false

def sameAll {α : Type} [DecidableEq α] : List (Expr α) → List (Expr α) → Bool
  | [], [] => true
  | a :: as, b :: bs => same a b && sameAll as bs
  | _, _ => false

end

/-- The lesser of two lengths, if there are both. -/
def lesser? : Option Nat → Option Nat → Option Nat
  | some m, some n => some (Nat.min m n)
  | _, _ => none

mutual

/-- The length of the shortest matches, where `f` gives that of an atom.  There is
none if an alternative has none, or a part of a sequence. -/
def minLength {α : Type} (f : α → Option Nat) : Expr α → Option Nat
  | .empty => some 0
  | .atom a => f a
  | .loop inner min _ _ => (minLength f inner).map (min * ·)
  | .group _ inner => minLength f inner
  | .seq parts => minLengthSum f parts
  | .alt [] => none
  | .alt (b :: bs) => minLengthOf f (minLength f b) bs

def minLengthSum {α : Type} (f : α → Option Nat) : List (Expr α) → Option Nat
  | [] => some 0
  | e :: es => do some ((← minLength f e) + (← minLengthSum f es))

def minLengthOf {α : Type} (f : α → Option Nat) (least : Option Nat) :
    List (Expr α) → Option Nat
  | [] => least
  | e :: es => minLengthOf f (lesser? least (minLength f e)) es

end

end Expr

/-- The number of bytes of a code point in UTF-8. -/
def utf8Length (n : Nat) : Nat :=
  if n < 0x80 then 1 else if n < 0x800 then 2 else if n < 0x10000 then 3 else 4

namespace Atom

def literalLength (text : List Char) : Nat := text.foldl (fun n c => n + utf8Length c.toNat) 0

/-- The bytes of the shortest match; a set without characters has none. -/
def minLength : Atom → Option Nat
  | literal text => some (literalLength text)
  | chars set => set.ranges.head?.map fun r => utf8Length r.first
  | look _ => some 0

/-- The bytes of the longest match. -/
def maxLength : Atom → Option Nat
  | literal text => some (literalLength text)
  | chars set => set.ranges.getLast?.map fun r => utf8Length r.last
  | look _ => some 0

end Atom

namespace Pattern

mutual

/-- The length of the longest matches, if it has a bound. -/
def maxLength : Pattern → Option Nat
  | .empty => some 0
  | .atom a => a.maxLength
  | .loop inner _ max _ => do some ((← max) * (← maxLength inner))
  | .group _ inner => maxLength inner
  | .seq parts => maxLengthSum parts
  | .alt branches => maxLengthOf branches

def maxLengthSum : List Pattern → Option Nat
  | [] => some 0
  | e :: es => do some ((← maxLength e) + (← maxLengthSum es))

def maxLengthOf : List Pattern → Option Nat
  | [] => none
  | [e] => maxLength e
  | e :: es => do some (Nat.max (← maxLength e) (← maxLengthOf es))

end

mutual

/-- Does every match begin where the condition holds?  A sequence begins with its
parts up to the first that may take in characters. -/
def startsWith (l : Look) : Pattern → Bool
  | .empty => false
  | .atom a => a = .look l
  | .loop inner min _ _ => 0 < min && startsWith l inner
  | .group _ inner => startsWith l inner
  | .seq parts => someStartsWith l parts
  | .alt branches => allStartWith l branches

def someStartsWith (l : Look) : List Pattern → Bool
  | [] => false
  | e :: es => startsWith l e || (maxLength e == some 0 && someStartsWith l es)

def allStartWith (l : Look) : List Pattern → Bool
  | [] => true
  | e :: es => startsWith l e && allStartWith l es

end

mutual

/-- Does every match end where the condition holds? -/
def endsWith (l : Look) : Pattern → Bool
  | .empty => false
  | .atom a => a = .look l
  | .loop inner min _ _ => 0 < min && endsWith l inner
  | .group _ inner => endsWith l inner
  | .seq parts => someEndsWith l parts
  | .alt branches => allEndWith l branches

def someEndsWith (l : Look) : List Pattern → Bool
  | [] => false
  | e :: es => someEndsWith l es || (maxLengthSum es == some 0 && endsWith l e)

def allEndWith (l : Look) : List Pattern → Bool
  | [] => true
  | e :: es => endsWith l e && allEndWith l es

end

def literal (text : List Char) : Pattern := .atom (.literal text)

def ofSet (set : CharSet) : Pattern :=
  match set.single? with
  | some c => literal [c]
  | none => .atom (.chars set)

/-- Repetition.  Further rounds of what takes in no character make no difference. -/
def repeated (inner : Pattern) (min : Nat) (max : Option Nat) (greedy : Bool) : Pattern :=
  let (min, max) :=
    if maxLength inner = some 0 then (Nat.min min 1, some (Nat.min (max.getD 1) 1))
    else (min, max)
  if min = 0 ∧ max = some 0 then .empty
  else if min = 1 ∧ max = some 1 then inner
  else .loop inner min max greedy

/-- A part before the parts of a sequence. -/
def prepend (part : Pattern) (parts : List Pattern) : List Pattern :=
  match part, parts with
  | .empty, parts => parts
  | .atom (.literal a), .atom (.literal b) :: rest => literal (a ++ b) :: rest
  | part, parts => part :: parts

/-- One part after the other. -/
def ofParts (parts : List Pattern) : Pattern :=
  let opened := parts.flatMap fun
    | .seq inner => inner
    | part => [part]
  match opened.foldr prepend [] with
  | [] => .empty
  | [part] => part
  | parts => .seq parts

def char? : Pattern → Option Char
  | .atom (.literal [c]) => some c
  | _ => none

def set? : Pattern → Option CharSet
  | .atom (.chars set) => some set
  | _ => none

/-- The set that alternatives of single characters, or of sets, amount to. -/
def setOf? (branches : List Pattern) : Option CharSet :=
  ((branches.mapM char?).map fun cs => CharSet.ofCharRanges (cs.map fun c => (c, c))) <|>
    ((branches.mapM set?).map CharSet.unionAll)

/-- Alternatives as they are, but for sets. -/
def choice (branches : List Pattern) : Pattern :=
  let opened := branches.flatMap fun
    | .alt inner => inner
    | branch => [branch]
  match opened with
  | [] => ofSet .empty
  | [branch] => branch
  | branches =>
      match setOf? branches with
      | some set => ofSet set
      | none => .alt branches

/-- The parts that two sequences begin with. -/
def commonStart : List Pattern → List Pattern → List Pattern
  | a :: as, b :: bs => if a.same b then a :: commonStart as bs else []
  | _, _ => []

def parts? : Pattern → Option (List Pattern)
  | .seq parts => some parts
  | _ => none

/-- Alternatives: what all of them begin with, if all are sequences, and how they go
on. -/
def ofBranches (branches : List Pattern) : Pattern :=
  match choice branches with
  | .alt branches =>
      match branches.mapM parts? with
      | some (first :: others) =>
          let start := others.foldl commonStart first
          if start.isEmpty then .alt branches
          else
            ofParts (start ++
              [choice ((first :: others).map fun parts => ofParts (parts.drop start.length))])
      | _ => .alt branches
  | pattern => pattern

end Pattern

end PushGoals.Regex
