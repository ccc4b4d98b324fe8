import PushGoals.Regex.Machine
import PushGoals.Regex.Property
import PushGoals.Regex.Search
import PushGoals.Text.CaseFolding
import PushGoals.Text.Visible

/-!
# Reading regular expressions

`Regex.compile?` reads the syntax of regular expressions without look-around and
back references.  `none` is an expression that is malformed, nested more than
250 levels deep, or so large that its machines would not fit 10 MiB.

Flags hold from where they are set to the end of their group, alternatives
included.  With the `x` flag blanks and comments between the parts of the
expression do not count.  Without Unicode (`-u`) only ASCII can be matched, and
an expression that could match part of a character is refused.

A reader takes the characters from its position on and gives back those that
follow.  The readers of groups and classes, which can be nested, carry the number
of steps they may still take; each step consumes a character.
-/

namespace PushGoals.Regex

open Text (CharRange CharSet)

structure Flags where
  caseless : Bool := false
  multiLine : Bool := false
  dotAll : Bool := false
  unicode : Bool := true
  anyLineEnd : Bool := false
  verbose : Bool := false
  /-- Repetitions prefer few rounds unless they are marked. -/
  swapGreed : Bool := false
deriving DecidableEq, Repr, Inhabited

/-- The characters after blanks and comments; a comment runs from `#` to the end
of the line. -/
def skipVerbose (inComment : Bool) : List Char → List Char
  | [] => []
  | c :: rest =>
      if inComment then skipVerbose (c != '\n') rest
      else if Text.isBlank c then skipVerbose false rest
      else if c == '#' then skipVerbose true rest
      else c :: rest

def Flags.skip (flags : Flags) (cs : List Char) : List Char :=
  if flags.verbose then skipVerbose false cs else cs

/-! ## Escapes -/

/-- What an escape stands for.  A literal of two hexadecimal digits counts as a
byte where Unicode is off. -/
inductive Escaped where
  | literal (c : Char) (isByte : Bool)
  | cls (set : CharSet)
  | look (l : Look)

/-- Characters that stand for themselves only when escaped. -/
def isMeta (c : Char) : Bool :=
  ['\\', '.', '+', '*', '?', '(', ')', '|', '[', ']', '\x7b', '\x7d', '^', '$', '#', '&', '-',
    '~'].contains c

/-- Characters that may be escaped to stand for themselves: ASCII characters but
for letters, digits and angle brackets. -/
def isEscapable (c : Char) : Bool :=
  isMeta c || (c.toNat < 0x80 && !c.isAlphanum && c != '<' && c != '>')

def hexValue? (c : Char) : Option Nat :=
  if c.isDigit then some (c.toNat - '0'.toNat)
  else if 'a' ≤ c ∧ c ≤ 'f' then some (c.toNat - 'a'.toNat + 10)
  else if 'A' ≤ c ∧ c ≤ 'F' then some (c.toNat - 'A'.toNat + 10)
  else none

/-- The character with a code point, when it is one of Unicode's. -/
def charOfCode? (n : Nat) : Option Char :=
  if n < 0xD800 || (0xDFFF < n && n ≤ 0x10FFFF) then some (Char.ofNat n) else none

/-- `count` hexadecimal digits. -/
def readHexDigits (flags : Flags) : Nat → Nat → List Char → Option (Nat × List Char)
  | 0, value, cs => some (value, cs)
  | count + 1, value, cs =>
      match cs with
      | [] => none
      | c :: rest => do
          let d ← hexValue? c
          readHexDigits flags count (value * 16 + d) (flags.skip rest)

/-- Hexadecimal digits up to the closing brace, at least one.  Beyond the code
points the value no longer matters. -/
def readHexBrace (flags : Flags) : Nat → Option Nat → List Char → Option (Nat × List Char)
  | 0, _, _ => none
  | fuel + 1, value, cs =>
      match flags.skip cs with
      | [] => none
      | '\x7d' :: rest => value.map (·, flags.skip rest)
      | c :: rest => do
          let d ← hexValue? c
          readHexBrace flags fuel (some (Nat.min (value.getD 0 * 16 + d) 0x110000)) rest

/-- A character by its code point, after `x`, `u` or `U`. -/
def readHex (flags : Flags) (kind : Char) (cs : List Char) : Option (Escaped × List Char) := do
  match flags.skip cs with
  | '\x7b' :: rest =>
      let (n, rest) ← readHexBrace flags (rest.length + 1) none rest
      let c ← charOfCode? n
      some (.literal c false, rest)
  | cs =>
      let digits := if kind == 'x' then 2 else if kind == 'u' then 4 else 8
      let (n, rest) ← readHexDigits flags digits 0 cs
      let c ← charOfCode? n
      some (.literal c (kind == 'x'), rest)

/-- Close a class under case, if case does not count. -/
def foldClass (flags : Flags) (set : CharSet) : CharSet :=
  if !flags.caseless then set
  else if flags.unicode then set.folded
  else asciiFolded set

/-- Close a class under case if case does not count, then take its complement if
asked to.  Without Unicode the outcome has to be within ASCII. -/
def finishClass (flags : Flags) (negated : Bool) (set : CharSet) : Option CharSet :=
  let set := foldClass flags set
  let set := if negated then set.complement else set
  if flags.unicode || set.isAscii then some set else none

/-- The name of a property up to its closing brace. -/
def readPropertyName (flags : Flags) :
    Nat → List Char → List Char → Option (List Char × List Char)
  | 0, _, _ => none
  | fuel + 1, acc, cs =>
      match flags.skip cs with
      | [] => none
      | '\x7d' :: rest => some (acc.reverse, rest)
      | c :: rest => readPropertyName flags fuel (c :: acc) rest

/-- The parts of a text before and after the first place where `mark` stands. -/
def splitAtFirst? (mark : List Char) : List Char → Option (List Char × List Char)
  | [] => none
  | c :: rest =>
      if mark.isPrefixOf (c :: rest) then some ([], (c :: rest).drop mark.length)
      else (splitAtFirst? mark rest).map fun (before, after) => (c :: before, after)

/-- A class by property name, with a sign that says whether it is to be negated. -/
def propertyClass? (name : List Char) : Option (CharSet × Bool) :=
  match splitAtFirst? ['!', '='] name with
  | some (property, value) => (valueSet? property value).map (·, true)
  | none =>
      match (splitAtFirst? [':'] name) <|> (splitAtFirst? ['='] name) with
      | some (property, value) => (valueSet? property value).map (·, false)
      | none => (propertySet? name).map (·, false)

/-- A class of Unicode characters by property, after `p` or `P`. -/
def readProperty (flags : Flags) (negated : Bool) (cs : List Char) :
    Option (Escaped × List Char) := do
  let (name, rest) ←
    match flags.skip cs with
    | [] => none
    | '\x7b' :: rest => readPropertyName flags (rest.length + 1) [] rest
    | '\\' :: _ => none
    | c :: rest => some ([c], flags.skip rest)
  let (set, inverted) ← propertyClass? name
  if !flags.unicode then none
  let set ← finishClass flags (negated != inverted) set
  some (.cls set, rest)

/-- The word in braces that makes a boundary a special one.  `none` inside means
that the braces hold no word and belong to a repetition. -/
def readBoundaryWord (flags : Flags) (cs : List Char) :
    Option (Option (Look × List Char)) := do
  let isWordy (c : Char) : Bool := c.isAlpha || c == '-'
  match flags.skip cs with
  | [] => none
  | c :: rest =>
      if !isWordy c then some none
      else
        let (word, rest) ← go isWordy ((c :: rest).length + 1) [] (c :: rest)
        match rest with
        | '\x7d' :: rest =>
            match String.ofList word with
            | "start" => some (some (.wordStart flags.unicode, rest))
            | "end" => some (some (.wordEnd flags.unicode, rest))
            | "start-half" => some (some (.wordStartHalf flags.unicode, rest))
            | "end-half" => some (some (.wordEndHalf flags.unicode, rest))
            | _ => none
        | _ => none
where
  go (isWordy : Char → Bool) : Nat → List Char → List Char → Option (List Char × List Char)
    | 0, _, _ => none
    | fuel + 1, acc, cs =>
        match cs with
        | c :: rest =>
            if isWordy c then go isWordy fuel (c :: acc) (flags.skip rest)
            else some (acc.reverse, cs)
        | [] => none

/-- An escape, after its backslash. -/
def readEscape (flags : Flags) : List Char → Option (Escaped × List Char)
  | [] => none
  | c :: rest =>
      if c.isDigit then none
      else if c == 'x' || c == 'u' || c == 'U' then readHex flags c rest
      else if c == 'p' || c == 'P' then readProperty flags (c == 'P') rest
      else if c == 'd' || c == 's' || c == 'w' then
        some (.cls (shorthandClass flags.unicode c), rest)
      else if c == 'D' || c == 'S' || c == 'W' then
        if flags.unicode then some (.cls (shorthandClass true c.toLower).complement, rest)
        else none
      else if isEscapable c then some (.literal c false, rest)
      else
        match c with
        | 'a' => some (.literal '\x07' false, rest)
        | 'f' => some (.literal '\x0c' false, rest)
        | 't' => some (.literal '\t' false, rest)
        | 'n' => some (.literal '\n' false, rest)
        | 'r' => some (.literal '\r' false, rest)
        | 'v' => some (.literal '\x0b' false, rest)
        | 'A' => some (.look .textStart, rest)
        | 'z' => some (.look .textEnd, rest)
        | 'B' => some (.look (.noWordBoundary flags.unicode), rest)
        | '<' => some (.look (.wordStart flags.unicode), rest)
        | '>' => some (.look (.wordEnd flags.unicode), rest)
        | 'b' =>
            match rest with
            | '\x7b' :: more => do
                match ← readBoundaryWord flags more with
                | some (l, after) => some (.look l, after)
                | none => some (.look (.wordBoundary flags.unicode), rest)
            | _ => some (.look (.wordBoundary flags.unicode), rest)
        | _ => none

/-! ## Bracketed classes -/

/-- A member of a class: a character or a class. -/
inductive Member where
  | literal (c : Char)
  | cls (set : CharSet)

/-- A literal of a class; without Unicode it has to be ASCII. -/
def literalMember (flags : Flags) (c : Char) : Option Member :=
  if !flags.unicode && c.toNat ≥ 0x80 then none else some (.literal c)

def readMember (flags : Flags) : List Char → Option (Member × List Char)
  | [] => none
  | '\\' :: rest => do
      let (escaped, rest) ← readEscape flags rest
      match escaped with
      | .literal c _ => (literalMember flags c).map (·, rest)
      | .cls set => some (.cls set, rest)
      | .look _ => none
  | c :: rest => (literalMember flags c).map (·, rest)

/-- The character after the one at the front.  With the `x` flag blanks before it
do not count, nor does one `#` among them. -/
def peekBehind (flags : Flags) (cs : List Char) : Option Char :=
  if flags.verbose then go false (cs.drop 1) else (cs.drop 1).head?
where
  go (inComment : Bool) : List Char → Option Char
    | [] => (cs.drop 1).head?
    | c :: rest =>
        if Text.isBlank c then go inComment rest
        else if !inComment && c == '#' then go true rest
        else some c

/-- A member, or a range of two characters with a hyphen between. -/
def readRange (flags : Flags) (cs : List Char) : Option (List CharRange × List Char) := do
  let (first, rest) ← readMember flags cs
  match flags.skip rest with
  | [] => none
  | c :: rest =>
      let next := peekBehind flags (c :: rest)
      if c != '-' || next == some ']' || next == some '-' then
        match first with
        | .literal a => some ((CharSet.single a).ranges, c :: rest)
        | .cls set => some (set.ranges, c :: rest)
      else
        let (last, rest) ← readMember flags (flags.skip rest)
        match first, last with
        | .literal a, .literal b =>
            if a ≤ b then some ([⟨a.toNat, b.toNat⟩], rest) else none
        | _, _ => none

/-- A class by POSIX name, after its opening bracket: a colon, perhaps a
circumflex, the name and a colon before the closing bracket.  `none` is a bracket
that opens no such class, `none` inside one that is refused. -/
def readPosix (flags : Flags) (cs : List Char) : Option (Option CharSet × List Char) := do
  match cs with
  | ':' :: rest =>
      let (negated, rest) :=
        match rest with
        | '^' :: more => (true, more)
        | _ => (false, rest)
      let name := rest.takeWhile (· != ':')
      match rest.dropWhile (· != ':') with
      | ':' :: ']' :: rest =>
          let set ← posixClass? (String.ofList name)
          some (finishClass flags negated set, rest)
      | _ => none
  | _ => none

inductive ClassOp where
  | inter
  | difference
  | symmetric

/-- A set with its levels of nesting. -/
structure NestedSet where
  set : CharSet
  depth : Nat

/-- The union that is being read: the ranges and the number of its members, and the
levels of nesting of the deepest. -/
structure ClassUnion where
  ranges : List CharRange := []
  members : Nat := 0
  depth : Nat := 0

def ClassUnion.add (union : ClassUnion) (ranges : List CharRange) (depth : Nat) : ClassUnion :=
  ⟨ranges ++ union.ranges, union.members + 1, Nat.max union.depth depth⟩

/-- Several members are a level of nesting. -/
def ClassUnion.finish (union : ClassUnion) : NestedSet :=
  ⟨.ofRanges union.ranges, if 2 ≤ union.members then union.depth + 1 else union.depth⟩

/-- Apply the operation that waits for its right side. -/
def applyOp (flags : Flags) (pending : Option (ClassOp × NestedSet)) (right : NestedSet) :
    NestedSet :=
  match pending with
  | none => right
  | some (op, left) =>
      let a := foldClass flags left.set
      let b := foldClass flags right.set
      let set :=
        match op with
        | .inter => a.inter b
        | .difference => a.difference b
        | .symmetric => a.symmetric b
      ⟨set, Nat.max left.depth right.depth + 1⟩

/-- The hyphens at the start of a class, which stand for themselves. -/
def readHyphens (flags : Flags) : Nat → ClassUnion → List Char → ClassUnion × List Char
  | 0, union, cs => (union, cs)
  | fuel + 1, union, cs =>
      match cs with
      | '-' :: rest =>
          readHyphens flags fuel (union.add (CharSet.single '-').ranges 0) (flags.skip rest)
      | _ => (union, cs)

mutual

/-- A class after its opening bracket.  A closing bracket at the very start stands for
itself. -/
def readClass (flags : Flags) : Nat → List Char → Option (NestedSet × List Char)
  | 0, _ => none
  | fuel + 1, cs => do
      let cs := flags.skip cs
      let (negated, cs) :=
        match cs with
        | '^' :: rest => (true, flags.skip rest)
        | _ => (false, cs)
      let (hyphens, rest) := readHyphens flags cs.length {} cs
      let (start, rest) :=
        match hyphens.members, rest with
        | 0, ']' :: rest => (hyphens.add (CharSet.single ']').ranges 0, flags.skip rest)
        | _, rest => (hyphens, rest)
      let (inner, rest) ← readMembers flags fuel start none rest
      let set ← finishClass flags negated inner.set
      some (⟨set, inner.depth + 1⟩, rest)

/-- The members of a class up to its closing bracket: `union` is what has been
read since the last operation, `pending` that operation and its left side. -/
def readMembers (flags : Flags) :
    Nat → ClassUnion → Option (ClassOp × NestedSet) → List Char →
      Option (NestedSet × List Char)
  | 0, _, _, _ => none
  | fuel + 1, union, pending, cs =>
      let operation (op : ClassOp) (rest : List Char) :=
        readMembers flags fuel {} (some (op, applyOp flags pending union.finish)) rest
      match flags.skip cs with
      | [] => none
      | ']' :: rest => some (applyOp flags pending union.finish, rest)
      | '&' :: '&' :: rest => operation .inter rest
      | '-' :: '-' :: rest => operation .difference rest
      | '~' :: '~' :: rest => operation .symmetric rest
      | '[' :: rest =>
          match readPosix flags rest with
          | some (set, rest) => do
              let set ← set
              readMembers flags fuel (union.add set.ranges 0) pending rest
          | none => do
              let (inner, rest) ← readClass flags fuel rest
              readMembers flags fuel (union.add inner.set.ranges inner.depth) pending rest
      | c :: rest => do
          let (ranges, rest) ← readRange flags (c :: rest)
          readMembers flags fuel (union.add ranges 0) pending rest

end

/-! ## Expressions -/

/-- A part of a sequence: its expression and levels of nesting.  A setting of
flags is a part that cannot be repeated. -/
structure Part where
  expr : Pattern
  depth : Nat := 0
  repeatable : Bool := true

/-- A literal character, with its variants when case does not count. -/
def literalExpr (flags : Flags) (c : Char) (isByte : Bool) : Option Pattern :=
  if !flags.unicode && isByte && c.toNat ≥ 0x80 then none
  else some (.ofSet (foldClass flags (.single c)))

/-- Any character but the ends of lines, or any at all. -/
def dotClass (flags : Flags) : CharSet :=
  if flags.dotAll then .all
  else if flags.anyLineEnd then (CharSet.ofCharRanges [('\n', '\n'), ('\r', '\r')]).complement
  else (CharSet.single '\n').complement

def lineLook (flags : Flags) (atStart : Bool) : Look :=
  if !flags.multiLine then (if atStart then .textStart else .textEnd)
  else if flags.anyLineEnd then (if atStart then .anyLineStart else .anyLineEnd)
  else (if atStart then .lineStart else .lineEnd)

/-- A part that is neither a group nor a class. -/
def readPrimitive (flags : Flags) : List Char → Option (Part × List Char)
  | [] => none
  | '\\' :: rest => do
      let (escaped, rest) ← readEscape flags rest
      match escaped with
      | .literal c isByte => (literalExpr flags c isByte).map fun e => ({ expr := e }, rest)
      | .cls set => some ({ expr := .ofSet set }, rest)
      | .look l => some ({ expr := .atom (.look l) }, rest)
  | '.' :: rest => if flags.unicode then some ({ expr := .ofSet (dotClass flags) }, rest) else none
  | '^' :: rest => some ({ expr := .atom (.look (lineLook flags true)) }, rest)
  | '$' :: rest => some ({ expr := .atom (.look (lineLook flags false)) }, rest)
  | c :: rest => (literalExpr flags c false).map fun e => ({ expr := e }, rest)

/-- A sequence of parts, the last one first. -/
def sequence (parts : List Part) : Part :=
  match parts with
  | [] => { expr := .empty }
  | [p] => p
  | parts =>
      { expr := .ofParts (parts.reverse.map (·.expr))
        depth := parts.foldl (fun d p => Nat.max d p.depth) 0 + 1 }

/-- Alternatives, the last one first. -/
def alternatives (branches : List Part) : Part :=
  match branches with
  | [] => { expr := .empty }
  | [p] => p
  | branches =>
      { expr := .ofBranches (branches.reverse.map (·.expr))
        depth := branches.foldl (fun d p => Nat.max d p.depth) 0 + 1 }

/-- Repeat the last part of a sequence. -/
def repeatLast (parts : List Part) (min : Nat) (max : Option Nat) (greedy : Bool) :
    Option (List Part) :=
  match parts with
  | [] => none
  | p :: rest =>
      if p.repeatable then
        some ({ expr := .repeated p.expr min max greedy, depth := p.depth + 1 } :: rest)
      else none

/-- Does a repetition prefer many rounds?  A question mark behind it says the opposite
of what the flags say, which changes no answer. -/
def readGreed (flags : Flags) : List Char → Bool × List Char
  | '?' :: rest => (flags.swapGreed, rest)
  | cs => (!flags.swapGreed, cs)

/-- The greatest number of a repetition that can be written. -/
def maxCount : Nat := 4294967295

/-- A decimal number with blanks around it. -/
def readDecimal (flags : Flags) (cs : List Char) : Option (Nat × List Char) := do
  let cs := cs.dropWhile Text.isBlank
  let (digits, rest) := go (cs.length + 1) [] cs
  let rest := blanks (rest.length + 1) rest
  if digits.isEmpty then none
  else
    let n := digits.foldr (fun d n => n * 10 + (d.toNat - '0'.toNat)) 0
    if n ≤ maxCount then some (n, rest) else none
where
  go : Nat → List Char → List Char → List Char × List Char
    | 0, acc, cs => (acc, cs)
    | fuel + 1, acc, cs =>
        match cs with
        | c :: rest => if c.isDigit then go fuel (c :: acc) (flags.skip rest) else (acc, cs)
        | [] => (acc, [])
  blanks : Nat → List Char → List Char
    | 0, cs => cs
    | fuel + 1, cs =>
        match cs with
        | c :: rest => if Text.isBlank c then blanks fuel (flags.skip rest) else cs
        | [] => []

/-- The bounds of a counted repetition, after its opening brace. -/
def readBounds (flags : Flags) (cs : List Char) :
    Option (Nat × Option Nat × List Char) := do
  let (min, rest) ← readDecimal flags (flags.skip cs)
  let (max, rest) ←
    match rest with
    | ',' :: rest =>
        match flags.skip rest with
        | '\x7d' :: rest => some (none, '\x7d' :: rest)
        | rest => do
            let (max, rest) ← readDecimal flags rest
            some (some max, rest)
    | _ => some (some min, rest)
  match rest with
  | '\x7d' :: rest =>
      if max.any (· < min) then none else some (min, max, flags.skip rest)
  | _ => none

def Flags.switch? (flags : Flags) (letter : Char) (on : Bool) : Option Flags :=
  match letter with
  | 'i' => some { flags with caseless := on }
  | 'm' => some { flags with multiLine := on }
  | 's' => some { flags with dotAll := on }
  | 'u' => some { flags with unicode := on }
  | 'R' => some { flags with anyLineEnd := on }
  | 'x' => some { flags with verbose := on }
  | 'U' => some { flags with swapGreed := on }
  | _ => none

/-- Flags up to a colon or a closing bracket, which is left: each at most once, and
something behind a minus sign. -/
def readFlags (flags : Flags) (seen : List Char) :
    List Char → Option (Flags × List Char × List Char)
  | [] => none
  | c :: rest =>
      if c == ':' || c == ')' then
        if seen.head? == some '-' then none else some (flags, seen, c :: rest)
      else if seen.contains c then none
      else if c == '-' then readFlags flags (c :: seen) rest
      else
        match flags.switch? c (!seen.contains '-') with
        | some flags => readFlags flags (c :: seen) rest
        | none => none

def isNameStart (c : Char) : Bool := c == '_' || CharSet.nameLetters.contains c

def isNameChar (c : Char) : Bool :=
  isNameStart c || c == '.' || c == '[' || c == ']' || CharSet.nameNumbers.contains c

/-- The name of a group up to its closing angle bracket; not one in use. -/
def readGroupName (used : List (List Char)) (cs : List Char) :
    Option (List Char × List Char) :=
  let name := cs.takeWhile (· != '>')
  match cs.dropWhile (· != '>') with
  | '>' :: rest =>
      match name with
      | [] => none
      | c :: others =>
          if isNameStart c && others.all isNameChar && !used.contains name then some (name, rest)
          else none
  | _ => none

/-- How a group opens: with flags that are set from here on, as a group with flags of
its own, or as a group that is counted and perhaps has a name. -/
inductive Opening where
  | setting (flags : Flags)
  | plain (flags : Flags)
  | counted (name : Option (List Char))

def readOpening (flags : Flags) (used : List (List Char)) (cs : List Char) :
    Option (Opening × List Char) :=
  let named (rest : List Char) :=
    (readGroupName used rest).map fun (name, rest) => (Opening.counted (some name), rest)
  match flags.skip cs with
  | '?' :: '=' :: _ => none
  | '?' :: '!' :: _ => none
  | '?' :: '<' :: '=' :: _ => none
  | '?' :: '<' :: '!' :: _ => none
  | '?' :: 'P' :: '<' :: rest => named rest
  | '?' :: '<' :: rest => named rest
  | '?' :: rest => do
      let (inner, seen, rest) ← readFlags flags [] rest
      match rest with
      | ')' :: rest => if seen.isEmpty then none else some (.setting inner, rest)
      | _ => some (.plain inner, rest.drop 1)
  | rest => some (.counted none, rest)

/-- The state of a reader of expressions: what is unread, the flags, and the number
and the names of groups so far. -/
structure Cursor where
  unread : List Char
  flags : Flags := {}
  groups : Nat := 0
  names : List (List Char) := []

/-- The alternatives of a group up to its closing bracket, which is left, or the
end.  `parts` are those of the branch being read and `branches` the branches
before it, the last ones first. -/
def readBranches : Nat → List Part → List Part → Cursor → Option (Part × Cursor)
  | 0, _, _, _ => none
  | fuel + 1, parts, branches, cursor =>
      let flags := cursor.flags
      let finish (unread : List Char) : Option (Part × Cursor) :=
        some (alternatives (sequence parts :: branches), { cursor with unread })
      let repetition (min : Nat) (max : Option Nat) (rest : List Char) :
          Option (Part × Cursor) := do
        let (greedy, rest) := readGreed flags rest
        let parts ← repeatLast parts min max greedy
        readBranches fuel parts branches { cursor with unread := rest }
      let grouped (start : Cursor) (wrap : Pattern → Pattern) : Option (Part × Cursor) := do
        let (part, after) ← readBranches fuel [] [] start
        match after.unread with
        | ')' :: rest =>
            let part : Part := { expr := wrap part.expr, depth := part.depth + 1 }
            readBranches fuel (part :: parts) branches { after with unread := rest, flags }
        | _ => none
      match flags.skip cursor.unread with
      | [] => finish []
      | ')' :: rest => finish (')' :: rest)
      | '|' :: rest =>
          readBranches fuel [] (sequence parts :: branches) { cursor with unread := rest }
      | '(' :: rest => do
          let (opening, rest) ← readOpening flags cursor.names rest
          match opening with
          | .setting flags =>
              let part : Part := { expr := .empty, repeatable := false }
              readBranches fuel (part :: parts) branches { cursor with unread := rest, flags }
          | .plain inner => grouped { cursor with unread := rest, flags := inner } id
          | .counted name =>
              let index := cursor.groups + 1
              let start : Cursor :=
                { unread := rest, flags, groups := index, names := name.toList ++ cursor.names }
              grouped start (.group index)
      | '[' :: rest => do
          let (cls, rest) ← readClass flags (rest.length + 1) rest
          readBranches fuel ({ expr := .ofSet cls.set, depth := cls.depth } :: parts) branches
            { cursor with unread := rest }
      | '?' :: rest => repetition 0 (some 1) rest
      | '*' :: rest => repetition 0 none rest
      | '+' :: rest => repetition 1 none rest
      | '\x7b' :: rest => do
          let (min, max, rest) ← readBounds flags rest
          repetition min max rest
      | c :: rest => do
          let (part, rest) ← readPrimitive flags (c :: rest)
          readBranches fuel (part :: parts) branches { cursor with unread := rest }

/-- The deepest nesting of an expression. -/
def maxDepth : Nat := 250

end Regex

/-- A regular expression with the text it was read from. -/
structure Regex where
  source : String
  expr : Regex.Pattern

namespace Regex

def compile? (source : String) : Option Regex := do
  let cs := source.toList
  let (part, cursor) ← readBranches (2 * cs.length + 2) [] [] { unread := cs }
  if cursor.unread.isEmpty && part.depth ≤ maxDepth && part.expr.fits then
    some { source, expr := part.expr }
  else none

/-- Is there a match somewhere in the text? -/
def matchesIn (regex : Regex) (text : String) : Bool := regex.expr.matchesIn text.toList

end Regex

end PushGoals
