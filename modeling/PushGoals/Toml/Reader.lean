import PushGoals.Toml.Scalar
import PushGoals.Toml.Table

/-!
# Reading TOML

`Toml.parse` reads a whole document of TOML 1.0 as an object.  Arrays and inline
tables may be nested 79 levels deep, and a key may have as many parts.

The readers of nested values carry the number of steps they may still take; each
step consumes a character.
-/

namespace PushGoals.Toml

/-- The deepest nesting of values, and the most parts of a key. -/
def maxDepth : Nat := 79

/-- A comment up to the end of its line; other characters are left alone.  `none`
is a comment with a character that comments cannot hold. -/
def skipComment? (cs : List Char) : Option (List Char) :=
  match cs with
  | '#' :: rest =>
      let after := rest.dropWhile isCommentChar
      match after with
      | [] => some []
      | _ => if (newline? after).isSome then some after else none
  | cs => some cs

/-- Blanks, comments and line breaks, as between the items of an array. -/
def skipBetween : Nat → List Char → Option (List Char)
  | 0, _ => none
  | fuel + 1, cs => do
      let cs ← skipComment? (skipSpace cs)
      match newline? cs with
      | some rest => skipBetween fuel rest
      | none => some cs

/-- What follows an entry on its line: nothing but a comment. -/
def finishLine? (cs : List Char) : Option (List Char) := do
  let cs ← skipComment? (skipSpace cs)
  match cs with
  | [] => some []
  | cs => newline? cs

/-! ## Keys -/

def isBareChar (c : Char) : Bool := c.isAlphanum || c == '-' || c == '_'

/-- One part of a key: bare, or a string of one line. -/
def readKeyPart (cs : List Char) : Option (String × List Char) :=
  match cs with
  | '"' :: rest => readBasic [] (cs.length + 1) rest
  | '\x27' :: rest => readLiteral [] rest
  | cs =>
      let bare := cs.takeWhile isBareChar
      if bare.isEmpty then none else some (String.ofList bare, cs.drop bare.length)

/-- The parts of a key, the last one first. -/
def readKeyParts (acc : List String) : Nat → List Char → Option (List String × List Char)
  | 0, _ => none
  | fuel + 1, cs => do
      let (part, rest) ← readKeyPart (skipSpace cs)
      match skipSpace rest with
      | '.' :: rest => readKeyParts (part :: acc) fuel rest
      | rest => some (part :: acc, rest)

/-- A key: the way to its last part, and that part. -/
def readKey (cs : List Char) : Option (List String × String × List Char) := do
  match ← readKeyParts [] (cs.length + 1) cs with
  | (last :: before, rest) =>
      if before.length < maxDepth then some (before.reverse, last, rest) else none
  | ([], _) => none

/-! ## Values -/

mutual

def readValue : Nat → Nat → List Char → Option (Value × List Char)
  | 0, _, _ => none
  | fuel + 1, depth, cs =>
      match cs with
      | '[' :: rest => if depth = 0 then none else readItems fuel (depth - 1) [] rest
      | '\x7b' :: rest =>
          if depth = 0 then none
          else
            match skipSpace rest with
            | '\x7d' :: rest => some (.object [], rest)
            | rest => readPairs fuel (depth - 1) [] rest
      | cs => readScalar cs

/-- The items of an array up to its closing bracket; a comma may follow the last. -/
def readItems : Nat → Nat → List Value → List Char → Option (Value × List Char)
  | 0, _, _, _ => none
  | fuel + 1, depth, acc, cs => do
      let cs ← skipBetween (cs.length + 1) cs
      match cs with
      | ']' :: rest => some (.array acc.reverse, rest)
      | cs => do
          let (v, rest) ← readValue fuel depth cs
          match ← skipBetween (rest.length + 1) rest with
          | ',' :: rest => readItems fuel depth (v :: acc) rest
          | ']' :: rest => some (.array (v :: acc).reverse, rest)
          | _ => none

/-- The pairs of an inline table up to its closing brace, all on one line. -/
def readPairs : Nat → Nat → Entries → List Char → Option (Value × List Char)
  | 0, _, _, _ => none
  | fuel + 1, depth, entries, cs => do
      let (path, key, rest) ← readKey cs
      match rest with
      | '=' :: rest => do
          let (v, rest) ← readValue fuel depth (skipSpace rest)
          let entries ← entries.addValue path key v
          match skipSpace rest with
          | ',' :: rest => readPairs fuel depth entries rest
          | '\x7d' :: rest => some (.object (toFields entries), rest)
          | _ => none
      | _ => none

end

/-! ## Documents -/

/-- A document so far: all entries, and the way to the table that is open. -/
structure Draft where
  entries : Entries := []
  here : List String := []

def Draft.addValue (draft : Draft) (path : List String) (key : String) (v : Value) :
    Option Draft := do
  let entries ←
    Entries.modifyAt .passing (fun _ entries => entries.addValue path key v) draft.here .header
      draft.entries
  some { draft with entries }

def readEntry (draft : Draft) (cs : List Char) : Option (Draft × List Char) := do
  let (path, key, rest) ← readKey cs
  match rest with
  | '=' :: rest =>
      let (v, rest) ← readValue (2 * rest.length + 2) maxDepth (skipSpace rest)
      let rest ← finishLine? rest
      let draft ← draft.addValue path key v
      some (draft, rest)
  | _ => none

/-- A header, after its first bracket. -/
def readHeader (draft : Draft) (cs : List Char) : Option (Draft × List Char) := do
  match cs with
  | '[' :: rest =>
      let (path, key, rest) ← readKey rest
      match rest with
      | ']' :: ']' :: rest =>
          let rest ← finishLine? rest
          let entries ← draft.entries.appendTable path key
          some ({ entries, here := path ++ [key] }, rest)
      | _ => none
  | cs =>
      let (path, key, rest) ← readKey cs
      match rest with
      | ']' :: rest =>
          let rest ← finishLine? rest
          let entries ← draft.entries.openTable path key
          some ({ entries, here := path ++ [key] }, rest)
      | _ => none

def readLines : Nat → Draft → List Char → Option Draft
  | 0, _, _ => none
  | fuel + 1, draft, cs =>
      match skipSpace cs with
      | [] => some draft
      | '#' :: rest => do
          let rest ← finishLine? ('#' :: rest)
          readLines fuel draft rest
      | '[' :: rest => do
          let (draft, rest) ← readHeader draft rest
          readLines fuel draft rest
      | cs =>
          match newline? cs with
          | some rest => readLines fuel draft rest
          | none => do
              let (draft, rest) ← readEntry draft cs
              readLines fuel draft rest

/-- A mark of the byte order at the very start does not count. -/
def skipMark : List Char → List Char
  | '\ufeff' :: rest => rest
  | cs => cs

def parse (text : String) : Option Value := do
  let cs := skipMark text.toList
  let draft ← readLines (cs.length + 1) {} cs
  some (.object (toFields draft.entries))

end PushGoals.Toml
