import PushGoals.Text.CharSet
import PushGoals.Regex.Expr

/-!
# Characters as bytes

A range of characters takes up several sequences of ranges of bytes in UTF-8, such
that a character is in the range exactly when its bytes are, one by one, in the
ranges of a sequence.  `byteSequences` lists them for a set, in the order of
characters, and `ByteTree.ofSequences` puts those together that begin alike.
-/

namespace PushGoals.Regex

open Text (CharRange CharSet)

/-- The bytes from one to another, both included. -/
structure ByteRange where
  first : Nat
  last : Nat
deriving DecidableEq, Repr, Inhabited

/-- The stretches of code points whose characters have the same number of bytes;
surrogates are none. -/
def equalLengths : List CharRange :=
  [⟨0, 0x7F⟩, ⟨0x80, 0x7FF⟩, ⟨0x800, 0xD7FF⟩, ⟨0xE000, 0xFFFF⟩, ⟨0x10000, 0x10FFFF⟩]

/-- Cut a range of more than one block of `size` into what it holds of the first block,
whole blocks, and what it holds of the last.  Whole blocks are cut into larger ones
by `more`. -/
def cutBlocks (more : CharRange → List CharRange) (size : Nat) (r : CharRange) :
    List CharRange :=
  if r.first / size = r.last / size then [r]
  else
    let first := if r.first % size = 0 then r.first else (r.first / size + 1) * size
    let next := if r.last % size = size - 1 then r.last + 1 else r.last / size * size
    (if r.first < first then [⟨r.first, first - 1⟩] else []) ++
      (if first < next then more ⟨first, next - 1⟩ else []) ++
      (if next ≤ r.last then [⟨next, r.last⟩] else [])

/-- Cut a range into parts that are either the whole of some blocks or within one,
for blocks of one, two and three bytes that follow the first. -/
def cutRange (r : CharRange) : List CharRange :=
  if r.last < 0x80 then [r]
  else cutBlocks (cutBlocks (cutBlocks (fun r => [r]) 0x40000) 0x1000) 0x40 r

def utf8Bytes (length n : Nat) : List Nat :=
  let follow (shift : Nat) : Nat := 0x80 + (n >>> shift) % 0x40
  match length with
  | 1 => [n]
  | 2 => [0xC0 + n / 0x40, follow 0]
  | 3 => [0xE0 + n / 0x1000, follow 6, follow 0]
  | _ => [0xF0 + n / 0x40000, follow 12, follow 6, follow 0]

/-- The bytes of a range whose ends differ in bytes that are free. -/
def byteRanges (r : CharRange) : List ByteRange :=
  let length := utf8Length r.first
  ((utf8Bytes length r.first).zip (utf8Bytes length r.last)).map fun b => ⟨b.1, b.2⟩

def byteSequences (set : CharSet) : List (List ByteRange) :=
  set.ranges.flatMap fun r =>
    ((CharSet.overlaps [r] equalLengths).flatMap cutRange).map byteRanges

/-- Sequences of ranges that begin alike.  The ends of sequences are `none`; `edge`
has a range, how the sequences go on that begin with it, and the other ranges at
this place. -/
inductive ByteTree where
  | none
  | edge (range : ByteRange) (child next : ByteTree)

namespace ByteTree

/-- Add a sequence before all others. -/
def insertFirst : List ByteRange → ByteTree → ByteTree
  | [], tree => tree
  | r :: rs, none => edge r (insertFirst rs none) none
  | r :: rs, edge range child next =>
      if r = range then edge range (insertFirst rs child) next
      else edge r (insertFirst rs none) (edge range child next)

def ofSequences (sequences : List (List ByteRange)) : ByteTree :=
  sequences.foldr insertFirst none

end ByteTree

end PushGoals.Regex
