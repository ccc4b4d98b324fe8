/-!
# Sets of characters

A set of characters is a list of ranges of code points, in ascending order, that
neither overlap nor touch (`CharSet.ofRanges` brings any ranges into that form).
`CharSet.contains` is membership; the operations mean on sets what their names
say.

Surrogates are code points but no characters: the one after U+D7FF is U+E000.
Ranges may run across them.
-/

namespace PushGoals.Text

/-- The characters from one code point to another, both included. -/
structure CharRange where
  first : Nat
  last : Nat
deriving DecidableEq, Repr, Inhabited

namespace CharRange

def holds (r : CharRange) (n : Nat) : Bool := r.first ≤ n && n ≤ r.last

/-- The range between two code points, whichever is the lesser. -/
def between (m n : Nat) : CharRange := ⟨min m n, max m n⟩

end CharRange

structure CharSet where
  ranges : List CharRange
deriving DecidableEq, Repr, Inhabited

def maxCodePoint : Nat := 0x10FFFF

/-- The code point of the next character. -/
def nextCodePoint (n : Nat) : Nat := if n = 0xD7FF then 0xE000 else n + 1

/-- The code point of the character before. -/
def priorCodePoint (n : Nat) : Nat := if n = 0xE000 then 0xD7FF else n - 1

namespace CharSet

def empty : CharSet := ⟨[]⟩

def all : CharSet := ⟨[⟨0, maxCodePoint⟩]⟩

def contains (s : CharSet) (c : Char) : Bool := s.ranges.any (·.holds c.toNat)

@[simp] theorem contains_empty (c : Char) : empty.contains c = false := rfl

def isAscii (s : CharSet) : Bool := s.ranges.all (·.last ≤ 0x7F)

/-- The character of a set of one. -/
def single? (s : CharSet) : Option Char :=
  match s.ranges with
  | [r] => if r.first = r.last then some (Char.ofNat r.first) else none
  | _ => none

/-- Put ascending ranges together where they overlap or touch. -/
def join : List CharRange → List CharRange
  | [] => []
  | r :: rest => go r rest
where
  go (current : CharRange) : List CharRange → List CharRange
    | [] => [current]
    | r :: rest =>
        if r.first ≤ current.last + 1 then go ⟨current.first, max current.last r.last⟩ rest
        else current :: go r rest

theorem any_join_go (n : Nat) (current : CharRange) (ranges : List CharRange)
    (h : (current :: ranges).Pairwise (·.first ≤ ·.first)) :
    (join.go current ranges).any (·.holds n) =
      (current.holds n || ranges.any (·.holds n)) := by
  induction ranges generalizing current with
  | nil => simp [join.go]
  | cons r rest ih =>
    simp only [List.pairwise_cons, List.mem_cons, forall_eq_or_imp] at h
    obtain ⟨⟨hr, hcurrent⟩, hrest, hpairs⟩ := h
    simp only [join.go]
    split
    next hle =>
      rw [ih _ (by simpa using ⟨hcurrent, hpairs⟩), List.any_cons, ← Bool.or_assoc]
      congr 1
      rw [Bool.eq_iff_iff]
      simp only [CharRange.holds, Bool.and_eq_true, Bool.or_eq_true, decide_eq_true_eq]
      omega
    next =>
      rw [List.any_cons, ih r (by simpa using ⟨hrest, hpairs⟩), List.any_cons]

/-- The characters of any ranges. -/
def ofRanges (ranges : List CharRange) : CharSet :=
  ⟨join (ranges.mergeSort (fun a b => a.first ≤ b.first))⟩

@[simp] theorem contains_ofRanges (ranges : List CharRange) (c : Char) :
    (ofRanges ranges).contains c = ranges.any (·.holds c.toNat) := by
  have hsorted :=
    @List.pairwise_mergeSort CharRange (fun a b => a.first ≤ b.first)
      (by simp only [decide_eq_true_eq]; omega)
      (by simp only [Bool.or_eq_true, decide_eq_true_eq]; omega) ranges
  have hmem := List.mergeSort_perm ranges (fun a b : CharRange => a.first ≤ b.first)
  unfold ofRanges contains
  generalize ranges.mergeSort (fun a b : CharRange => a.first ≤ b.first) = sorted at hsorted hmem
  rw [← hmem.any_eq]
  cases sorted with
  | nil => rfl
  | cons r rest => simpa [join] using any_join_go c.toNat r rest (by simpa using hsorted)

def single (c : Char) : CharSet := ⟨[⟨c.toNat, c.toNat⟩]⟩

@[simp] theorem contains_single (a c : Char) : (single a).contains c = (a == c) := by
  rw [Bool.eq_iff_iff]
  simp only [single, contains, CharRange.holds, List.any_cons, List.any_nil, Bool.or_false,
    Bool.and_eq_true, decide_eq_true_eq, beq_iff_eq, Char.ext_iff, ← UInt32.toNat_inj, Char.toNat]
  omega

/-- The characters of the listed ranges. -/
def ofCharRanges (ranges : List (Char × Char)) : CharSet :=
  ofRanges (ranges.map fun r => ⟨r.1.toNat, r.2.toNat⟩)

def union (a b : CharSet) : CharSet := ofRanges (a.ranges ++ b.ranges)

@[simp] theorem contains_union (a b : CharSet) (c : Char) :
    (a.union b).contains c = (a.contains c || b.contains c) := by
  rw [union, contains_ofRanges, List.any_append]
  rfl

def unionAll (sets : List CharSet) : CharSet := ofRanges (sets.flatMap (·.ranges))

/-- The common parts of two ascending lists of ranges. -/
def overlaps : List CharRange → List CharRange → List CharRange
  | a :: as, b :: bs =>
      let first := max a.first b.first
      let last := min a.last b.last
      let rest := if a.last < b.last then overlaps as (b :: bs) else overlaps (a :: as) bs
      if first ≤ last then ⟨first, last⟩ :: rest else rest
  | _, _ => []
termination_by as bs => as.length + bs.length

def inter (a b : CharSet) : CharSet := ⟨overlaps a.ranges b.ranges⟩

/-- What lies between ascending ranges and beyond them, each from the character
after one range to the character before the next. -/
def gaps : List CharRange → List CharRange
  | [] => [⟨0, maxCodePoint⟩]
  | r :: rest =>
      if r.first = 0 then go r rest else ⟨0, priorCodePoint r.first⟩ :: go r rest
where
  go (r : CharRange) : List CharRange → List CharRange
    | [] => if r.last < maxCodePoint then [⟨nextCodePoint r.last, maxCodePoint⟩] else []
    | next :: rest => ⟨nextCodePoint r.last, priorCodePoint next.first⟩ :: go next rest

def difference (a b : CharSet) : CharSet :=
  ⟨overlaps a.ranges ((gaps b.ranges).filter (fun r => r.first ≤ r.last))⟩

/-- The characters in one of the two sets only. -/
def symmetric (a b : CharSet) : CharSet := (a.union b).difference (a.inter b)

/-- The characters outside of the set.  Where one range ends right before the
surrogates and the next begins right behind them, the gap without a character
counts both of its ends. -/
def complement (s : CharSet) : CharSet :=
  ⟨(gaps s.ranges).map fun r => .between r.first r.last⟩

end CharSet

end PushGoals.Text
