import PushGoals.Text.Blank
import PushGoals.Text.Property

/-!
# Character classes

The sets of characters that expressions have short names for: the classes of
POSIX, which are ASCII, and digits, blanks and characters of words.
-/

namespace PushGoals.Regex

open Text (CharSet)

/-- The classes of ASCII characters that go by a name. -/
def posixClass? : String → Option CharSet
  | "alnum" => some (.ofCharRanges [('0', '9'), ('A', 'Z'), ('a', 'z')])
  | "alpha" => some (.ofCharRanges [('A', 'Z'), ('a', 'z')])
  | "ascii" => some (.ofCharRanges [('\x00', '\x7f')])
  | "blank" => some (.ofCharRanges [('\t', '\t'), (' ', ' ')])
  | "cntrl" => some (.ofCharRanges [('\x00', '\x1f'), ('\x7f', '\x7f')])
  | "digit" => some (.ofCharRanges [('0', '9')])
  | "graph" => some (.ofCharRanges [('!', '~')])
  | "lower" => some (.ofCharRanges [('a', 'z')])
  | "print" => some (.ofCharRanges [(' ', '~')])
  | "punct" => some (.ofCharRanges [('!', '/'), (':', '@'), ('[', '\x60'), ('\x7b', '~')])
  | "space" => some (.ofCharRanges [('\t', '\r'), (' ', ' ')])
  | "upper" => some (.ofCharRanges [('A', 'Z')])
  | "word" => some (.ofCharRanges [('0', '9'), ('A', 'Z'), ('_', '_'), ('a', 'z')])
  | "xdigit" => some (.ofCharRanges [('0', '9'), ('A', 'F'), ('a', 'f')])
  | _ => none

def digits : CharSet := .ofCategory "Nd"

/-- Characters of words: letters, marks, digits, connecting punctuation and the signs
that join letters or keep them apart. -/
def wordChars : CharSet :=
  .unionAll
    [.alphabetic, .ofCategories ["M", "Nd", "Pc"], .ofListedProperty "Join_Control"]

def asciiWordChars : CharSet :=
  .ofCharRanges [('0', '9'), ('A', 'Z'), ('_', '_'), ('a', 'z')]

/-- Digits, blanks and characters of words, in all of Unicode or in ASCII. -/
def shorthandClass (unicode : Bool) (letter : Char) : CharSet :=
  match letter with
  | 'd' => if unicode then digits else .ofCharRanges [('0', '9')]
  | 's' => if unicode then .whiteSpace else .ofCharRanges [('\t', '\r'), (' ', ' ')]
  | _ => if unicode then wordChars else asciiWordChars

/-- The letters of a range of ASCII letters, moved to the range that begins at
`first`. -/
def moveLetters (s : CharSet) (range : Text.CharRange) (first : Nat) : List Text.CharRange :=
  (s.inter ⟨[range]⟩).ranges.map fun r =>
    ⟨r.first - range.first + first, r.last - range.first + first⟩

/-- The characters that are in a set in upper or in lower case, for ASCII letters. -/
def asciiFolded (s : CharSet) : CharSet :=
  .ofRanges (s.ranges ++ moveLetters s ⟨0x41, 0x5A⟩ 0x61 ++ moveLetters s ⟨0x61, 0x7A⟩ 0x41)

end PushGoals.Regex
