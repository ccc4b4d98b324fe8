/-!
# Blank characters and lines

`Text.isBlank` is the Unicode property White_Space: 25 characters, of which the
ASCII ones are the blank, the tab and the four line breaks after it.  `Text.trim`
cuts them off at both ends.  `Text.lines` takes a text apart at its line feeds.
-/

namespace PushGoals.Text

/-- The blank characters as ranges of code points, first and last. -/
def blankRanges : List (Nat × Nat) :=
  [(0x09, 0x0D), (0x20, 0x20), (0x85, 0x85), (0xA0, 0xA0), (0x1680, 0x1680),
   (0x2000, 0x200A), (0x2028, 0x2029), (0x202F, 0x202F), (0x205F, 0x205F), (0x3000, 0x3000)]

def isBlank (c : Char) : Bool :=
  blankRanges.any (fun r => r.1 ≤ c.toNat && c.toNat ≤ r.2)

def trimChars (cs : List Char) : List Char :=
  ((cs.dropWhile isBlank).reverse.dropWhile isBlank).reverse

/-- The text without blanks at its ends. -/
def trim (s : String) : String := String.ofList (trimChars s.toList)

/-- A line backwards without the carriage return at its end. -/
def dropReturn : List Char → List Char
  | '\r' :: rest => rest
  | line => line

/-- The lines of a text, of which `current` was read before, backwards.  Behind the last
line feed stands a line only if there is something. -/
def linesFrom (current : List Char) : List Char → List String
  | [] => if current.isEmpty then [] else [String.ofList current.reverse]
  | c :: rest =>
      if c == '\n' then String.ofList (dropReturn current).reverse :: linesFrom [] rest
      else linesFrom (c :: current) rest

def lines (text : String) : List String := linesFrom [] text.toList

end PushGoals.Text
