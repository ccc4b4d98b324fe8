import PushGoals.Text.Property

/-!
# Visible characters

A character is hidden when a text that holds it would not show it as itself: it is
blank or has no meaning, it merges with the character before it, or it has no
form.  These sets, and the letters and numbers that names are made of, are those
of Unicode 17: the sets of Unicode 16 with the characters added since.
-/

namespace PushGoals.Text

namespace CharSet

/-- Letters that Unicode 17 adds. -/
def addedLetters : CharSet :=
  .ofTable
    ["88F C5C CDC A7CE-A7CF A7D2 A7D4 A7F1 10940-10959 10EC5-10EC7 10EFA-10EFB 11B60-11B67",
     "11DB0-11DDB 16EA0-16EB8 16EBB-16ED3 16FF2-16FF6 187F8-187FF 18D09-18D1E 18D80-18DF2",
     "1E6C0-1E6DE 1E6E0-1E6F5 1E6FE-1E6FF 2B73A-2B73F 2CEA2-2CEAD 323B0-33479"]

/-- Numbers that Unicode 17 adds. -/
def addedNumbers : CharSet := .ofTable ["11DE0-11DE9 16FF4-16FF6"]

/-- Characters that Unicode 17 adds and that extend others. -/
def addedExtenders : CharSet :=
  .ofTable
    ["1ACF-1ADD 1AE0-1AEB 10EFA-10EFB 11B60 11B62-11B64 11B66 1E6E3 1E6E6 1E6EE-1E6EF 1E6F5"]

/-- Signs and marks that Unicode 17 adds. -/
def addedSigns : CharSet :=
  .ofTable
    ["1ACF-1ADD 1AE0-1AEB 20C1 2B96 FBC3-FBD2 FD90-FD91 FDC8-FDCE 10ED0-10ED8 1CCFA-1CCFC",
     "1CEBA-1CED0 1CEE0-1CEF0 1F6D8 1F777-1F77A 1F8D0-1F8D8 1FA54-1FA57 1FA8A 1FA8E 1FAC8",
     "1FACD 1FAEA 1FAEF 1FBFA"]

/-- Letters and what counts as letters in names. -/
def nameLetters : CharSet := alphabetic.union addedLetters

def nameNumbers : CharSet := (ofCategory "N").union addedNumbers

/-- Blank characters but for the space, and characters without a meaning. -/
def unprintable : CharSet :=
  (ofCategories ["C", "Z"]).difference
    (unionAll [single ' ', addedLetters, addedNumbers, addedSigns])

/-- Characters that are not shown as themselves: besides those that cannot be
printed the ones that extend others, halfwidth letters excepted, and letters
that fill a place. -/
def hidden : CharSet :=
  unionAll
    [unprintable, addedExtenders, graphemeExtend.difference (.ofTable ["FF9E-FF9F"]),
     .ofTable ["115F-1160 3164 FFA0"]]

end CharSet

def isVisible (c : Char) : Bool := !CharSet.hidden.contains c

end PushGoals.Text
