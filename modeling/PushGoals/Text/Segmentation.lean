import PushGoals.Text.Property
import PushGoals.Text.Script

/-!
# Segmentation

What a character means for the places where a text divides into the characters
that users see (`CharSet.ofGraphemeBreak?`), words (`CharSet.ofWordBreak?`) and
sentences (`CharSet.ofSentenceBreak?`).  The sets are those of Unicode 16; a
character in none of them has the value `Other`, which is not asked for.
-/

namespace PushGoals.Text.CharSet

/-- The values that all three properties have with the same characters. -/
def ofCommonBreak? : String → Option CharSet
  | "CR" => some (.single '\r')
  | "LF" => some (.single '\n')
  | _ => none

/-- Characters that extend others: marks and the like, and modifiers of emoji. -/
def extenders : CharSet :=
  graphemeExtend.union (ofListedProperty "Emoji_Modifier")

def joiner : CharSet := .ofTable ["200D"]

def hangulSyllables : CharSet := .ofTable ["AC00-D7A3"]

/-- Hangul syllables without a final consonant: the first of every 28. -/
def openSyllables : CharSet :=
  ⟨(List.range 399).map fun i => ⟨0xAC00 + 28 * i, 0xAC00 + 28 * i⟩⟩

def ofGraphemeBreak? : String → Option CharSet
  | "Control" =>
      some ((unionAll
        [ofCategories ["Cc", "Cf", "Zl", "Zp"],
         (ofCategory "Cn").inter defaultIgnorable]).difference
        (.ofTable ["A D 600-605 6DD 70F 890-891 8E2 200C-200D 110BD 110CD E0020-E007F"]))
  | "Extend" => some extenders
  | "L" => some (.ofTable ["1100-115F A960-A97C"])
  | "LV" => some openSyllables
  | "LVT" => some (hangulSyllables.difference openSyllables)
  | "Prepend" =>
      some (.ofTable
        ["600-605 6DD 70F 890-891 8E2 D4E 110BD 110CD 111C2-111C3 113D1 1193F 11941 11A3A",
         "11A84-11A89 11D46 11F02"])
  | "Regional_Indicator" => some (ofListedProperty "Regional_Indicator")
  | "SpacingMark" =>
      some ((((ofCategory "Mc").difference extenders).difference
        (.ofTable
          ["102B-102C 1038 1062-1064 1067-106D 1083 1087-108C 108F 109A-109C 1A61 1A63-1A64",
           "AA7B AA7D 11720-11721"])).union (.ofTable ["E33 EB3"]))
  | "T" => some (.ofTable ["11A8-11FF D7CB-D7FB"])
  | "V" => some (.ofTable ["1160-11A7 D7B0-D7C6 16D63 16D67-16D6A"])
  | "ZWJ" => some joiner
  | value => ofCommonBreak? value

/-- Katakana and the signs used with them. -/
def katakana : CharSet :=
  (ofScript "Katakana").union (.ofTable ["3031-3035 309B-309C 30A0 30FC FF70"])

def hebrewLetters : CharSet := (ofScript "Hebrew").inter (ofCategory "Lo")

/-- Extenders and marks with a width. -/
def wordExtend : CharSet := extenders.union (ofCategory "Mc")

/-- Letters of words that blanks divide, unlike those of South East Asia. -/
def wordLetters : CharSet :=
  ((alphabetic.difference
      (unionAll
        [ofListedProperty "Ideographic", katakana, hebrewLetters, wordExtend,
         ofScript "Hiragana"])).difference
    (.ofTable
      ["E01-E30 E32-E33 E40-E46 E81-E82 E84 E86-E8A E8C-EA3 EA5 EA7-EB0 EB2-EB3 EBD EC0-EC4",
       "EC6 EDC-EDF 1000-102A 103F 1050-1055 105A-105D 1061 1065-1066 106E-1070 1075-1081",
       "108E 1780-17B3 17D7 17DC 1950-196D 1970-1974 1980-19AB 19B0-19C9 1A20-1A54 1AA7",
       "A9E0-A9E4 A9E6-A9EF A9FA-A9FE AA60-AA76 AA7A AA7E-AAAF AAB1 AAB5-AAB6 AAB9-AABD",
       "AAC0 AAC2 AADB-AADD 11700-1171A 11740-11746"])).union
    (.ofTable
      ["2C2-2C5 2D2-2D7 2DE-2DF 2E5-2EB 2ED 2EF-2FF 55A-55C 55E 58A 5F3 70F A708-A716",
       "A720-A721 A789-A78A AB5B"])

/-- Digits and signs for numbers. -/
def wordNumeric : CharSet :=
  (ofCategory "Nd").union (.ofTable ["600-605 66B 6DD 890-891 8E2 19DA 110BD 110CD"])

def ofWordBreak? : String → Option CharSet
  | "ALetter" => some wordLetters
  | "Double_Quote" => some (.single '\x22')
  | "Extend" => some wordExtend
  | "ExtendNumLet" => some ((ofCategory "Pc").union (.ofTable ["202F"]))
  | "Format" =>
      some ((ofCategory "Cf").difference
        (.ofTable ["600-605 6DD 70F 890-891 8E2 200B-200D 110BD 110CD E0020-E007F"]))
  | "Hebrew_Letter" => some hebrewLetters
  | "Katakana" => some katakana
  | "MidLetter" => some (.ofTable ["3A B7 387 55F 5F4 2027 FE13 FE55 FF1A"])
  | "MidNum" => some (.ofTable ["2C 3B 37E 589 60C-60D 66C 7F8 2044 FE50 FE54 FF0C FF1B"])
  | "MidNumLet" => some (.ofTable ["2E 2018-2019 2024 FE52 FF07 FF0E"])
  | "Newline" => some (.ofTable ["B-C 85 2028-2029"])
  | "Numeric" => some wordNumeric
  | "Regional_Indicator" => some (ofListedProperty "Regional_Indicator")
  | "Single_Quote" => some (.single '\x27')
  | "WSegSpace" => some ((ofCategory "Zs").difference (.ofTable ["A0 2007 202F"]))
  | "ZWJ" => some joiner
  | value => ofCommonBreak? value

/-- Lower-case letters of sentences. -/
def sentenceLower : CharSet := lowercase.difference (.ofTable ["345 10D0-10FA 10FD-10FF"])

/-- Upper-case letters of sentences. -/
def sentenceUpper : CharSet :=
  (uppercase.union (ofCategory "Lt")).difference (.ofTable ["1C90-1CBA 1CBD-1CBF"])

def sentenceExtend : CharSet := unionAll [graphemeExtend, ofCategory "Mc", joiner]

/-- Full stops, which may also stand within a sentence. -/
def fullStops : CharSet := .ofTable ["2E 2024 FE52 FF0E"]

def ofSentenceBreak? : String → Option CharSet
  | "ATerm" => some fullStops
  | "Close" =>
      some (((ofCategories ["Ps", "Pe", "Pi", "Pf"]).union
        (ofListedProperty "Quotation_Mark")).difference (.ofTable ["FF02 FF07"])
          |>.union (.ofTable ["275B-2760 2E00-2E01 2E06-2E08 2E0B 1F676-1F678"]))
  | "Extend" => some sentenceExtend
  | "Format" =>
      some ((ofCategory "Cf").difference
        (.ofTable ["600-605 6DD 890-891 8E2 200C-200D 110BD 110CD E0020-E007F"]))
  | "Lower" => some sentenceLower
  | "Numeric" => some (wordNumeric.union (.ofTable ["66C"]))
  | "OLetter" =>
      some ((alphabetic.difference
        (unionAll [sentenceLower, sentenceUpper, sentenceExtend])).union (.ofTable ["5F3"]))
  | "SContinue" =>
      some (.ofTable
        ["2C-2D 3A-3B 37E 55D 60C-60D 7F8 1802 1808 2013-2014 3001 FE10-FE11 FE13-FE14",
         "FE31-FE32 FE50-FE51 FE54-FE55 FE58 FE63 FF0C-FF0D FF1A-FF1B FF64"])
  | "STerm" => some ((ofListedProperty "Sentence_Terminal").difference fullStops)
  | "Sep" => some (.ofTable ["85 2028-2029"])
  | "Sp" => some (whiteSpace.difference (.ofTable ["A D 85 2028-2029"]))
  | "Upper" => some sentenceUpper
  | value => ofCommonBreak? value

end PushGoals.Text.CharSet
