import PushGoals.Value

/-!
# Scalars of TOML

Strings, numbers, booleans and dates as TOML 1.0 writes them.  A date, a time, an
infinity and the value that is no number are foreign scalars: they are well
formed, but nothing is decoded from them.

Each reader takes the characters from its position on and gives back those that
follow.
-/

namespace PushGoals.Toml

/-- Blanks within a line. -/
def isSpace (c : Char) : Bool := c == ' ' || c == '\t'

def skipSpace (cs : List Char) : List Char := cs.dropWhile isSpace

/-- The characters after a line break, if there is one. -/
def newline? : List Char → Option (List Char)
  | '\n' :: rest => some rest
  | '\r' :: '\n' :: rest => some rest
  | _ => none

/-- May a comment hold this character? -/
def isCommentChar (c : Char) : Bool := c == '\t' || (0x20 ≤ c.toNat && c.toNat != 0x7F)

/-- May a string within a line hold this character unescaped, quotes and
backslashes apart? -/
def isPlainChar (c : Char) : Bool := isCommentChar c

/-! ## Strings -/

def hexDigit? (c : Char) : Option Nat :=
  if c.isDigit then some (c.toNat - '0'.toNat)
  else if 'a' ≤ c ∧ c ≤ 'f' then some (c.toNat - 'a'.toNat + 10)
  else if 'A' ≤ c ∧ c ≤ 'F' then some (c.toNat - 'A'.toNat + 10)
  else none

/-- The character of `count` hexadecimal digits; no surrogate. -/
def readCode (count : Nat) (cs : List Char) : Option (Char × List Char) := do
  let digits := cs.take count
  if digits.length < count then none
  else
    let values ← digits.mapM hexDigit?
    let n := values.foldl (fun n d => n * 16 + d) 0
    if n < 0xD800 || (0xDFFF < n && n ≤ 0x10FFFF) then some (Char.ofNat n, cs.drop count)
    else none

/-- An escape, after its backslash. -/
def readEscape : List Char → Option (Char × List Char)
  | 'b' :: rest => some ('\x08', rest)
  | 't' :: rest => some ('\t', rest)
  | 'n' :: rest => some ('\n', rest)
  | 'f' :: rest => some ('\x0c', rest)
  | 'r' :: rest => some ('\r', rest)
  | '"' :: rest => some ('"', rest)
  | '\\' :: rest => some ('\\', rest)
  | 'u' :: rest => readCode 4 rest
  | 'U' :: rest => readCode 8 rest
  | _ => none

/-- A basic string of one line, after its opening quote. -/
def readBasic (acc : List Char) : Nat → List Char → Option (String × List Char)
  | 0, _ => none
  | fuel + 1, cs =>
      match cs with
      | [] => none
      | '"' :: rest => some (String.ofList acc.reverse, rest)
      | '\\' :: rest => do
          let (c, rest) ← readEscape rest
          readBasic (c :: acc) fuel rest
      | c :: rest => if isPlainChar c then readBasic (c :: acc) fuel rest else none

/-- A literal string of one line, after its opening quote. -/
def readLiteral (acc : List Char) : List Char → Option (String × List Char)
  | [] => none
  | '\x27' :: rest => some (String.ofList acc.reverse, rest)
  | c :: rest => if isPlainChar c then readLiteral (c :: acc) rest else none

/-- Up to five quotes in a row: those beyond the last three belong to the text.
`none` when there are fewer than three. -/
def closing? (quote : Char) (cs : List Char) : Option (List Char × List Char) :=
  let count := Nat.min (cs.takeWhile (· == quote)).length 5
  if count < 3 then none else some (List.replicate (count - 3) quote, cs.drop count)

/-- The characters after the blanks and line breaks that follow a backslash at the
end of a line. -/
def skipFolded? (cs : List Char) : Option (List Char) := do
  let rest ← newline? (skipSpace cs)
  some (go (rest.length + 1) rest)
where
  go : Nat → List Char → List Char
    | 0, cs => cs
    | fuel + 1, cs =>
        match newline? (skipSpace cs) with
        | some rest => go fuel rest
        | none => skipSpace cs

/-- A basic string of several lines, after its opening quotes.  Line breaks become
line feeds. -/
def readBasicLines (acc : List Char) : Nat → List Char → Option (String × List Char)
  | 0, _ => none
  | fuel + 1, cs =>
      match closing? '"' cs with
      | some (quotes, rest) => some (String.ofList (acc.reverse ++ quotes), rest)
      | none =>
          match newline? cs with
          | some rest => readBasicLines ('\n' :: acc) fuel rest
          | none =>
              match cs with
              | [] => none
              | '\\' :: rest =>
                  match skipFolded? rest with
                  | some rest => readBasicLines acc fuel rest
                  | none => do
                      let (c, rest) ← readEscape rest
                      readBasicLines (c :: acc) fuel rest
              | c :: rest => if isPlainChar c then readBasicLines (c :: acc) fuel rest else none

/-- A literal string of several lines, after its opening quotes. -/
def readLiteralLines (acc : List Char) : Nat → List Char → Option (String × List Char)
  | 0, _ => none
  | fuel + 1, cs =>
      match closing? '\x27' cs with
      | some (quotes, rest) => some (String.ofList (acc.reverse ++ quotes), rest)
      | none =>
          match newline? cs with
          | some rest => readLiteralLines ('\n' :: acc) fuel rest
          | none =>
              match cs with
              | [] => none
              | c :: rest => if isPlainChar c then readLiteralLines (c :: acc) fuel rest else none

/-- A line break right behind the opening quotes does not count. -/
def dropFirstBreak (cs : List Char) : List Char := (newline? cs).getD cs

def readString (cs : List Char) : Option (String × List Char) :=
  match cs with
  | '"' :: '"' :: '"' :: rest => readBasicLines [] (cs.length + 1) (dropFirstBreak rest)
  | '"' :: rest => readBasic [] (cs.length + 1) rest
  | '\x27' :: '\x27' :: '\x27' :: rest => readLiteralLines [] (cs.length + 1) (dropFirstBreak rest)
  | '\x27' :: rest => readLiteral [] rest
  | _ => none

/-! ## Numbers -/

/-- Digits that satisfy `isDigit`, single underscores between them allowed. -/
def readDigits (isDigit : Char → Bool) (cs : List Char) : Option (List Char × List Char) :=
  match cs with
  | c :: rest => if isDigit c then some (go [c] rest) else none
  | [] => none
where
  go (acc : List Char) : List Char → List Char × List Char
    | [] => (acc.reverse, [])
    | '_' :: c :: rest => if isDigit c then go (c :: acc) rest else (acc.reverse, '_' :: c :: rest)
    | c :: rest => if isDigit c then go (c :: acc) rest else (acc.reverse, c :: rest)

def natOf (base : Nat) (digits : List Char) : Nat :=
  digits.foldl (fun n d => n * base + (hexDigit? d).getD 0) 0

/-- An optional sign; the flag says minus. -/
def readSign : List Char → Bool × Bool × List Char
  | '-' :: rest => (true, true, rest)
  | '+' :: rest => (true, false, rest)
  | cs => (false, false, cs)

/-- Decimal digits without a zero in front of others. -/
def readWhole (cs : List Char) : Option (List Char × List Char) :=
  match cs with
  | '0' :: rest => some (['0'], rest)
  | cs => readDigits Char.isDigit cs

/-- An integer in 64 bits with a sign. -/
def ofInteger (n : Int) : Option Value :=
  if minSigned ≤ n ∧ n ≤ maxSigned then some (.ofInt n) else none

def readInteger (cs : List Char) : Option (Value × List Char) :=
  let based (base : Nat) (isDigit : Char → Bool) (rest : List Char) := do
    let (digits, rest) ← readDigits isDigit rest
    let v ← ofInteger (natOf base digits)
    some (v, rest)
  match cs with
  | '0' :: 'x' :: rest => based 16 (fun c => (hexDigit? c).isSome) rest
  | '0' :: 'o' :: rest => based 8 (fun c => '0' ≤ c && c ≤ '7') rest
  | '0' :: 'b' :: rest => based 2 (fun c => c == '0' || c == '1') rest
  | cs => do
      let (_, negative, rest) := readSign cs
      let (digits, rest) ← readWhole rest
      let n : Int := natOf 10 digits
      let v ← ofInteger (if negative then -n else n)
      some (v, rest)

def readExponent : List Char → Option (Int × List Char)
  | e :: rest =>
      if e == 'e' || e == 'E' then do
        let (_, negative, rest) := readSign rest
        let (digits, rest) ← readDigits Char.isDigit rest
        let n : Int := natOf 10 digits
        some (if negative then -n else n, rest)
      else none
  | [] => none

/-- A number with a fraction or an exponent, or one of the special ones.  One that
is too large is refused unless it is negative. -/
def readFloat (cs : List Char) : Option (Value × List Char) := do
  let (_, negative, rest) := readSign cs
  match rest with
  | 'i' :: 'n' :: 'f' :: rest => some (.foreign "inf", rest)
  | 'n' :: 'a' :: 'n' :: rest => some (.foreign "nan", rest)
  | _ =>
      let (whole, rest) ← readWhole rest
      let (fraction, exponent, rest) ←
        match rest with
        | '.' :: rest => do
            let (fraction, rest) ← readDigits Char.isDigit rest
            match readExponent rest with
            | some (exponent, rest) => some (fraction, exponent, rest)
            | none => some (fraction, 0, rest)
        | rest => do
            let (exponent, rest) ← readExponent rest
            some ([], exponent, rest)
      let n : Number :=
        .decimal negative (natOf 10 (whole ++ fraction)) (exponent - fraction.length)
      if n.inRange || negative then some (.number n, rest) else none

/-! ## Dates and times -/

/-- A number of exactly `count` digits between two bounds. -/
def readField (count low high : Nat) (cs : List Char) : Option (Nat × List Char) :=
  let digits := cs.take count
  let n := natOf 10 digits
  if digits.length == count && digits.all Char.isDigit && low ≤ n && n ≤ high then
    some (n, cs.drop count)
  else none

def readMark (mark : Char) : List Char → Option (List Char)
  | c :: rest => if c == mark then some rest else none
  | [] => none

def isLeapYear (year : Nat) : Bool := year % 4 == 0 && (year % 100 != 0 || year % 400 == 0)

def daysOfMonth (year month : Nat) : Nat :=
  if month == 2 then (if isLeapYear year then 29 else 28)
  else if [4, 6, 9, 11].contains month then 30
  else 31

def readDate (cs : List Char) : Option (List Char) := do
  let (year, cs) ← readField 4 0 9999 cs
  let cs ← readMark '-' cs
  let (month, cs) ← readField 2 1 12 cs
  let cs ← readMark '-' cs
  let (_, cs) ← readField 2 1 (daysOfMonth year month) cs
  some cs

def readTime (cs : List Char) : Option (List Char) := do
  let (_, cs) ← readField 2 0 23 cs
  let cs ← readMark ':' cs
  let (_, cs) ← readField 2 0 59 cs
  let cs ← readMark ':' cs
  let (_, cs) ← readField 2 0 60 cs
  match cs with
  | '.' :: c :: rest => if c.isDigit then some (rest.dropWhile Char.isDigit) else some cs
  | _ => some cs

/-- The distance from universal time, if there is one. -/
def skipOffset (cs : List Char) : List Char :=
  let distance (rest : List Char) : Option (List Char) := do
    let (_, rest) ← readField 2 0 23 rest
    let rest ← readMark ':' rest
    let (_, rest) ← readField 2 0 59 rest
    some rest
  match cs with
  | 'Z' :: rest => rest
  | 'z' :: rest => rest
  | '+' :: rest => (distance rest).getD cs
  | '-' :: rest => (distance rest).getD cs
  | cs => cs

/-- A date with or without a time, or a time. -/
def readDateTime (cs : List Char) : Option (Value × List Char) :=
  let found (rest : List Char) : Value × List Char :=
    (.foreign (String.ofList (cs.take (cs.length - rest.length))), rest)
  match readDate cs with
  | some rest =>
      let withTime (mark : Char) (more : List Char) : Value × List Char :=
        if mark == 'T' || mark == 't' || mark == ' ' then
          match readTime more with
          | some after => found (skipOffset after)
          | none => found rest
        else found rest
      match rest with
      | mark :: more => some (withTime mark more)
      | [] => some (found rest)
  | none => (readTime cs).map found

def readScalar (cs : List Char) : Option (Value × List Char) :=
  match cs with
  | [] => none
  | c :: _ =>
      if c == '"' || c == '\x27' then
        (readString cs).map fun (s, rest) => (.string s, rest)
      else if c == '+' || c == '-' || c.isDigit then
        (readDateTime cs) <|> (readFloat cs) <|> (readInteger cs)
      else
        match cs with
        | 't' :: 'r' :: 'u' :: 'e' :: rest => some (.bool true, rest)
        | 'f' :: 'a' :: 'l' :: 's' :: 'e' :: rest => some (.bool false, rest)
        | 'i' :: 'n' :: 'f' :: rest => some (.foreign "inf", rest)
        | 'n' :: 'a' :: 'n' :: rest => some (.foreign "nan", rest)
        | _ => none

end PushGoals.Toml
