import PushGoals.Json.Double

/-!
# Reading JSON text

`Json.read` accepts exactly the texts of RFC 8259 and keeps every field of an
object, repeated keys included.  It judges form only: a number out of range and a
string with half of a surrogate pair are foreign values, which do no harm where they
are skipped.  `Json.parse` is the strict reading as a value: no foreign value
anywhere, at most 127 levels of nesting, and of repeated keys the last counts.

Each reader takes the characters from its position on and returns what it read
with the characters that follow.  The readers of nested values carry the number
of steps they may still take; `Json.read` starts them with the length of the
text, and every step consumes a character.
-/

namespace PushGoals.Json

def isBlank (c : Char) : Bool := c == ' ' || c == '\t' || c == '\n' || c == '\r'

def skipBlank (cs : List Char) : List Char := cs.dropWhile isBlank

def hexDigit? (c : Char) : Option Nat :=
  if '0' ≤ c ∧ c ≤ '9' then some (c.toNat - '0'.toNat)
  else if 'a' ≤ c ∧ c ≤ 'f' then some (c.toNat - 'a'.toNat + 10)
  else if 'A' ≤ c ∧ c ≤ 'F' then some (c.toNat - 'A'.toNat + 10)
  else none

/-- Four hexadecimal digits. -/
def readUnit : List Char → Option (Nat × List Char)
  | a :: b :: c :: d :: rest => do
      let a ← hexDigit? a
      let b ← hexDigit? b
      let c ← hexDigit? c
      let d ← hexDigit? d
      some (((a * 16 + b) * 16 + c) * 16 + d, rest)
  | _ => none

def isHighSurrogate (n : Nat) : Bool := 0xD800 ≤ n && n < 0xDC00

def isLowSurrogate (n : Nat) : Bool := 0xDC00 ≤ n && n < 0xE000

/-- The text of a string body up to its closing quote.  The flag says that every
surrogate came as one of a pair. -/
def readBody (acc : List Char) (whole : Bool) :
    Nat → List Char → Option ((Bool × String) × List Char)
  | 0, _ => none
  | fuel + 1, cs =>
      match cs with
      | [] => none
      | '"' :: rest => some ((whole, String.ofList acc.reverse), rest)
      | '\\' :: 'u' :: rest => do
          let (unit, rest) ← readUnit rest
          if isHighSurrogate unit then
            match rest with
            | '\\' :: 'u' :: more => do
                let (low, after) ← readUnit more
                if isLowSurrogate low then
                  let code := 0x10000 + (unit - 0xD800) * 0x400 + (low - 0xDC00)
                  readBody (Char.ofNat code :: acc) whole fuel after
                else readBody acc false fuel rest
            | _ => readBody acc false fuel rest
          else if isLowSurrogate unit then readBody acc false fuel rest
          else readBody (Char.ofNat unit :: acc) whole fuel rest
      | '\\' :: c :: rest => do
          let plain ←
            match c with
            | '"' => some '"'
            | '\\' => some '\\'
            | '/' => some '/'
            | 'b' => some '\x08'
            | 'f' => some '\x0c'
            | 'n' => some '\n'
            | 'r' => some '\r'
            | 't' => some '\t'
            | _ => none
          readBody (plain :: acc) whole fuel rest
      | c :: rest => if c.toNat < 0x20 then none else readBody (c :: acc) whole fuel rest

def readDigits (cs : List Char) : List Char × List Char :=
  (cs.takeWhile Char.isDigit, cs.dropWhile Char.isDigit)

def natOfDigits (ds : List Char) : Nat :=
  ds.foldl (fun n d => n * 10 + (d.toNat - '0'.toNat)) 0

/-- The part after the integer digits: a fraction, an exponent, both or neither.
`none` inside stands for a plain integer. -/
def readTail (cs : List Char) : Option ((List Char × Option Int) × List Char) := do
  let (fraction, cs) ←
    match cs with
    | '.' :: rest =>
        let (ds, rest) := readDigits rest
        if ds.isEmpty then none else some (ds, rest)
    | _ => some ([], cs)
  match cs with
  | e :: rest =>
      if e == 'e' || e == 'E' then
        let (negative, rest) :=
          match rest with
          | '-' :: more => (true, more)
          | '+' :: more => (false, more)
          | _ => (false, rest)
        let (ds, rest) := readDigits rest
        if ds.isEmpty then none
        else
          let size : Int := natOfDigits ds
          some ((fraction, some (if negative then -size else size)), rest)
      else some ((fraction, none), cs)
  | [] => some ((fraction, none), cs)

/-- The number with these digits before and behind its point, if it is in range.  It is
an integer only when it is written as one and fits 64 bits; a negative zero is a
decimal. -/
def numberOf? (negative : Bool) (whole fraction : List Char) (exponent : Option Int) :
    Option Number :=
  let integer : Int := if negative then -natOfDigits whole else natOfDigits whole
  if fraction.isEmpty && exponent.isNone && !(negative && integer = 0) &&
      minSigned ≤ integer && integer ≤ maxUnsigned then
    some (.int integer)
  else (Double.ofDigits? whole fraction (exponent.getD 0)).map (·.toNumber negative)

/-- A number, without leading zeros; one out of range is foreign. -/
def readNumber (cs : List Char) : Option (Value × List Char) := do
  let (negative, cs) :=
    match cs with
    | '-' :: rest => (true, rest)
    | _ => (false, cs)
  let (whole, cs) := readDigits cs
  if whole.isEmpty || (whole.length > 1 && whole.head? == some '0') then none
  else
    let ((fraction, exponent), rest) ← readTail cs
    match numberOf? negative whole fraction exponent with
    | some n => some (.number n, rest)
    | none => some (.foreign "number", rest)

/-- A string value; one with half a surrogate pair is foreign. -/
def readString (cs : List Char) : Option (Value × List Char) := do
  let ((whole, text), rest) ← readBody [] true (cs.length + 1) cs
  some (if whole then .string text else .foreign text, rest)

mutual

def readValue : Nat → List Char → Option (Value × List Char)
  | 0, _ => none
  | fuel + 1, cs =>
      match skipBlank cs with
      | 'n' :: 'u' :: 'l' :: 'l' :: rest => some (.null, rest)
      | 't' :: 'r' :: 'u' :: 'e' :: rest => some (.bool true, rest)
      | 'f' :: 'a' :: 'l' :: 's' :: 'e' :: rest => some (.bool false, rest)
      | '"' :: rest => readString rest
      | '[' :: rest =>
          match skipBlank rest with
          | ']' :: rest => some (.array [], rest)
          | rest => readItems fuel [] rest
      | '\x7b' :: rest =>
          match skipBlank rest with
          | '\x7d' :: rest => some (.object [], rest)
          | rest => readFields fuel [] true rest
      | c :: rest =>
          if c == '-' || c.isDigit then readNumber (c :: rest) else none
      | [] => none

/-- The items of an array up to its closing bracket. -/
def readItems : Nat → List Value → List Char → Option (Value × List Char)
  | 0, _, _ => none
  | fuel + 1, acc, cs => do
      let (v, rest) ← readValue fuel cs
      match skipBlank rest with
      | ',' :: rest => readItems fuel (v :: acc) rest
      | ']' :: rest => some (.array (v :: acc).reverse, rest)
      | _ => none

/-- The fields of an object up to its closing brace.  An object with a key that
is no text is foreign as a whole. -/
def readFields : Nat → List (String × Value) → Bool → List Char → Option (Value × List Char)
  | 0, _, _, _ => none
  | fuel + 1, acc, whole, cs =>
      match skipBlank cs with
      | '"' :: rest => do
          let (key, rest) ← readString rest
          match skipBlank rest with
          | ':' :: rest => do
              let (v, rest) ← readValue fuel rest
              let (acc, whole) :=
                match key with
                | .string k => ((k, v) :: acc, whole)
                | _ => (acc, false)
              match skipBlank rest with
              | ',' :: rest => readFields fuel acc whole rest
              | '\x7d' :: rest =>
                  some (if whole then .object acc.reverse else .foreign "object", rest)
              | _ => none
          | _ => none
      | _ => none

end

/-- Read a whole text by form, keeping repeated keys. -/
def read (text : String) : Option Value := do
  let cs := text.toList
  let (v, rest) ← readValue (2 * cs.length + 2) cs
  if (skipBlank rest).isEmpty then some v else none

mutual

/-- The value a document stands for, refusing pieces without a value and more
than `depth` levels of nesting. -/
def settle : Nat → Value → Option Value
  | depth, .array items =>
      if depth = 0 then none else (settleItems (depth - 1) items).map .array
  | depth, .object fields =>
      if depth = 0 then none
      else (settleFields (depth - 1) fields).map (fun fs => .object (Value.lastWins fs))
  | _, .foreign _ => none
  | _, v => some v

def settleItems : Nat → List Value → Option (List Value)
  | _, [] => some []
  | depth, v :: rest => do
      let v ← settle depth v
      let rest ← settleItems depth rest
      some (v :: rest)

def settleFields : Nat → List (String × Value) → Option (List (String × Value))
  | _, [] => some []
  | depth, (k, v) :: rest => do
      let v ← settle depth v
      let rest ← settleFields depth rest
      some ((k, v) :: rest)

end

/-- The deepest nesting of a strictly read value. -/
def maxDepth : Nat := 127

/-- Read a whole text strictly: the last of repeated keys counts. -/
def parse (text : String) : Option Value :=
  (read text).bind (settle maxDepth)

end PushGoals.Json
