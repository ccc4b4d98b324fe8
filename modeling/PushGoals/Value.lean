/-!
# Document values

Rules, pushes and settings are written in documents, and tests and hooks keep
values of the same shape between each other.  `Value` is that shape: the six
kinds of JSON, and one more for the scalars that have no value here (a date, an
infinity, a string with half a surrogate pair).  Such a scalar may be skipped,
but nothing is ever decoded from it.

Objects keep their fields in the order in which they were written.  Equality is
`Value.same`: fields are compared by key, and numbers as numbers of their kind.
-/

namespace PushGoals

/-- A number of a document.  An integer stays exact; anything written with a
fraction or an exponent, or outside the 64-bit ranges, is a decimal
`± mantissa · 10 ^ exponent`. -/
inductive Number where
  | int (n : Int)
  | decimal (negative : Bool) (mantissa : Nat) (exponent : Int)
deriving DecidableEq, Repr, Inhabited

inductive Value where
  | null
  | bool (b : Bool)
  | number (n : Number)
  | string (s : String)
  | array (items : List Value)
  | object (fields : List (String × Value))
  | foreign (text : String)
deriving Repr, Inhabited

def minSigned : Int := -9223372036854775808

def maxSigned : Int := 9223372036854775807

/-- How many integers of 64 bits there are. -/
def integerCount : Nat := 18446744073709551616

def maxUnsigned : Int := 18446744073709551615

namespace Number

/-- Number of decimal digits of `n`, at least one. -/
def digitCount (n : Nat) : Nat := (Nat.toDigits 10 n).length

/-- The size of a decimal as a power of ten: `some k` when the value lies in
`[10 ^ (k - 1), 10 ^ k)`, `none` for zero. -/
def magnitude (mantissa : Nat) (exponent : Int) : Option Int :=
  if mantissa = 0 then none else some (exponent + digitCount mantissa)

/-- A decimal above every finite double rounds to infinity; one far below the
least positive double rounds to zero.  The two bounds keep the powers of ten
small enough to compute. -/
def toFloat : Number → Float
  | .int n => Float.ofInt n
  | .decimal negative mantissa exponent =>
      let size : Float :=
        match magnitude mantissa exponent with
        | none => 0
        | some k =>
            if k > 310 then 1 / 0
            else if k < -330 then 0
            else Float.ofScientific mantissa (exponent < 0) exponent.natAbs
      if negative then -size else size

/-- Does the number have a finite double? -/
def inRange (n : Number) : Bool := !n.toFloat.isInf

/-- Integers equal integers, and decimals equal decimals when they round to
equal doubles; an integer never equals a decimal. -/
def same : Number → Number → Bool
  | .int m, .int n => m == n
  | .decimal s m e, .decimal s' m' e' =>
      (Number.decimal s m e).toFloat == (Number.decimal s' m' e').toFloat
  | _, _ => false

end Number

namespace Value

def field? (key : String) : List (String × Value) → Option Value
  | [] => none
  | (k, v) :: rest => if k == key then some v else field? key rest

/-- The fields with the last of several equal keys kept, at the place of the
first. -/
def lastWins (fields : List (String × Value)) : List (String × Value) :=
  fields.foldl
    (fun kept (k, v) =>
      if kept.any (·.1 == k) then kept.map (fun p => if p.1 == k then (k, v) else p)
      else kept ++ [(k, v)])
    []

mutual

/-- Equality of values: the fields of two objects may stand in any order. -/
def same : Value → Value → Bool
  | .null, .null => true
  | .bool a, .bool b => a == b
  | .number a, .number b => a.same b
  | .string a, .string b => a == b
  | .array xs, .array ys => sameItems xs ys
  | .object fs, .object gs => fs.length == gs.length && sameFields fs gs
  | .foreign a, .foreign b => a == b
  | _, _ => false

def sameItems : List Value → List Value → Bool
  | [], [] => true
  | x :: xs, y :: ys => same x y && sameItems xs ys
  | _, _ => false

/-- Each field has an equal one under its key in `others`. -/
def sameFields : List (String × Value) → List (String × Value) → Bool
  | [], _ => true
  | (k, v) :: rest, others =>
      (match field? k others with
        | some w => same v w
        | none => false) &&
      sameFields rest others

end

mutual

/-- Levels of arrays and objects inside each other. -/
def depth : Value → Nat
  | .array items => depthItems items + 1
  | .object fields => depthFields fields + 1
  | _ => 0

def depthItems : List Value → Nat
  | [] => 0
  | v :: rest => max (depth v) (depthItems rest)

def depthFields : List (String × Value) → Nat
  | [] => 0
  | (_, v) :: rest => max (depth v) (depthFields rest)

end

/-- The integer a value holds, when it fits 64 bits with a sign. -/
def signed? : Value → Option Int
  | .number (.int n) => if minSigned ≤ n ∧ n ≤ maxSigned then some n else none
  | _ => none

def ofNat (n : Nat) : Value := .number (.int n)

def ofInt (n : Int) : Value := .number (.int n)

/-- A present text is a string, an absent one `null`. -/
def ofText? : Option String → Value
  | some s => .string s
  | none => .null

def ofTexts (texts : List String) : Value := .array (texts.map .string)

end Value

end PushGoals
