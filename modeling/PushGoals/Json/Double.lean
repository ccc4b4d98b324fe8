import PushGoals.Value

/-!
# Doubles of numbers in JSON text

The double of a number in JSON text comes from two factors: its digits as far as
they fit an integer of 64 bits, and a power of ten.  Both are rounded to doubles,
and their product, or quotient, once more, so that the outcome need not be the
double nearest to the number.  A number whose product is beyond all doubles has
none.

Digits behind the first that does not fit only count towards the power of ten.  The
digits of a fraction are tried again.
-/

namespace PushGoals.Json

/-- Append digits to a number as long as it fits 64 bits; also the number of digits
left over. -/
def appendDigits (n : Nat) : List Char → Nat × Nat
  | [] => (n, 0)
  | d :: ds =>
      let next := n * 10 + (d.toNat - '0'.toNat)
      if next < integerCount then appendDigits next ds else (n, ds.length + 1)

/-- A double without sign: `mantissa · 2 ^ exponent`. -/
structure Double where
  mantissa : Nat
  exponent : Int
deriving DecidableEq, Repr, Inhabited

namespace Double

def minExponent : Int := -1074

/-- A quotient of whole numbers, rounded to the even one of two that are equally
near. -/
def roundDiv (n d : Nat) : Nat :=
  let rest := 2 * (n % d)
  if rest < d ∨ (rest = d ∧ n / d % 2 = 0) then n / d else n / d + 1

/-- The quotient `n / (d · 2 ^ e)` as a quotient of whole numbers. -/
def scaled (n d : Nat) (e : Int) : Nat × Nat :=
  if 0 ≤ e then (n, d <<< e.toNat) else (n <<< (-e).toNat, d)

/-- The least number of 53 binary digits. -/
def minNormal : Nat := 1 <<< 52

/-- The double nearest to `n / d · 2 ^ e`: 53 binary digits, fewer where the exponent
cannot be less. -/
def ofQuotient (n d : Nat) (e : Int) : Double :=
  let guess : Int := (n.log2 : Int) - d.log2 - 52
  let (a, b) := scaled n d guess
  let unit := if a / b < minNormal then guess - 1 else guess
  let unit := max unit (minExponent - e)
  let (a, b) := scaled n d unit
  ⟨roundDiv a b, e + unit⟩

def ofNat (n : Nat) : Double := ofQuotient n 1 0

def powerOfTen (n : Nat) : Double := ofNat (Nat.pow 10 n)

def mul (x y : Double) : Double :=
  ofQuotient (x.mantissa * y.mantissa) 1 (x.exponent + y.exponent)

def div (x y : Double) : Double :=
  ofQuotient x.mantissa y.mantissa (x.exponent - y.exponent)

def isFinite (x : Double) : Bool := x.mantissa.log2 + x.exponent < 1024

/-- The greatest exponent whose power of ten is a double. -/
def maxPower : Nat := 308

/-- Times a power of ten, if that is finite.  Great negative powers take several
steps. -/
def scale (x : Double) (power : Int) : Option Double :=
  if x.mantissa = 0 then some x
  else if power < -308 then (x.div (powerOfTen maxPower)).scale (power + 308)
  else if power < 0 then some (x.div (powerOfTen power.natAbs))
  else if maxPower < power then none
  else
    let product := x.mul (powerOfTen power.toNat)
    if product.isFinite then some product else none
termination_by power.natAbs

/-- The double of a number with these digits before and behind its point and this
exponent. -/
def ofDigits? (whole fraction : List Char) (exponent : Int) : Option Double :=
  let (significand, more) := appendDigits 0 whole
  let (significand, dropped) := appendDigits significand fraction
  (ofNat significand).scale (exponent + more - (fraction.length - dropped : Nat))

/-- The same double with a smaller mantissa, if it is even. -/
def reduce : Nat → Double → Double
  | 0, x => x
  | fuel + 1, x =>
      if x.mantissa % 2 = 0 ∧ x.exponent < 0 then reduce fuel ⟨x.mantissa / 2, x.exponent + 1⟩
      else x

/-- The number that a double is. -/
def toNumber (negative : Bool) (x : Double) : Number :=
  let x := x.reduce x.exponent.natAbs
  if 0 ≤ x.exponent then .decimal negative (x.mantissa <<< x.exponent.toNat) 0
  else .decimal negative (x.mantissa * Nat.pow 5 x.exponent.natAbs) x.exponent

end Double

/-- The greatest power of ten that has a double. -/
example :
    (Double.ofDigits? "1".toList "".toList 308).isSome = true ∧
      Double.ofDigits? "1".toList "".toList 309 = none := by
  decide +kernel

end PushGoals.Json
