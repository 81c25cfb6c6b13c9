/-!
# Numbers in binary floating point

A `Double` is a number of the 64-bit binary format: not a number, an infinity, or `significand * 2 ^
exponent` with a sign, where the significand has at most 53 bits and the exponent is at least
`-1074`.  Numbers of the format are kept in lowest position: the significand has all 53 bits unless
the exponent is least.

`ofDecimal` rounds a decimal to the nearest number of the format, and of two nearest ones to the one
with an even significand.
-/

namespace Marginalia.Number

/-- A number of the 64-bit binary format. -/
inductive Double
  | nan
  | infinite (negative : Bool)
  | finite (negative : Bool) (significand : Nat) (exponent : Int)
deriving DecidableEq, Repr

namespace Double

/-- The bits of a full significand. -/
def precision : Nat := 53

/-- The least exponent. -/
def leastExponent : Int := -1074

/-- The greatest exponent. -/
def greatestExponent : Int := 971

/-- The quotient rounded to the nearest whole number, and of two nearest ones to the even one. -/
def roundDiv (num den : Nat) : Nat :=
  let q := num / den
  let twice := 2 * (num % den)
  if twice < den then q
  else if den < twice then q + 1
  else if q % 2 = 0 then q else q + 1

/-- The number of bits of a natural number. -/
def bits (n : Nat) : Nat := if n = 0 then 0 else n.log2 + 1

/-- The quotient `num / den` in units of `2 ^ e`, rounded. -/
def inUnits (num den : Nat) (e : Int) : Nat :=
  if 0 ≤ e then roundDiv num (den * Nat.pow 2 e.toNat)
  else roundDiv (num * Nat.pow 2 (-e).toNat) den

/-- The exponent at which the quotient has all its bits before the point, as far as the format
allows: one of the two that the lengths of the numbers admit. -/
def exponentFor (num den : Nat) : Int :=
  let guess : Int := (bits num : Int) - bits den - precision
  let fits : Bool :=
    if 0 ≤ guess then num < den * Nat.pow 2 (guess.toNat + precision)
    else num * Nat.pow 2 (-guess).toNat < den * Nat.pow 2 precision
  max leastExponent (if fits then guess else guess + 1)

/-- The number of the format nearest to `num / den`. -/
def ofRatio (negative : Bool) (num den : Nat) : Double :=
  if num = 0 then .finite negative 0 leastExponent
  else
    let e := exponentFor num den
    let m := inUnits num den e
    let (m, e) := if m = Nat.pow 2 precision then (Nat.pow 2 (precision - 1), e + 1) else (m, e)
    if greatestExponent < e then .infinite negative else .finite negative m e

/-- Beyond this many decimal places on either side every number is zero or infinite. -/
def decimalLimit : Int := 400

/-- The number of the format nearest to `digits * 10 ^ exponent`. -/
def ofDecimal (negative : Bool) (digits : Nat) (exponent : Int) : Double :=
  if digits = 0 then .finite negative 0 leastExponent
  else
    let magnitude : Int := (Nat.toDigits 10 digits).length + exponent
    if decimalLimit < magnitude then .infinite negative
    else if magnitude < -decimalLimit then .finite negative 0 leastExponent
    else if 0 ≤ exponent then ofRatio negative (digits * Nat.pow 10 exponent.toNat) 1
    else ofRatio negative digits (Nat.pow 10 (-exponent).toNat)

end Double

end Marginalia.Number
