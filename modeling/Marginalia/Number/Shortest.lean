import Marginalia.Number.Double

/-!
# The shortest decimal of a binary number

A number is written with the fewest digits that identify it: among the decimals that round back to
it, one with the least number of digits, and of those the nearest.  The decimals that round back
form an interval around the number, half way to its two neighbours; its ends belong to it if the
significand is even.  On the grid of decimals with a given number of digits only the two neighbours
of the number itself have to be tried.
-/

namespace Marginalia.Number

/-- `digits * 10 ^ exponent`. -/
structure Decimal where
  digits : Nat
  exponent : Int
deriving DecidableEq, Repr

/-- The rounding interval of a number, and the number itself, as multiples of `1 / denominator`. -/
structure Interval where
  low : Nat
  value : Nat
  high : Nat
  denominator : Nat
  closed : Bool
deriving DecidableEq, Repr

/-- The decimals that round to `significand * 2 ^ exponent`.  Below a power of two the neighbour is
only half as far away. -/
def Interval.of (significand : Nat) (exponent : Int) : Interval :=
  let below := if significand = Nat.pow 2 (Double.precision - 1) ∧ Double.leastExponent < exponent
    then 1 else 2
  let up := if 0 ≤ exponent then Nat.pow 2 exponent.toNat else 1
  let down := if 0 ≤ exponent then 1 else Nat.pow 2 (-exponent).toNat
  { low := (4 * significand - below) * up
    value := 4 * significand * up
    high := (4 * significand + 2) * up
    denominator := 4 * down
    closed := significand % 2 = 0 }

/-- A decimal as a fraction. -/
def Decimal.ratio (d : Decimal) : Nat × Nat :=
  if 0 ≤ d.exponent then (d.digits * Nat.pow 10 d.exponent.toNat, 1)
  else (d.digits, Nat.pow 10 (-d.exponent).toNat)

/-- Does the decimal lie in the interval? -/
def Interval.contains (v : Interval) (d : Decimal) : Bool :=
  let (n, m) := d.ratio
  let x := n * v.denominator
  if v.closed then v.low * m ≤ x && x ≤ v.high * m else v.low * m < x && x < v.high * m

/-- The distance of a decimal from the number, as a multiple of `1 / (denominator * m)` where `m` is
the decimal's own denominator. -/
def Interval.distance (v : Interval) (d : Decimal) : Nat :=
  let (n, m) := d.ratio
  let x := n * v.denominator
  let y := v.value * m
  if x ≤ y then y - x else x - y

/-- The largest decimal with the given exponent that is not above the number. -/
def Interval.floor (v : Interval) (exponent : Int) : Decimal :=
  if 0 ≤ exponent then ⟨v.value / (v.denominator * Nat.pow 10 exponent.toNat), exponent⟩
  else ⟨v.value * Nat.pow 10 (-exponent).toNat / v.denominator, exponent⟩

/-- The decimal on the grid of an exponent that rounds back, if there is one; of two the nearer, and
of two equally near the even one. -/
def Interval.onGrid? (v : Interval) (exponent : Int) : Option Decimal :=
  let a := v.floor exponent
  let b : Decimal := { a with digits := a.digits + 1 }
  match v.contains a, v.contains b with
  | true, true =>
    let da := v.distance a
    let db := v.distance b
    if da < db then some a
    else if db < da then some b
    else if a.digits % 2 = 0 then some a else some b
  | true, false => some a
  | false, true => some b
  | false, false => none

/-- The exponent of the leading decimal digit of the number, or one more. -/
def Interval.leading (v : Interval) : Int :=
  let n := (Nat.toDigits 10 v.value).length
  let m := (Nat.toDigits 10 v.denominator).length
  (n : Int) - m

/-- The first hit on grids that get finer and finer. -/
def Interval.finer (v : Interval) : Nat → Int → Decimal
  | 0, e => v.floor e
  | tries + 1, e => (v.onGrid? e).getD (v.finer tries (e - 1))

/-- Moves trailing zeros of the digits into the exponent. -/
def Decimal.strip : Nat → Decimal → Decimal
  | 0, d => d
  | tries + 1, d =>
    if d.digits % 10 = 0 ∧ d.digits ≠ 0 then Decimal.strip tries ⟨d.digits / 10, d.exponent + 1⟩
    else d

/-- The shortest decimal of `significand * 2 ^ exponent`, which is not zero. -/
def shortest (significand : Nat) (exponent : Int) : Decimal :=
  let v := Interval.of significand exponent
  Decimal.strip 400 (v.finer 20 v.leading)

/-- A decimal written positionally if its leading digit stands for `10 ^ e` with `-4 ≤ e < 16`, and
with a signed exponent of at least two digits otherwise; a positional number has at least one digit
on either side of the point. -/
def Decimal.text (d : Decimal) : String :=
  let ds := Nat.toDigits 10 d.digits
  let lead : Int := ds.length + d.exponent - 1
  if -4 ≤ lead ∧ lead < 16 then
    if 0 ≤ d.exponent then String.ofList (ds ++ List.replicate d.exponent.toNat '0') ++ ".0"
    else if 0 ≤ lead then
      String.ofList (ds.take (lead.toNat + 1) ++ '.' :: ds.drop (lead.toNat + 1))
    else String.ofList ('0' :: '.' :: List.replicate (-lead - 1).toNat '0' ++ ds)
  else
    let mantissa := match ds with
      | [c] => [c]
      | c :: cs => c :: '.' :: cs
      | [] => []
    let e := Nat.toDigits 10 lead.natAbs
    let sign := if lead < 0 then '-' else '+'
    String.ofList (mantissa ++ 'e' :: sign :: List.replicate (2 - e.length) '0' ++ e)

/-- A number as text: the shortest digits, or one of the three special words. -/
def Double.text : Double → String
  | .nan => "nan"
  | .infinite negative => if negative then "-inf" else "inf"
  | .finite negative m e =>
    (if negative then "-" else "") ++ if m = 0 then "0.0" else (shortest m e).text

end Marginalia.Number
