/-!
# Hexadecimal and octal digits

Numbers in base sixteen, written in lower case with a least number of digits, and digits of a small
base read back.
-/

namespace Marginalia.Text

/-- The lower-case hexadecimal digits of `n`, with zeros in front up to the given number of digits.
-/
def hex (digits n : Nat) : List Char :=
  let ds := Nat.toDigits 16 n
  List.replicate (digits - ds.length) '0' ++ ds

/-- The value of a hexadecimal digit of either case. -/
def hexValue? (c : Char) : Option Nat :=
  if '0' ≤ c ∧ c ≤ '9' then some (c.toNat - 48)
  else if 'a' ≤ c ∧ c ≤ 'f' then some (c.toNat - 87)
  else if 'A' ≤ c ∧ c ≤ 'F' then some (c.toNat - 55)
  else none

/-- Is the character a hexadecimal digit? -/
def isHexDigit (c : Char) : Bool := (hexValue? c).isSome

/-- Is the character one of `0` to `7`? -/
def isOctalDigit (c : Char) : Bool := '0' ≤ c && c ≤ '7'

/-- The number that the digits write in the given base; digits are read as hexadecimal ones. -/
def numeral (base : Nat) (ds : List Char) : Nat :=
  ds.foldl (fun n d => n * base + (hexValue? d).getD 0) 0

end Marginalia.Text
