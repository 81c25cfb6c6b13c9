import Marginalia.Text.Ranges

/-!
# Decimal digits

The decimal digits of every script (category Nd of Unicode 14).  Digits of one script stand in runs
that start with zero, so the value of a digit is its distance from the start of its run, modulo ten.
-/

namespace Marginalia.Text

/-- Boundaries of the runs of decimal digits. -/
def digitBounds : List Nat := [
  48, 10, 1574, 10, 134, 10, 198, 10, 412, 10, 118, 10, 118, 10, 118, 10, 118, 10, 118, 10, 118, 10,
  118, 10, 118, 10, 118, 10, 96, 10, 118, 10, 70, 10, 278, 10, 70, 10, 1862, 10, 38, 10, 300, 10,
  128, 10, 166, 10, 6, 10, 182, 10, 86, 10, 134, 10, 6, 10, 35270, 10, 678, 10, 38, 10, 198, 10, 22,
  10, 86, 10, 406, 10, 21270, 10, 1414, 10, 2182, 10, 812, 10, 128, 10, 60, 10, 144, 10, 278, 10,
  342, 10, 118, 10, 374, 10, 102, 10, 102, 10, 422, 10, 102, 10, 758, 10, 246, 10, 70, 10, 19638,
  10, 86, 10, 134, 10, 27764, 50, 2368, 10, 422, 10, 1622, 10, 4758, 10]

/-- Is the code point a decimal digit of some script? -/
def isDigit (c : Nat) : Bool := inBounds digitBounds c

/-- Is the code point one of the ten ASCII digits? -/
def isAsciiDigit (c : Nat) : Bool := 0x30 ≤ c && c ≤ 0x39

/-- The value of a digit in the runs with these boundaries. -/
def digitValueIn : List Nat → Nat → Option Nat
  | gap :: run :: bounds, c =>
    if c < gap then none
    else if c - gap < run then some ((c - gap) % 10)
    else digitValueIn bounds (c - gap - run)
  | _, _ => none

/-- The value of a decimal digit. -/
def digitValue? (c : Nat) : Option Nat := digitValueIn digitBounds c

end Marginalia.Text
