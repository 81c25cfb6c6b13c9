/-!
# Sets of code points as boundary lists

A set of code points is given by the points at which membership changes, in increasing order, and
each is written as its distance from the one before: `[a, b, c, d]` is the union of the half-open
ranges `[a, a + b)` and `[a + b + c, a + b + c + d)`.  A character class of the Unicode standard is
then one list of small numbers, and membership is one walk that stops as soon as the list has passed
the code point, so ASCII characters are decided after a few steps.
-/

namespace Marginalia.Text

/-- Membership in the set with the given boundaries. -/
def inBounds : List Nat → Nat → Bool
  | [], _ => false
  | d :: ds, c => if c < d then false else !inBounds ds (c - d)

end Marginalia.Text
