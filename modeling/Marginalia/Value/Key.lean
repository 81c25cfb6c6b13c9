import Marginalia.Value.Basic

/-!
# Values as keys

Every value but a list or a table can stand as a key.  Two keys are the same if they are the same
text, or if they are numbers of the same size, whatever their format; truth values count as one and
zero.  What is not a number is the same as no key, not even as itself.
-/

namespace Marginalia.Value

/-- The kind of a value that cannot be a key. -/
def unusableKey? : Value → Option String
  | .list items => some (Value.list items).kindName
  | .table entries => some (Value.table entries).kindName
  | _ => none

/-- What is said of a value of a kind that cannot be a key. -/
def unusableKeyText (kind : String) : String := "unhashable type: '" ++ kind ++ "'"

/-- The size of a number as a fraction. -/
def ratio? : Value → Option (Int × Nat)
  | .bool b => some (if b then 1 else 0, 1)
  | .int n => some (n, 1)
  | .float (.finite negative significand exponent) =>
    let size : Int := significand * Nat.pow 2 exponent.toNat
    some (if negative then -size else size, Nat.pow 2 (-exponent).toNat)
  | _ => none

/-- Are the two values the same key? -/
def sameKey : Value → Value → Bool
  | .null, .null => true
  | .str s, .str t => s == t
  | .float (.infinite a), .float (.infinite b) => a == b
  | v, w =>
    match v.ratio?, w.ratio? with
    | some (n, d), some (m, e) => n * e == m * d
    | _, _ => false

end Marginalia.Value
