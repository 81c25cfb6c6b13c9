import Marginalia.Text.Blank
import Marginalia.Text.Digit

/-!
# Whole numbers in running text

A whole number may have white space around it, but for the four separators, a sign in front, and
single underscores between its digits; the digits may belong to any script.  No more than `digitLimit` decimal digits are turned
into a number, or a number into digits; zeros in front count.
-/

namespace Marginalia.Text

/-- The text without characters of one sort at its two ends. -/
def trim (sort : Nat → Bool) (cs : List Char) : List Char :=
  ((cs.dropWhile (sort ·.toNat)).reverse.dropWhile (sort ·.toNat)).reverse

/-- The text without white space at its two ends. -/
def strip (cs : List Char) : List Char := trim isBlank cs

/-- Is the character white space that may stand around a number?  The four separators may not. -/
def isPadding (c : Nat) : Bool := isBlank c && !(28 ≤ c && c ≤ 31)

/-- The text without the white space that may stand around a number. -/
def unpadded (cs : List Char) : List Char := trim isPadding cs

/-- Reads digits, with an underscore allowed before a digit but not first; `n` is the value so far.
-/
def readDigits (n : Nat) : List Char → Option Nat
  | [] => some n
  | '_' :: c :: cs => do readDigits (n * 10 + (← digitValue? c.toNat)) cs
  | c :: cs => do readDigits (n * 10 + (← digitValue? c.toNat)) cs

/-- Reads digits, of which there has to be at least one. -/
def readNatural? : List Char → Option Nat
  | [] => none
  | c :: cs => do readDigits (← digitValue? c.toNat) cs

/-- The greatest number of decimal digits of a number that is read or written. -/
def digitLimit : Nat := 4300

/-- What is said of a text with too many digits. -/
def tooManyDigits (digits : Nat) : String :=
  "Exceeds the limit (" ++ toString digitLimit ++ " digits) for integer string conversion: " ++
    "value has " ++ toString digits ++
    " digits; use sys.set_int_max_str_digits() to increase the limit"

/-- What is said of a number with too many digits. -/
def tooLongToWrite : String :=
  "Exceeds the limit (" ++ toString digitLimit ++ " digits) for integer string conversion; " ++
    "use sys.set_int_max_str_digits() to increase the limit"

/-- Has the number more decimal digits than can be written? -/
def isTooLongToWrite (n : Int) : Bool := Nat.pow 10 digitLimit ≤ n.natAbs

/-- The number of digits in a text. -/
def digitCount (cs : List Char) : Nat := cs.countP fun c => (digitValue? c.toNat).isSome

/-- Reads a whole number of any length. -/
def readInteger? (cs : List Char) : Option Int :=
  match unpadded cs with
  | '+' :: ds => (readNatural? ds).map Int.ofNat
  | '-' :: ds => (readNatural? ds).map fun n => -Int.ofNat n
  | ds => (readNatural? ds).map Int.ofNat

/-- A character of another sort is not taken off. -/
theorem mem_trim {sort : Nat → Bool} {cs : List Char} {c : Char} (hc : c ∈ cs)
    (hsort : sort c.toNat = false) : c ∈ trim sort cs := by
  have hdrop : ∀ {ds : List Char}, c ∈ ds → c ∈ ds.dropWhile (sort ·.toNat) := by
    intro ds hds
    rw [← List.takeWhile_append_dropWhile (p := (sort ·.toNat)) (l := ds),
      List.mem_append] at hds
    refine hds.resolve_left fun htake => ?_
    have hall := List.all_eq_true.mp (List.all_takeWhile ..) c htake
    simp [hsort] at hall
  unfold trim
  exact List.mem_reverse.mpr (hdrop (List.mem_reverse.mpr (hdrop hc)))

theorem isPadding_eq_false {c : Nat} (h : isBlank c = false) : isPadding c = false := by
  rw [isPadding, h, Bool.false_and]

section

variable {c : Char} (hdigit : digitValue? c.toNat = none) (hsign : c ∉ ['_', '+', '-'])
include hdigit hsign

theorem not_mem_of_readDigits {n m : Nat} {ds : List Char} (h : readDigits n ds = some m) :
    c ∉ ds := by
  have hdigit' : ∀ {d : Char} {v : Nat}, digitValue? d.toNat = some v → c ≠ d := by
    rintro d v hv rfl
    rw [hdigit] at hv
    cases hv
  fun_induction readDigits n ds with
  | case1 => exact List.not_mem_nil
  | case2 n d ds ih =>
    obtain ⟨v, hv, h⟩ := Option.bind_eq_some_iff.mp h
    simp only [List.mem_cons, not_or]
    exact ⟨fun hc => hsign (by simp [hc]), hdigit' hv, ih v h⟩
  | case3 n d ds _ ih =>
    obtain ⟨v, hv, h⟩ := Option.bind_eq_some_iff.mp h
    exact List.not_mem_cons_of_ne_of_not_mem (hdigit' hv) (ih v h)

theorem not_mem_of_readNatural? {n : Nat} {ds : List Char} (h : readNatural? ds = some n) :
    c ∉ ds := by
  cases ds with
  | nil => exact List.not_mem_nil
  | cons d ds =>
    obtain ⟨v, hv, h⟩ := Option.bind_eq_some_iff.mp h
    refine List.not_mem_cons_of_ne_of_not_mem ?_ (not_mem_of_readDigits hdigit hsign h)
    rintro rfl
    rw [hdigit] at hv
    cases hv

/-- A character that may stand nowhere in a whole number. -/
theorem not_mem_of_readInteger? {n : Int} {cs : List Char} (h : readInteger? cs = some n)
    (hblank : isBlank c.toNat = false) : c ∉ cs := by
  intro hc
  have hstrip := mem_trim hc (isPadding_eq_false hblank)
  unfold readInteger? unpadded at h
  split at h <;> obtain ⟨m, hm, -⟩ := Option.map_eq_some_iff.mp h
  all_goals have hdigits := not_mem_of_readNatural? hdigit hsign hm
  · rename_i heq
    rw [heq] at hstrip
    exact hdigits ((List.mem_cons.mp hstrip).resolve_left fun h => hsign (by simp [h]))
  · rename_i heq
    rw [heq] at hstrip
    exact hdigits ((List.mem_cons.mp hstrip).resolve_left fun h => hsign (by simp [h]))
  · exact hdigits hstrip

end

end Marginalia.Text
