import Marginalia.Text.Word

/-!
# Identifiers

An identifier starts with a letter-like character or the underscore and goes on with letter-like
characters, digits and marks (the properties XID_Start and XID_Continue of Unicode 14).
-/

namespace Marginalia.Text

/-- Boundaries of the letters that may not start an identifier, and of the other characters that
may: the underscore, and numerals that are written as letters. -/
def irregularStartBounds : List Nat := [
  95, 1, 794, 1, 2744, 1, 127, 1, 2106, 3, 404, 2, 2193, 1, 21, 1, 49, 35, 2, 4, 3238, 1, 471, 1,
  25, 9, 14, 3, 30379, 10, 21870, 6, 406, 2, 116, 1, 1, 1, 1, 1, 1, 1, 1, 1, 1, 1, 1, 1, 1, 1, 287,
  2, 416, 53, 460, 1, 8, 1, 134, 5, 8234, 111]

/-- Boundaries of the characters that may stand inside an identifier but not at its start, the
decimal digits left out. -/
def identifierMarkBounds : List Nat := [
  183, 1, 584, 112, 23, 1, 251, 5, 265, 45, 1, 1, 1, 2, 1, 2, 1, 1, 72, 11, 48, 21, 16, 1, 101, 7,
  2, 6, 2, 2, 1, 4, 35, 1, 30, 27, 91, 11, 58, 9, 9, 1, 24, 4, 1, 9, 1, 3, 1, 5, 43, 3, 60, 8, 42,
  24, 1, 33, 54, 3, 1, 18, 1, 7, 10, 2, 29, 3, 56, 1, 1, 7, 2, 2, 2, 3, 9, 1, 10, 2, 26, 1, 2, 3,
  56, 1, 1, 5, 4, 2, 2, 3, 3, 1, 30, 2, 3, 1, 11, 3, 56, 1, 1, 8, 1, 3, 1, 3, 20, 2, 22, 6, 1, 3,
  56, 1, 1, 7, 2, 2, 2, 3, 7, 3, 10, 2, 30, 1, 59, 5, 3, 3, 1, 4, 9, 1, 40, 5, 55, 1, 1, 7, 1, 3, 1,
  4, 7, 2, 11, 2, 29, 3, 56, 1, 1, 7, 1, 3, 1, 4, 7, 2, 11, 2, 28, 4, 55, 2, 1, 7, 1, 3, 1, 4, 9, 1,
  10, 2, 29, 3, 70, 1, 4, 6, 1, 1, 1, 8, 18, 2, 61, 1, 1, 8, 12, 8, 98, 1, 1, 10, 11, 6, 74, 2, 27,
  1, 1, 1, 1, 1, 4, 2, 49, 20, 1, 2, 5, 11, 1, 36, 9, 1, 100, 20, 23, 4, 4, 3, 1, 3, 2, 7, 3, 4, 13,
  12, 1, 1, 10, 4, 703, 3, 9, 9, 928, 4, 28, 3, 29, 2, 30, 2, 64, 32, 9, 1, 45, 3, 1, 1, 153, 1,
  118, 12, 4, 12, 158, 1, 60, 5, 57, 10, 1, 29, 2, 1, 48, 14, 1, 16, 49, 5, 47, 17, 38, 9, 12, 3,
  30, 13, 56, 14, 48, 20, 152, 3, 1, 21, 4, 1, 6, 1, 2, 3, 198, 64, 575, 2, 19, 1, 123, 13, 4, 1, 3,
  12, 3070, 3, 141, 1, 96, 32, 554, 6, 105, 2, 30164, 1, 4, 10, 32, 2, 80, 2, 272, 1, 3, 1, 4, 1,
  23, 5, 4, 1, 83, 2, 50, 18, 26, 18, 13, 1, 38, 8, 25, 13, 44, 4, 47, 14, 36, 1, 67, 14, 12, 1, 8,
  2, 45, 3, 50, 1, 1, 3, 2, 2, 5, 2, 1, 1, 41, 5, 5, 2, 236, 8, 1, 2, 20272, 1, 737, 16, 16, 16, 3,
  2, 24, 3, 239, 1, 94, 2, 605, 1, 226, 1, 149, 5, 1670, 3, 1, 2, 5, 4, 40, 3, 4, 1, 165, 2, 573, 4,
  387, 2, 153, 11, 49, 4, 122, 3, 53, 15, 41, 1, 2, 2, 10, 4, 45, 11, 7, 1, 61, 3, 36, 14, 16, 2,
  44, 1, 12, 3, 48, 14, 8, 4, 1, 2, 92, 12, 6, 1, 160, 12, 21, 4, 55, 2, 1, 7, 2, 2, 2, 3, 9, 1, 10,
  2, 2, 7, 3, 5, 192, 18, 23, 1, 81, 20, 235, 7, 2, 9, 27, 2, 82, 17, 106, 13, 101, 15, 256, 15,
  245, 6, 1, 2, 2, 4, 1, 1, 1, 2, 141, 7, 2, 7, 3, 1, 28, 10, 40, 7, 1, 4, 8, 1, 9, 11, 46, 16, 405,
  8, 1, 8, 82, 22, 1, 14, 122, 6, 3, 1, 1, 2, 1, 7, 1, 1, 66, 5, 1, 2, 1, 5, 347, 4, 19449, 5, 59,
  7, 1048, 1, 1, 55, 7, 4, 81, 1, 11, 2, 19627, 2, 4705, 46, 2, 23, 542, 5, 3, 6, 8, 8, 2, 7, 30, 4,
  148, 3, 1979, 55, 4, 50, 8, 1, 14, 1, 22, 5, 1, 15, 1360, 7, 1, 17, 2, 7, 1, 2, 1, 5, 261, 7, 375,
  1, 61, 4, 1504, 7, 109, 7, 792501, 240]

/-- May the code point start an identifier? -/
def isIdentifierStart (c : Nat) : Bool := isLetter c != inBounds irregularStartBounds c

/-- May the code point stand inside an identifier? -/
def isIdentifierRest (c : Nat) : Bool :=
  isIdentifierStart c || isDigit c || inBounds identifierMarkBounds c

/-- Is the text a non-empty identifier? -/
def isIdentifier : List Char → Bool
  | [] => false
  | c :: cs => isIdentifierStart c.toNat && cs.all fun d => isIdentifierRest d.toNat

theorem isIdentifier_ascii : ∀ c < 128, isAsciiWord c = false →
    isIdentifierStart c = false ∧ isIdentifierRest c = false := by decide +kernel

/-- An ASCII character that may stand nowhere in an identifier. -/
theorem not_mem_of_isIdentifier {cs : List Char} (h : isIdentifier cs = true) {c : Char}
    (hascii : c.toNat < 128) (hword : isAsciiWord c.toNat = false) : c ∉ cs := by
  obtain ⟨hstart, hrest⟩ := isIdentifier_ascii c.toNat hascii hword
  cases cs with
  | nil => exact List.not_mem_nil
  | cons d ds =>
    rw [isIdentifier, Bool.and_eq_true, List.all_eq_true] at h
    intro hmem
    obtain rfl | hmem := List.mem_cons.mp hmem
    · exact absurd h.1 (by simp [hstart])
    · exact absurd (h.2 c hmem) (by simp [hrest])

end Marginalia.Text
