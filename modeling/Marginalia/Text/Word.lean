import Marginalia.Text.Digit
import Marginalia.Text.Letter

/-!
# Word characters

A word character is a letter, a character with a numeric value, or the underscore.  Combining marks
are not word characters.
-/

namespace Marginalia.Text

/-- Boundaries of the characters with a numeric value, in Unicode 14, that are neither letters nor
decimal digits. -/
def numeralBounds : List Nat := [
  178, 2, 5, 1, 2, 3, 2357, 6, 376, 6, 120, 3, 133, 7, 217, 7, 17, 9, 433, 10, 1077, 20, 881, 3,
  255, 10, 480, 1, 1685, 1, 3, 6, 6, 10, 198, 51, 2, 5, 726, 60, 78, 22, 630, 30, 1385, 1, 777, 1,
  25, 9, 14, 3, 343, 4, 138, 10, 30, 8, 1, 15, 32, 10, 39, 15, 29734, 10, 320, 6, 22737, 45, 12, 57,
  17, 2, 341, 27, 36, 4, 29, 1, 8, 1, 134, 5, 1154, 8, 25, 7, 39, 9, 75, 5, 22, 6, 160, 2, 2, 16, 2,
  46, 64, 9, 52, 2, 30, 3, 75, 5, 104, 8, 24, 8, 41, 7, 330, 6, 352, 31, 158, 10, 42, 4, 112, 7,
  134, 20, 379, 20, 1349, 2, 430, 9, 871, 19, 851, 21, 1067, 111, 18156, 7, 798, 23, 25673, 20, 108,
  25, 5454, 9, 929, 59, 1, 3, 1, 4, 76, 45, 1, 15, 962, 13]

/-- Is the code point a letter or a character with a numeric value? -/
def isAlphanumeric (c : Nat) : Bool := isLetter c || isDigit c || inBounds numeralBounds c

/-- Is the code point a word character? -/
def isWord (c : Nat) : Bool := isAlphanumeric c || c == 0x5f

/-- Is the code point an ASCII letter, an ASCII digit or the underscore? -/
def isAsciiWord (c : Nat) : Bool :=
  (0x30 ≤ c && c ≤ 0x39) || (0x41 ≤ c && c ≤ 0x5a) || (0x61 ≤ c && c ≤ 0x7a) || c == 0x5f

/-- Among the ASCII characters there are no other word characters. -/
theorem isWord_ascii : ∀ c < 128, isWord c = isAsciiWord c := by decide +kernel

end Marginalia.Text
