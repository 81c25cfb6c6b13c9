import Marginalia.Text.Ranges

/-!
# White space

White space, and the two newline-free subsets that patterns and plain text use.
-/

namespace Marginalia.Text

/-- Boundaries of the white space characters of Unicode 14, separators `0x1c` to `0x1f` included. -/
def blankBounds : List Nat := [
  9, 5, 14, 5, 100, 1, 26, 1, 5599, 1, 2431, 11, 29, 2, 5, 1, 47, 1, 4000, 1]

/-- Is the code point white space? -/
def isBlank (c : Nat) : Bool := inBounds blankBounds c

/-- Is the code point ASCII white space: a space, or one of tab, line feed, vertical tab, form feed
and carriage return? -/
def isAsciiBlank (c : Nat) : Bool := c == 0x20 || (0x09 ≤ c && c ≤ 0x0d)

/-- Is the character white space? -/
def isBlankChar (c : Char) : Bool := isBlank c.toNat

/-- Lines put together, without the spaces at their starts. -/
def unindented (s : String) : List Char :=
  (s.toList.splitBy fun _ c => c != '\n').flatMap fun line =>
    line.dropWhile fun c => c == '\n' || c == ' '

/-- The parts of a text between white space. -/
def fields : List Char → List (List Char)
  | [] => []
  | c :: cs =>
    if isBlankChar c then fields cs
    else if cs.head?.all isBlankChar then [c] :: fields cs
    else match fields cs with
      | [] => [[c]]
      | f :: fs => (c :: f) :: fs

end Marginalia.Text
