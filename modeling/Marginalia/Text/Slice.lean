/-!
# Parts of a text

A text that is searched is an array of characters, so positions are numbers of characters.
-/

namespace Marginalia.Text

/-- The characters from `i` up to but not including `j`. -/
def slice (text : Array Char) (i j : Nat) : String := String.ofList (text.extract i j).toList

/-- The characters of a text. -/
def chars (s : String) : Array Char := s.toList.toArray

end Marginalia.Text
