/-!
# Control characters

Five control characters are never printed: the bell, backspace, vertical tab, form feed and carriage
return.
-/

namespace Marginalia.Text

/-- Is the character taken out of what is printed? -/
def isDropped (c : Char) : Bool := [7, 8, 11, 12, 13].contains c.toNat

/-- The text without those control characters. -/
def sanitize (cs : List Char) : List Char := cs.filter (!isDropped ·)

end Marginalia.Text
