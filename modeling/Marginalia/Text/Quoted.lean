import Marginalia.Text.Hex
import Marginalia.Text.Printable

/-!
# Quoted text

Diagnostics show a text between quotes.  Single quotes are used, unless the text has a single quote
and no double quote.  Inside, the quote and the backslash get a backslash, line feed, carriage
return and tab are written by letter, and a character that is not printable is written by its code.
-/

namespace Marginalia.Text

/-- A character that is not printable, written by its code in two, four or eight digits. -/
def escapedCode (c : Char) : List Char :=
  let n := c.toNat
  if n < 0x100 then '\\' :: 'x' :: hex 2 n
  else if n < 0x10000 then '\\' :: 'u' :: hex 4 n
  else '\\' :: 'U' :: hex 8 n

/-- One character as it stands between two quotes `q`. -/
def quotedChar (q c : Char) : List Char :=
  if c = q ∨ c = '\\' then ['\\', c]
  else if c = '\n' then ['\\', 'n']
  else if c = '\r' then ['\\', 'r']
  else if c = '\t' then ['\\', 't']
  else if isPrintable c.toNat then [c]
  else escapedCode c

/-- The quote that a text is shown with. -/
def quoteFor (cs : List Char) : Char :=
  if cs.contains '\'' && !cs.contains '"' then '"' else '\''

/-- A text between quotes. -/
def quotedChars (cs : List Char) : List Char :=
  let q := quoteFor cs
  q :: cs.flatMap (quotedChar q) ++ [q]

/-- A text between quotes, as diagnostics show it. -/
def quoted (s : String) : String := String.ofList (quotedChars s.toList)

end Marginalia.Text
