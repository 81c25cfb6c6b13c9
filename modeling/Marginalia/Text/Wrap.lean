import Marginalia.Text.Blank
import Marginalia.Text.Width

/-!
# Lines that fit

A line that is too wide is divided between words.  A word keeps the white space after it, and the
first one also the white space before it; white space at the end of a line does not count.  A word
that is wider than a whole line is folded, or left to stick out and cut afterwards.
-/

namespace Marginalia.Text

/-- What is done with a word that is wider than a line. -/
inductive Overflow
  /-- It is continued on further lines. -/
  | fold
  /-- It is cut, and an ellipsis says so. -/
  | ellipsis
deriving DecidableEq, Repr

/-- The text without white space at its end. -/
def stripEnd (cs : List Char) : List Char := (cs.reverse.dropWhile isBlankChar).reverse

/-- The words of a line with the white space around them; together they are the line. -/
def words : List Char → List (List Char)
  | [] => []
  | c :: cs =>
    match words cs with
    | [] => [[c]]
    | w :: ws =>
      if isBlankChar c || !w.head?.any isBlankChar then (c :: w) :: ws
      else
        match w.dropWhile isBlankChar with
        | [] => (c :: w) :: ws
        | rest => (c :: w.takeWhile isBlankChar) :: rest :: ws

/-- The line begun, if there is anything in it. -/
def begun (line : List Char) : List (List Char) := if line.isEmpty then [] else [line]

/-- The words in lines; `line` is begun and takes `used` columns. -/
def divideWords (overflow : Overflow) (size : Nat) :
    List Char → Nat → List (List Char) → List (List Char)
  | line, _, [] => [line]
  | line, used, word :: words =>
    let needed := width (stripEnd word)
    if used + needed ≤ size then
      divideWords overflow size (line ++ word) (used + width word) words
    else if size < needed then
      match overflow with
      | .ellipsis => begun line ++ divideWords overflow size word (width word) words
      | .fold =>
        let pieces := chop size word
        let last := pieces.getLastD []
        begun line ++ pieces.dropLast ++ divideWords overflow size last (width last) words
    else if used = 0 || line.isEmpty then divideWords overflow size (line ++ word) used words
    else line :: divideWords overflow size word (width word) words

/-- A line in parts that fit, as far as its words allow it. -/
def divide (overflow : Overflow) (size : Nat) (cs : List Char) : List (List Char) :=
  divideWords overflow size [] 0 (words cs)

/-- Takes away white space at the end of a line that has more characters than columns. -/
def trimExcess (size : Nat) (cs : List Char) : List Char :=
  let blanks := (cs.reverse.takeWhile isBlankChar).length
  cs.take (cs.length - min blanks (cs.length - size))

/-- Makes sure that a line is not too wide. -/
def Overflow.limit (overflow : Overflow) (size : Nat) (cs : List Char) : List Char :=
  match overflow with
  | .fold => crop size cs
  | .ellipsis => shorten size cs

/-- A line in parts that fit. -/
def wrap (overflow : Overflow) (size : Nat) (cs : List Char) : List (List Char) :=
  (divide overflow size cs).map fun line =>
    overflow.limit size (trimExcess size line)

/-! ## Tabs -/

/-- The distance between tab stops. -/
def tabSize : Nat := 8

/-- The spaces that are missing to the next tab stop. -/
def toTabStop (column : Nat) : Nat :=
  if column % tabSize = 0 then 0 else tabSize - column % tabSize

/-- Expands the tabs of a line from a column on.  A tab counts as one space of the `part` before it,
the latest character first, and more spaces lead to the next tab stop. -/
def expandTabsFrom (column : Nat) (part : List Char) : List Char → List Char
  | [] => part.reverse
  | c :: cs =>
    if c = '\t' then
      let shown := (' ' :: part).reverse
      let next := column + width shown
      let missing := toTabStop next
      shown ++ List.replicate missing ' ' ++ expandTabsFrom (next + missing) [] cs
    else expandTabsFrom column (c :: part) cs

/-- The line with its tabs expanded. -/
def expandTabs (cs : List Char) : List Char := expandTabsFrom 0 [] cs

end Marginalia.Text
