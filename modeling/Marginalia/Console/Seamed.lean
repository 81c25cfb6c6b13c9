import Marginalia.Text.Wrap

/-!
# Texts in runs

A text is printed in runs: parts that have a style of their own.  The width of a printed line is the
sum of the widths of its runs, so nothing joins characters across a seam between two runs.

A `Seamed` text knows its seams, and keeps them while its tabs are expanded and its lines divided.
-/

namespace Marginalia.Console

/-- Splits a text at characters of a kind. -/
def splitAtChars (sep : Char → Bool) : List Char → List (List Char)
  | [] => [[]]
  | c :: cs =>
    if sep c then [] :: splitAtChars sep cs
    else match splitAtChars sep cs with
      | [] => [[c]]
      | part :: parts => (c :: part) :: parts

/-- Splits a text that starts at `offset` at the seams, which are places in increasing order. -/
def runsFrom (offset : Nat) : List Nat → List Char → List (List Char)
  | [], cs => [cs]
  | s :: seams, cs =>
    if s < offset then runsFrom offset seams cs
    else cs.take (s - offset) :: runsFrom s seams (cs.drop (s - offset))

/-- The runs that fit after `used` columns. -/
def cutRuns (size used : Nat) : List (List Char) → List Char
  | [] => []
  | r :: rs =>
    let w := Text.width r
    if used + w < size then r ++ cutRuns size (used + w) rs else Text.fit (size - used) r

/-- A text and the seams between its runs, which are places in increasing order. -/
structure Seamed where
  plain : List Char
  seams : List Nat := []
deriving DecidableEq, Repr

namespace Seamed

/-- The runs of the text. -/
def runs (t : Seamed) : List (List Char) := runsFrom 0 t.seams t.plain

/-- The columns that the runs take. -/
def width (t : Seamed) : Nat := (t.runs.map Text.width).foldl (· + ·) 0

/-- The text changed at its end.  Seams beyond what is left are moved to its end. -/
def mapEnd (f : List Char → List Char) (t : Seamed) : Seamed :=
  let cs := f t.plain
  ⟨cs, t.seams.map (min · cs.length)⟩

/-- The text after another one. -/
def after (cs : List Char) (t : Seamed) : Seamed := ⟨cs ++ t.plain, t.seams.map (cs.length + ·)⟩

/-- The text with its tabs expanded. -/
def expandTabs (t : Seamed) : Seamed :=
  ⟨Text.expandTabs t.plain, t.seams.map fun s => (Text.expandTabs (t.plain.take s)).length⟩

/-- The parts of a text with the given seams; the first one starts at `start`, and `gap` characters
stand between two of them. -/
def partsFrom (seams : List Nat) (gap start : Nat) : List (List Char) → List Seamed
  | [] => []
  | part :: parts =>
    let inside := seams.filter fun s => start ≤ s && s ≤ start + part.length
    ⟨part, inside.map (· - start)⟩ :: partsFrom seams gap (start + part.length + gap) parts

/-- The lines of the text. -/
def lines (t : Seamed) : List Seamed := partsFrom t.seams 1 0 (splitAtChars (· == '\n') t.plain)

/-- The text divided into parts that follow one another. -/
def divide (f : List Char → List (List Char)) (t : Seamed) : List Seamed :=
  partsFrom t.seams 0 0 (f t.plain)

/-- The text, cut if it is too wide. -/
def cut (size : Nat) (t : Seamed) : List Char :=
  if size < t.width then cutRuns size 0 t.runs else t.plain

/-- The text, cut or filled up with spaces to the given width. -/
def settle (size : Nat) (t : Seamed) : List Char :=
  t.cut size ++ List.replicate (size - t.width) ' '

end Seamed

end Marginalia.Console
