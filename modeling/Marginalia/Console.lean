import Marginalia.Console.Accent
import Marginalia.Console.Seamed
import Marginalia.Markup.Basic

/-!
# Text on a console

What is printed has its tabs expanded to multiples of eight columns, and lines that are too wide are
divided; what still exceeds the console is cut off.  Titles and messages are markup.
-/

namespace Marginalia.Console

/-- A line as it is printed. -/
def printLine (size : Nat) (t : Seamed) : String :=
  String.ofList ((t.mapEnd fun cs => Text.crop size (Text.trimExcess size cs)).cut size ++ ['\n'])

/-- A text as it is printed on a console of the given width, with a line feed at its end. -/
def print (size : Nat) (t : Seamed) : String :=
  let parts := t.lines.flatMap fun line => line.expandTabs.divide (Text.divide .fold size)
  String.join (parts.map (printLine size))

/-- Rendered markup with its seams. -/
def seamed (r : Markup.Rendered) : Seamed := ⟨r.plain, r.ends.mergeSort⟩

/-- Rendered markup with its seams and those of its accents. -/
def accented (r : Markup.Rendered) : Seamed := ⟨r.plain, (r.ends ++ accentSeams r.plain).mergeSort⟩

/-- Markup as it is printed. -/
def printMarkup (size : Nat) (cs : List Char) : Except Markup.Error String :=
  (Markup.shown cs).map fun r => print size (seamed r)

/-- Markup as it is printed with accents. -/
def printAccented (size : Nat) (cs : List Char) : Except Markup.Error String :=
  (Markup.shown cs).map fun r => print size (accented r)

/-! ## Rules with a title -/

/-- The character of a rule. -/
def ruleChar : Char := '─'

/-- A title on a single line. -/
def titleLine (cs : List Char) : List Char := cs.map fun c => if c = '\n' then ' ' else c

/-- A line of the given width with a title in its middle. -/
def rule (size : Nat) (title : List Char) : Except Markup.Error String := do
  let t := accented (← Markup.shown title)
  let t := { t with plain := titleLine t.plain }.expandTabs.mapEnd (Text.shorten (size - 4))
  let side := (size - Text.width t.plain) / 2
  let left := List.replicate (side - 1) ruleChar ++ [' ']
  let right := ' ' :: List.replicate (side + 1) ruleChar
  let t := { t with seams := 0 :: t.seams ++ [t.plain.length] }.after left
  return print size (t.mapEnd fun cs => Text.fit size (cs ++ right))

end Marginalia.Console
