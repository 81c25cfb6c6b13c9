/-!
# Lines and characters

A position of a text is a line and a character in it, both counted from zero.  Lines end at line
feeds. The starts of all lines are listed once for a text; an offset is then located in the last
line that starts at or before it.
-/

namespace Marginalia

/-- A line and a character in it.  Positions that come from outside may lie anywhere. -/
structure Position where
  line : Int
  character : Int
deriving DecidableEq, Repr

namespace Position

/-- Is the first position before the second? -/
def before (p q : Position) : Bool :=
  p.line < q.line || (p.line == q.line && p.character < q.character)

/-- Is the first position the second, or before it? -/
def atMost (p q : Position) : Bool := p.before q || p == q

end Position

/-- The offsets just after the line feeds of a text that starts at `index`. -/
def startsAfter (index : Nat) : List Char → List Nat
  | [] => []
  | c :: cs => if c = '\n' then (index + 1) :: startsAfter (index + 1) cs
    else startsAfter (index + 1) cs

/-- The offsets at which lines start. -/
def lineStarts (text : List Char) : List Nat := 0 :: startsAfter 0 text

/-- The line of an offset and its start, from the line `line` on, which starts at `start`. -/
def locate (offset : Nat) (line start : Nat) : List Nat → Nat × Nat
  | [] => (line, start)
  | next :: rest => if next ≤ offset then locate offset (line + 1) next rest else (line, start)

/-- The position of an offset in a text with these line starts. -/
def positionIn (starts : List Nat) (offset : Nat) : Position :=
  let (line, start) := locate offset 0 0 starts.tail
  ⟨line, (offset : Int) - start⟩

/-- The offset of a position in a text of the given size with these line starts.  A line before the
first counts as the start of the text and a line after the last as its end; in a line, the character
is moved into the line. -/
def offsetIn (starts : List Nat) (size : Nat) (p : Position) : Nat :=
  if p.line < 0 then 0
  else match starts[p.line.toNat]? with
    | none => size
    | some start =>
      let stop := match starts[p.line.toNat + 1]? with
        | some next => next - 1
        | none => size
      min (start + p.character.toNat) stop

end Marginalia
