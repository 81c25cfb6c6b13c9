import Marginalia.Console
import Marginalia.Report.Widths

/-!
# Tables

A table has columns with headers and rows of cells.  A column is as wide as its widest line, unless
the console has not enough columns for all of them.  A cell with several lines makes its row several
lines high.  A plain table has two spaces between its columns; a boxed one has a frame and a space
on each side of every cell.
-/

namespace Marginalia.Report

/-- A column. -/
structure Column where
  header : String
  centred : Bool := false
  wrap : Bool := true
deriving DecidableEq, Repr

/-- The spaces on the two sides of the cells of a column. -/
structure Margins where
  left : Nat := 1
  right : Nat := 1
deriving DecidableEq, Repr

/-- The columns that margins take. -/
def Margins.width (m : Margins) : Nat := m.left + m.right

/-- A table of texts; every row has a cell for each column. -/
structure Grid where
  columns : List Column
  rows : List (List Console.Seamed)
deriving DecidableEq, Repr

/-! ## Lines of a cell -/

/-- Is the character a line boundary of any kind? -/
def isLineBoundary (c : Char) : Bool :=
  [0x0a, 0x0b, 0x0c, 0x0d, 0x1c, 0x1d, 0x1e, 0x85, 0x2028, 0x2029].contains c.toNat

/-- The columns that a cell asks for: those of its widest line. -/
def measure (cell : Console.Seamed) : Nat :=
  ((Console.splitAtChars isLineBoundary cell.plain).map Text.width).foldl max 0

/-- A line in the middle of a column. -/
def centre (size : Nat) (line : Console.Seamed) : Console.Seamed :=
  let line := line.mapEnd fun cs => Text.shorten size (Text.stripEnd cs)
  line.after (List.replicate ((size - Text.width line.plain) / 2) ' ')

/-- A line that fills its column.  Spaces are added for the width of the whole line, and then once
more if its runs take fewer columns than that. -/
def fill (c : Column) (size : Nat) (line : Console.Seamed) : List Char :=
  let line := if c.centred then centre size line else line.mapEnd (Text.shorten size)
  { line with plain := Text.padRight size line.plain }.settle size

/-- The lines of the text of a cell, each of the given width. -/
def textLines (c : Column) (size : Nat) (cell : Console.Seamed) : List (List Char) :=
  cell.lines.flatMap fun line =>
    let line := line.expandTabs
    let parts := if c.wrap then line.divide (Text.divide .ellipsis size) else [line]
    parts.map fun part => fill c size (part.mapEnd (Text.trimExcess size))

/-- The lines of a cell, each as wide as its column.  A column that is all margin shows nothing. -/
def cellLines (c : Column) (m : Margins) (size : Nat) (cell : Console.Seamed) : List (List Char) :=
  if size ≤ m.width then []
  else (textLines c (size - m.width) cell).map fun line =>
    List.replicate m.left ' ' ++ line ++ List.replicate m.right ' '

/-! ## Rows -/

/-- The cells of the header. -/
def Grid.header (g : Grid) : List Console.Seamed := g.columns.map fun c => ⟨c.header.toList, []⟩

/-- The widths that the texts of the columns ask for. -/
def Grid.textWidths (g : Grid) : List Nat :=
  g.rows.foldl (fun ws row => (ws.zip (row.map measure)).map fun (a, b) => max a b)
    (g.header.map measure)

/-- The widths of the columns with their margins, which have the given number of columns of the
console for themselves. -/
def Grid.widths (g : Grid) (margins : List Margins) (limit : Nat) : List Nat :=
  fitWidths limit (g.columns.map (·.wrap))
    ((g.textWidths.zip margins).map fun (w, m) => min (w + m.width) limit)

/-- A column as it is laid out. -/
structure Slot where
  column : Column
  margins : Margins
  width : Nat
deriving DecidableEq, Repr

/-- The columns of a table as they are laid out. -/
def Grid.slots (g : Grid) (margins : List Margins) (limit : Nat) : List Slot :=
  (g.columns.zip (margins.zip (g.widths margins limit))).map fun (c, m, w) => ⟨c, m, w⟩

/-- The lines of a row, cell by cell; short cells have empty lines below. -/
def rowLines (slots : List Slot) (row : List Console.Seamed) : List (List (List Char)) :=
  let cells := (slots.zip row).map fun (s, cell) =>
    (s.width, cellLines s.column s.margins s.width cell)
  let height := (cells.map fun (_, ls) => ls.length).foldl max 1
  (List.range height).map fun i =>
    cells.map fun (w, ls) => (ls[i]?).getD (List.replicate w ' ')

/-- A line of text. -/
def textLine (cs : List Char) : String := String.ofList (cs ++ ['\n'])

/-! ## Plain tables -/

/-- The margins of a plain table: nothing stands before the first column or after the last. -/
def plainMargins (count : Nat) : List Margins :=
  (List.range count).map fun i => ⟨if i = 0 then 0 else 1, if i + 1 = count then 0 else 1⟩

/-- The table without any frame, on a console of the given width. -/
def Grid.plain (g : Grid) (size : Nat) : String :=
  let slots := g.slots (plainMargins g.columns.length) size
  String.join (((g.header :: g.rows).flatMap (rowLines slots)).map fun cells =>
    textLine cells.flatten)

/-! ## Boxed tables -/

/-- The characters of a horizontal line of a frame. -/
structure Border where
  left : Char
  line : Char
  cross : Char
  right : Char
deriving DecidableEq, Repr

/-- A horizontal line over columns of the given widths. -/
def Border.draw (b : Border) (widths : List Nat) : String :=
  textLine
    (b.left :: [b.cross].intercalate (widths.map fun w => List.replicate w b.line) ++ [b.right])

/-- A line of cells between vertical lines. -/
def between (bar : Char) (cells : List (List Char)) : String :=
  textLine (bar :: [bar].intercalate cells ++ [bar])

/-- The top of a frame. -/
def topBorder : Border := ⟨'┏', '━', '┳', '┓'⟩

/-- The line under the header. -/
def headBorder : Border := ⟨'┡', '━', '╇', '┩'⟩

/-- The bottom of a frame. -/
def bottomBorder : Border := ⟨'└', '─', '┴', '┘'⟩

/-- The table in a frame, on a console of the given width. -/
def Grid.boxed (g : Grid) (size : Nat) : String :=
  let count := g.columns.length
  let slots := g.slots (List.replicate count {}) (size - (count + 1))
  let widths := slots.map (·.width)
  let lines (bar : Char) (rows : List (List Console.Seamed)) : String :=
    String.join ((rows.flatMap (rowLines slots)).map (between bar))
  topBorder.draw widths ++ lines '┃' [g.header] ++ headBorder.draw widths ++ lines '│' g.rows ++
    bottomBorder.draw widths

end Marginalia.Report
