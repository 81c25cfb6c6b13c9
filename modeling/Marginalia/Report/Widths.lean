import Marginalia.Number.Double

/-!
# Columns that share a width

Each column of a table asks for a width.  If together they ask for more than there is, the widest of
the columns that can be divided into lines give way first, down to the width of the next widest, and
so on.  If that is not enough every column gives something up.
-/

namespace Marginalia.Report

/-- The width of a column, whether it gives something up, and the most that it can give up. -/
structure Share where
  width : Nat
  gives : Bool
  most : Nat
deriving DecidableEq, Repr

/-- Is there anything to be had from the column? -/
def Share.isGiver (s : Share) : Bool := s.gives && s.most != 0

/-- Takes the excess off the columns from the left on.  Each of the givers to come gives an equal
part of what is left, rounded, but never more than it can. -/
def takeFrom (excess givers : Nat) : List Share → List Nat
  | [] => []
  | s :: ss =>
    if s.isGiver then
      let part := min s.most (Number.Double.roundDiv excess givers)
      (s.width - part) :: takeFrom (excess - part) (givers - 1) ss
    else s.width :: takeFrom excess givers ss

/-- Takes the excess off the columns. -/
def reduce (excess : Nat) (shares : List Share) : List Nat :=
  takeFrom excess (shares.countP Share.isGiver) shares

/-- The sum of widths. -/
def totalWidth (widths : List Nat) : Nat := widths.foldl (· + ·) 0

/-- Makes the widest of the columns that can be divided narrower, until all fit or have nothing left
to give.  Every step takes something off, so as many steps as the widths add up to are enough. -/
def collapse (limit : Nat) (divisible : List Bool) : Nat → List Nat → List Nat
  | 0, widths => widths
  | steps + 1, widths =>
    let excess := totalWidth widths - limit
    let candidates := ((widths.zip divisible).filter Prod.snd).map Prod.fst
    let widest := candidates.foldl max 0
    let next := (candidates.filter (· != widest)).foldl max 0
    if excess = 0 || widest = next then widths
    else
      let most := min excess (widest - next)
      collapse limit divisible steps (reduce excess
        ((widths.zip divisible).map fun (w, d) => ⟨w, d && w == widest, most⟩))

/-- The widths of columns that may not exceed the limit together. -/
def fitWidths (limit : Nat) (divisible : List Bool) (widths : List Nat) : List Nat :=
  if totalWidth widths ≤ limit then widths
  else
    let widths := collapse limit divisible (totalWidth widths) widths
    reduce (totalWidth widths - limit) (widths.map fun w => ⟨w, true, w⟩)

end Marginalia.Report
