import Marginalia.Proofs.Console.Lines
import Marginalia.Report.Grid
import Mathlib.Algebra.Order.BigOperators.Group.List
import Mathlib.Algebra.Order.Group.Nat
import Mathlib.Data.List.Forall2

/-!
# The first column of a plain table

If the console has enough columns, each column of a table gets what it asks for (`Grid.widths_of_fits`),
so a text of the first column that stands in one line is not cut.  It is filled up with spaces, and if
its row has further lines there are only spaces below it (`Shows`).  The rows follow one another in
the order of the table (`Grid.plain_shows`).
-/

namespace Marginalia

namespace Text

/-- A plain character adds its columns. -/
theorem widthFrom_cons {c : Char} (hjoiner : c ≠ joiner) (hselector : c ≠ wideSelector)
    (total : Nat) (measured : Option Char) (cs : List Char) :
    widthFrom total measured (c :: cs) =
      widthFrom (total + columns c) (if columns c = 0 then measured else some c) cs := by
  rw [widthFrom.eq_def]
  dsimp only
  rw [if_neg hjoiner, if_neg hselector]

/-- Spaces add one column each. -/
theorem widthFrom_spaces (total : Nat) (measured : Option Char) (n : Nat) :
    widthFrom total measured (List.replicate n ' ') = total + n := by
  have hcolumns : columns ' ' = 1 := by decide +kernel
  induction n generalizing total measured with
  | zero => rfl
  | succ n ih =>
    rw [List.replicate_succ, widthFrom_cons (by decide) (by decide), ih, hcolumns]
    omega

/-- Spaces behind a text add their number to its width, unless a joiner would hide the first one. -/
theorem widthFrom_append_spaces {cs : List Char} (h : cs.getLast? ≠ some joiner) (total : Nat)
    (measured : Option Char) (n : Nat) :
    widthFrom total measured (cs ++ List.replicate n ' ') = widthFrom total measured cs + n := by
  have htail {c : Char} {cs : List Char} (h : (c :: cs).getLast? ≠ some joiner) :
      cs.getLast? ≠ some joiner := by
    cases cs with
    | nil => nofun
    | cons d cs => rwa [List.getLast?_cons_cons] at h
  fun_induction widthFrom total measured cs with
  | case1 total measured => exact widthFrom_spaces total measured n
  | case2 total measured => exact absurd rfl h
  | case3 total measured d cs ih =>
    rw [← ih (htail (htail h)), List.cons_append, List.cons_append, widthFrom.eq_def]
    simp
  | case4 total measured cs hne ih =>
    rw [← ih (htail h), List.cons_append, widthFrom.eq_def]
    simp [hne]
  | case5 total measured c cs hjoiner hselector k ih =>
    rw [← ih (htail h), List.cons_append, widthFrom_cons hjoiner hselector]

/-- A padded text has the width of its column. -/
theorem width_padRight {cs : List Char} (h : cs.getLast? ≠ some joiner) {size : Nat}
    (hsize : width cs ≤ size) : width (padRight size cs) = size := by
  rw [padRight, width, widthFrom_append_spaces h]
  exact Nat.add_sub_cancel' hsize

theorem trimExcess_of_getLast? {size : Nat} {cs : List Char} {c : Char}
    (h : cs.getLast? = some c) (hc : isBlankChar c = false) : trimExcess size cs = cs := by
  have hblanks : cs.reverse.takeWhile isBlankChar = [] := by
    obtain ⟨before, rfl⟩ := List.getLast?_eq_some_iff.mp h
    rw [List.reverse_append, List.reverse_singleton, List.singleton_append, List.takeWhile_cons,
      hc]
    rfl
  rw [trimExcess, hblanks, List.length_nil, Nat.zero_min, Nat.sub_zero, List.take_length]

end Text

namespace Report

open Console

/-! ## A cell with one line -/

/-- A text that stands in one line, and ends with a character that spaces can follow. -/
structure OneLine (cs : List Char) : Prop where
  chars : ∀ c ∈ cs, Text.staysInLine c = true ∧ isLineBoundary c = false
  last : ∃ c, cs.getLast? = some c ∧ Text.isBlankChar c = false ∧ c ≠ Text.joiner

section

variable {cs : List Char} (hcs : OneLine cs)

include hcs

/-- One line is measured by its width. -/
theorem measure_of_oneLine : measure ⟨cs, []⟩ = Text.width cs := by
  rw [measure, splitAtChars_of_forall fun c hc => (hcs.chars c hc).2]
  exact Nat.max_eq_right (Nat.zero_le _)

/-- One line that fits is padded. -/
theorem textLines_of_oneLine {c : Column} (hwrap : c.wrap = false) (hcentred : c.centred = false)
    {size : Nat} (hsize : Text.width cs ≤ size) :
    textLines c size ⟨cs, []⟩ = [Text.padRight size cs] := by
  obtain ⟨d, hlast, hblank, hjoiner⟩ := hcs.last
  have hlines : Seamed.lines ⟨cs, []⟩ = [⟨cs, []⟩] := by
    rw [Seamed.lines, splitAtChars_of_forall fun c hc => by
      simpa using (Text.ne_of_staysInLine (hcs.chars c hc).1).1]
    rfl
  have htabs : Text.expandTabs cs = cs :=
    Text.expandTabs_of_forall fun c hc => (Text.ne_of_staysInLine (hcs.chars c hc).1).2
  have hpadded : Text.width (Text.padRight size cs) = size :=
    Text.width_padRight (by rw [hlast]; simpa using hjoiner) hsize
  simp only [textLines, hlines, List.flatMap_cons, List.flatMap_nil, List.append_nil,
    Seamed.expandTabs, htabs, hwrap, Bool.false_eq_true, if_false, List.map_cons, List.map_nil,
    Seamed.mapEnd, Text.trimExcess_of_getLast? hlast hblank, fill, hcentred, Text.shorten,
    if_neg (Nat.not_lt.mpr hsize)]
  simp [Seamed.settle, Seamed.cut, Seamed.width, Seamed.runs, runsFrom, hpadded]

/-- A cell at the left edge is filled up to the width of its column and the margin after it. -/
theorem cellLines_of_oneLine {c : Column} (hwrap : c.wrap = false) (hcentred : c.centred = false)
    {m : Margins} (hleft : m.left = 0) {size : Nat} (hpos : 0 < size)
    (hsize : Text.width cs ≤ size) :
    cellLines c m (size + m.width) ⟨cs, []⟩ = [Text.padRight (size + m.width) cs] := by
  have hpadded : Text.padRight size cs ++ List.replicate m.right ' ' =
      Text.padRight (size + m.width) cs := by
    rw [Text.padRight, List.append_assoc, List.replicate_append_replicate, Text.padRight,
      Margins.width, hleft]
    congr 2
    omega
  rw [cellLines, if_neg (by omega), Nat.add_sub_cancel,
    textLines_of_oneLine hcs hwrap hcentred hsize, List.map_singleton, hleft, List.replicate_zero,
    List.nil_append, hpadded]

end

/-! ## Widths -/

theorem le_totalWidth {widths : List Nat} {w : Nat} (h : w ∈ widths) : w ≤ totalWidth widths := by
  rw [totalWidth, ← List.sum_eq_foldl_nat]
  exact List.single_le_sum (fun _ _ => Nat.zero_le _) w h

namespace Grid

/-- The widths that the columns ask for, with their margins. -/
def asked (g : Grid) (margins : List Margins) : List Nat :=
  (g.textWidths.zip margins).map fun (w, m) => w + m.width

/-- The console has enough columns for what all columns of a plain table ask for. -/
def Fits (g : Grid) (size : Nat) : Prop :=
  totalWidth (g.asked (plainMargins g.columns.length)) ≤ size

/-- A table that fits has the widths it asks for. -/
theorem widths_of_fits {g : Grid} {margins : List Margins} {limit : Nat}
    (h : totalWidth (g.asked margins) ≤ limit) : g.widths margins limit = g.asked margins := by
  have hmin : ((g.textWidths.zip margins).map fun (w, m) => min (w + m.width) limit) =
      g.asked margins := by
    refine List.map_congr_left fun p hp => Nat.min_eq_left (Nat.le_trans (le_totalWidth ?_) h)
    exact List.mem_map.mpr ⟨p, hp, rfl⟩
  rw [widths, hmin, fitWidths, if_pos h]

/-- The first column is as wide as its header and as the first cell of each row. -/
theorem textWidths_cons {g : Grid} {c : Column} {columns : List Column}
    (hcolumns : g.columns = c :: columns) (hrows : ∀ row ∈ g.rows, row ≠ []) :
    ∃ w ws, g.textWidths = w :: ws ∧ measure ⟨c.header.toList, []⟩ ≤ w ∧
      ∀ cell cells, cell :: cells ∈ g.rows → measure cell ≤ w := by
  rw [textWidths, header, hcolumns, List.map_cons, List.map_cons]
  generalize measure ⟨c.header.toList, []⟩ = first
  generalize (columns.map _).map measure = others
  generalize g.rows = rows at hrows ⊢
  induction rows generalizing first others with
  | nil => exact ⟨first, others, rfl, Nat.le_refl _, by simp⟩
  | cons row rows ih =>
    obtain ⟨hrow, hrest⟩ := List.forall_mem_cons.mp hrows
    obtain ⟨cell, cells, rfl⟩ := List.exists_cons_of_ne_nil hrow
    obtain ⟨w, ws, hws, hfirst, hall⟩ := ih (max first (measure cell))
      ((others.zip (cells.map measure)).map fun p => max p.1 p.2) hrest
    refine ⟨w, ws, hws, by omega, fun cell' cells' hmem => ?_⟩
    obtain heq | hmem := List.mem_cons.mp hmem
    · cases heq
      omega
    · exact hall cell' cells' hmem

end Grid

/-! ## Rows -/

/-- The lines of a row whose first cell shows a text: the text filled up with spaces to a width that
exceeds its own, and below it only spaces. -/
def Shows (width : Nat) (cs : List Char) (lines : List (List Char)) : Prop :=
  Text.width cs < width ∧ ∃ (rest : List Char) (more : List (List Char)),
    lines = (Text.padRight width cs ++ rest) :: more.map (List.replicate width ' ' ++ ·)

/-- A first cell with one line leaves spaces below it. -/
theorem rowLines_cons {s : Slot} {cell : Seamed} {line : List Char}
    (h : cellLines s.column s.margins s.width cell = [line]) (slots : List Slot)
    (cells : List Seamed) :
    ∃ (rest : List (List Char)) (more : List (List (List Char))), rowLines (s :: slots) (cell :: cells) =
      (line :: rest) :: more.map (List.replicate s.width ' ' :: ·) := by
  have hheight (total : Nat) (ns : List Nat) : total ≤ ns.foldl max total := by
    induction ns generalizing total with
    | nil => exact Nat.le_refl total
    | cons n ns ih => exact Nat.le_trans (Nat.le_max_left total n) (ih _)
  rw [rowLines]
  dsimp only
  rw [List.zip_cons_cons, List.map_cons, h]
  generalize (slots.zip cells).map _ = others
  obtain ⟨height, hsucc⟩ := Nat.exists_eq_add_of_le' (hheight 1 _)
  rw [hsucc, List.range_succ_eq_map, List.map_cons, List.map_map]
  refine ⟨others.map fun p => (p.2[0]?).getD (List.replicate p.1 ' '),
    (List.range height).map fun i => others.map fun p =>
      (p.2[i + 1]?).getD (List.replicate p.1 ' '), ?_⟩
  rw [List.map_map]
  rfl

theorem plainMargins_succ (n : Nat) : ∃ ms, plainMargins (n + 2) = ⟨0, 1⟩ :: ms := by
  rw [plainMargins, List.range_succ_eq_map, List.map_cons, if_pos rfl, if_neg (by omega)]
  exact ⟨_, rfl⟩

/-- A row shows the text in its first column. -/
theorem shows_rowLines {c : Column} (hwrap : c.wrap = false) (hcentred : c.centred = false)
    {cs : List Char} (hcs : OneLine cs) {w : Nat} (hpos : 0 < w) (hw : measure ⟨cs, []⟩ ≤ w)
    (slots : List Slot) (cells : List Seamed) :
    Shows (w + 1) cs
      ((rowLines (⟨c, ⟨0, 1⟩, w + 1⟩ :: slots) (⟨cs, []⟩ :: cells)).map List.flatten) := by
  rw [measure_of_oneLine hcs] at hw
  have hcell : cellLines c ⟨0, 1⟩ (w + 1) ⟨cs, []⟩ = [Text.padRight (w + 1) cs] :=
    cellLines_of_oneLine hcs hwrap hcentred rfl hpos hw
  obtain ⟨rest, more, hlines⟩ := rowLines_cons (s := ⟨c, ⟨0, 1⟩, w + 1⟩) hcell slots cells
  refine ⟨Nat.lt_succ_of_le hw, rest.flatten, more.map List.flatten, ?_⟩
  rw [hlines, List.map_cons, List.flatten_cons, List.map_map, List.map_map]
  rfl

/-- In a plain table that fits, a first column that is not divided shows its texts, row by row. -/
theorem Grid.plain_shows {α : Type} {xs : List α} {text : α → List Char} {cells : α → List Seamed}
    {g : Grid} (hrows : g.rows = xs.map fun x => ⟨text x, []⟩ :: cells x)
    (hxs : ∀ x ∈ xs, OneLine (text x)) {c d : Column} {columns : List Column}
    (hcolumns : g.columns = c :: d :: columns) (hwrap : c.wrap = false)
    (hcentred : c.centred = false) (hheader : OneLine c.header.toList)
    (hpos : 0 < Text.width c.header.toList) {size : Nat} (hfits : g.Fits size) :
    ∃ w header rows, g.plain size = String.join ((header ++ rows.flatten).map textLine) ∧
      Shows w c.header.toList header ∧ List.Forall₂ (fun x lines => Shows w (text x) lines) xs rows := by
  have hne : ∀ row ∈ g.rows, row ≠ [] := by
    rw [hrows]
    simp
  obtain ⟨w, ws, hwidths, hfirst, hall⟩ := g.textWidths_cons hcolumns hne
  obtain ⟨ms, hmargins⟩ := plainMargins_succ columns.length
  have hw : 0 < w := by
    rw [measure_of_oneLine hheader] at hfirst
    omega
  -- The table is no wider than the console, so the first column has the width it asks for.
  have hslots : ∃ slots, g.slots (plainMargins g.columns.length) size =
      ⟨c, ⟨0, 1⟩, w + 1⟩ :: slots := by
    rw [slots, widths_of_fits hfits, asked, hwidths, hcolumns, List.length_cons, List.length_cons,
      hmargins]
    exact ⟨_, rfl⟩
  obtain ⟨slots, hslots⟩ := hslots
  let lines (row : List Seamed) : List (List Char) :=
    (rowLines (⟨c, ⟨0, 1⟩, w + 1⟩ :: slots) row).map List.flatten
  refine ⟨w + 1, lines g.header, xs.map fun x => lines (⟨text x, []⟩ :: cells x), ?_, ?_, ?_⟩
  · rw [Grid.plain, hslots, hrows]
    simp [lines, List.flatMap_def, Function.comp_def, List.map_flatten]
  · have hcells : g.header = ⟨c.header.toList, []⟩ :: (d :: columns).map fun c =>
        ⟨c.header.toList, []⟩ := by
      rw [Grid.header, hcolumns, List.map_cons]
    rw [hcells]
    exact shows_rowLines hwrap hcentred hheader hw hfirst _ _
  · rw [List.forall₂_map_right_iff, List.forall₂_same]
    intro x hx
    have hmem : (⟨text x, []⟩ :: cells x : List Seamed) ∈ g.rows := by
      rw [hrows]
      exact List.mem_map.mpr ⟨x, hx, rfl⟩
    exact shows_rowLines hwrap hcentred (hxs x hx) hw (hall _ _ hmem) _ _

end Report

end Marginalia
