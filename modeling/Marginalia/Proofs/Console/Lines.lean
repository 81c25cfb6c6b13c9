import Marginalia.Console
import Marginalia.Text.Control
import Mathlib.Algebra.Ring.Nat
import Mathlib.Data.List.Basic

/-!
# Lines that fit are printed as they are

`Text.reach` counts at least one column for each character of a text.  It bounds both what the text
takes on the console and how many characters it has, and unlike the width of a text it is the sum of
those of its parts.  So a line whose reach does not exceed the console is divided nowhere, wherever
its words end and its seams are, and loses nothing at its end (`Console.print_line`).
-/

namespace Marginalia

namespace Text

/-- The columns of the characters of a text, each of which counts for one at least. -/
def reach (cs : List Char) : Nat := (cs.map fun c => max 1 (columns c)).sum

/-- The first character and the rest. -/
theorem reach_cons (c : Char) (cs : List Char) : reach (c :: cs) = max 1 (columns c) + reach cs := by
  simp [reach]

/-- Two texts side by side. -/
theorem reach_append (cs ds : List Char) : reach (cs ++ ds) = reach cs + reach ds := by
  simp [reach]

/-- Every character counts. -/
theorem length_le_reach (cs : List Char) : cs.length ≤ reach cs := by
  induction cs with
  | nil => exact Nat.le_refl 0
  | cons c cs ih =>
    rw [reach_cons, List.length_cons]
    omega

/-- Each step of the measure adds no more than it counts. -/
theorem widthFrom_le_reach (total : Nat) (measured : Option Char) (cs : List Char) :
    widthFrom total measured cs ≤ total + reach cs := by
  fun_induction widthFrom total measured cs with
  | case1 total => exact Nat.le_add_right total _
  | case2 total => exact Nat.le_add_right total _
  | case3 total measured c cs ih =>
    rw [reach_cons, reach_cons]
    omega
  | case4 total measured cs _ ih =>
    have hwidened : (if measured.any isWidened then total + 1 else total) ≤ total + 1 := by
      split <;> omega
    rw [reach_cons]
    omega
  | case5 total measured c cs _ _ n ih =>
    rw [reach_cons]
    omega

/-- No text is wider than it counts. -/
theorem width_le_reach (cs : List Char) : width cs ≤ reach cs := by
  simpa [width] using widthFrom_le_reach 0 none cs

/-! ## Words -/

/-- The words of a text are all of it. -/
theorem flatten_words (cs : List Char) : (words cs).flatten = cs := by
  induction cs with
  | nil => rfl
  | cons c cs ih =>
    rw [words]
    cases hwords : words cs with
    | nil =>
      rw [hwords] at ih
      simp [← ih]
    | cons w ws =>
      rw [hwords, List.flatten_cons] at ih
      -- The blanks at the start of the first word may be given to the word before it.
      have hw := List.takeWhile_append_dropWhile (p := isBlankChar) (l := w)
      dsimp only
      split
      · simp [ih]
      · split
        · simp [ih]
        · simp only [List.flatten_cons, List.cons_append, ← List.append_assoc, hw, ih]

/-- Stripping makes a text no wider. -/
theorem reach_stripEnd_le (cs : List Char) : reach (stripEnd cs) ≤ reach cs := by
  have hends : stripEnd cs ++ (cs.reverse.takeWhile isBlankChar).reverse = cs := by
    rw [stripEnd, ← List.reverse_append, List.takeWhile_append_dropWhile, List.reverse_reverse]
  calc reach (stripEnd cs)
      ≤ reach (stripEnd cs) + reach (cs.reverse.takeWhile isBlankChar).reverse :=
        Nat.le_add_right _ _
    _ = reach cs := by rw [← reach_append, hends]

/-- Words that fit are put on one line. -/
theorem divideWords_of_reach {overflow : Overflow} {size used : Nat} {line : List Char}
    {ws : List (List Char)} (h : used + reach ws.flatten ≤ size) :
    divideWords overflow size line used ws = [line ++ ws.flatten] := by
  induction ws generalizing line used with
  | nil => simp [divideWords]
  | cons word ws ih =>
    rw [List.flatten_cons, reach_append] at h
    have hword := width_le_reach word
    have hneeded := Nat.le_trans (width_le_reach (stripEnd word)) (reach_stripEnd_le word)
    rw [divideWords.eq_def]
    dsimp only
    rw [if_pos (by omega), ih (by omega), List.flatten_cons, List.append_assoc]

/-- A text that fits is not divided. -/
theorem divide_of_reach {overflow : Overflow} {size : Nat} {cs : List Char}
    (h : reach cs ≤ size) : divide overflow size cs = [cs] := by
  rw [← flatten_words cs] at h
  rw [divide, divideWords_of_reach (by omega), flatten_words, List.nil_append]

/-! ## What is done to a line -/

/-- A property of characters can be checked one by one. -/
theorem forall_of_all {p : Char → Prop} [DecidablePred p] {cs : List Char}
    (h : (cs.all fun c => decide (p c)) = true) : ∀ c ∈ cs, p c :=
  fun c hc => of_decide_eq_true (List.all_eq_true.mp h c hc)

/-- Does the character stay in its line as it is?  Those that do not are the control characters from
the bell to the carriage return, which are lost or end or shift the line. -/
def staysInLine (c : Char) : Bool := c.toNat < 7 || 13 < c.toNat

/-- A character that stays is not dropped. -/
theorem isDropped_of_staysInLine {c : Char} (h : staysInLine c = true) : isDropped c = false := by
  rw [staysInLine, Bool.or_eq_true, decide_eq_true_iff, decide_eq_true_iff] at h
  simp only [isDropped, List.contains_eq_mem, List.mem_cons, List.not_mem_nil, or_false,
    decide_eq_false_iff_not]
  omega

/-- Nor is it the end of a line or a tab. -/
theorem ne_of_staysInLine {c : Char} (h : staysInLine c = true) : c ≠ '\n' ∧ c ≠ '\t' :=
  ⟨fun hc => absurd (hc ▸ h) (by decide), fun hc => absurd (hc ▸ h) (by decide)⟩

/-- Without tabs there are none to expand. -/
theorem expandTabs_of_forall {cs : List Char} (h : ∀ c ∈ cs, c ≠ '\t') : expandTabs cs = cs := by
  have hfrom (column : Nat) (part : List Char) :
      expandTabsFrom column part cs = part.reverse ++ cs := by
    induction cs generalizing part with
    | nil => simp [expandTabsFrom]
    | cons c cs ih =>
      obtain ⟨hc, hcs⟩ := List.forall_mem_cons.mp h
      rw [expandTabsFrom, if_neg hc, ih hcs, List.reverse_cons, List.append_assoc,
        List.singleton_append]
  exact hfrom 0 []

/-- A text that is short enough is not trimmed. -/
theorem trimExcess_of_length {size : Nat} {cs : List Char} (h : cs.length ≤ size) :
    trimExcess size cs = cs := by
  rw [trimExcess, Nat.sub_eq_zero_of_le h, Nat.min_zero, Nat.sub_zero, List.take_length]

end Text

namespace Console

/-- Without separators there is one part. -/
theorem splitAtChars_of_forall {sep : Char → Bool} {cs : List Char}
    (h : ∀ c ∈ cs, sep c = false) : splitAtChars sep cs = [cs] := by
  induction cs with
  | nil => rfl
  | cons c cs ih =>
    obtain ⟨hc, hcs⟩ := List.forall_mem_cons.mp h
    rw [splitAtChars, if_neg (by simp [hc]), ih hcs]

/-- The runs of a text are all of it. -/
theorem flatten_runsFrom (offset : Nat) (seams : List Nat) (cs : List Char) :
    (runsFrom offset seams cs).flatten = cs := by
  induction seams generalizing offset cs with
  | nil => simp [runsFrom]
  | cons s seams ih =>
    rw [runsFrom]
    split
    · exact ih offset cs
    · rw [List.flatten_cons, ih, List.take_append_drop]

/-- Runs are no wider together than the text counts. -/
theorem widths_le_reach (total : Nat) (runs : List (List Char)) :
    (runs.map Text.width).foldl (· + ·) total ≤ total + Text.reach runs.flatten := by
  induction runs generalizing total with
  | nil => exact Nat.le_add_right total _
  | cons r runs ih =>
    have hwidth := Text.width_le_reach r
    have hrest := ih (total + Text.width r)
    rw [List.flatten_cons, Text.reach_append, List.map_cons, List.foldl_cons]
    omega

namespace Seamed

/-- The same with seams. -/
theorem width_le_reach (t : Seamed) : t.width ≤ Text.reach t.plain := by
  have hruns := widths_le_reach 0 t.runs
  rwa [runs, flatten_runsFrom, Nat.zero_add] at hruns

/-- A text that fits is not cut. -/
theorem cut_of_reach {size : Nat} {t : Seamed} (h : Text.reach t.plain ≤ size) :
    t.cut size = t.plain :=
  if_neg (Nat.not_lt.mpr (Nat.le_trans t.width_le_reach h))

/-- A text without line ends is one line. -/
theorem lines_of_forall {t : Seamed} (h : ∀ c ∈ t.plain, c ≠ '\n') :
    ∃ seams, t.lines = [⟨t.plain, seams⟩] := by
  rw [lines, splitAtChars_of_forall (by simpa using h)]
  exact ⟨_, rfl⟩

end Seamed

/-- A line that fits is printed as it is, whatever its seams are. -/
theorem print_line {size : Nat} {t : Seamed} (hline : ∀ c ∈ t.plain, Text.staysInLine c = true)
    (hwide : Text.reach t.plain ≤ size) :
    print size t = String.ofList (t.plain ++ ['\n']) := by
  have hprinted (seams : List Nat) :
      printLine size ⟨t.plain, seams⟩ = String.ofList (t.plain ++ ['\n']) := by
    have hwidth := Nat.le_trans (Text.width_le_reach t.plain) hwide
    have hend : Text.crop size (Text.trimExcess size t.plain) = t.plain := by
      rw [Text.trimExcess_of_length (Nat.le_trans (Text.length_le_reach t.plain) hwide), Text.crop,
        if_neg (Nat.not_lt.mpr hwidth)]
    have hcut (places : List Nat) : Seamed.cut size ⟨t.plain, places⟩ = t.plain :=
      Seamed.cut_of_reach hwide
    rw [printLine, Seamed.mapEnd, hend, hcut]
  obtain ⟨seams, hlines⟩ := Seamed.lines_of_forall fun c hc => (Text.ne_of_staysInLine (hline c hc)).1
  have htabs := Text.expandTabs_of_forall fun c hc => (Text.ne_of_staysInLine (hline c hc)).2
  have hdivided : Text.divide .fold size t.plain = [t.plain] := Text.divide_of_reach hwide
  simp only [print, hlines, List.flatMap_cons, List.flatMap_nil, List.append_nil,
    Seamed.expandTabs, htabs, Seamed.divide, hdivided, Seamed.partsFrom, List.map_cons,
    List.map_nil, hprinted]
  simp [String.join]

end Console

end Marginalia
