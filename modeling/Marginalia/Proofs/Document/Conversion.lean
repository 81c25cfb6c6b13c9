import Marginalia.Proofs.Document.Positions

/-!
# Offsets and positions from anywhere

Offsets and positions that come from outside may lie anywhere.  An offset is moved into the text and
then has one position, from which it is found again (`Document.position_exact`).  A position is
moved into its line, or to an end of the text if there is no such line, and the order of positions
is kept (`Document.offset_clamps`).

The table of line starts and the lines themselves say the same of a text: each line ends where the
next one begins, one line feed earlier (`exists_line`).  So what `offsetIn` cuts off at the next
start is cut off at the length of the line.
-/

namespace Marginalia

/-! ## Lines -/

/-- The last offset of a line: that of its line feed, or the end of the text. -/
def lineStop (starts : List Nat) (size line : Nat) : Nat :=
  match starts[line + 1]? with
  | some next => next - 1
  | none => size

/-- Lines start within the text. -/
theorem le_of_mem_startsAfter {index x : Nat} {text : List Char} (h : x ∈ startsAfter index text) :
    x ≤ index + text.length := by
  induction text generalizing index with
  | nil => cases h
  | cons c text ih =>
    rw [List.length_cons]
    unfold startsAfter at h
    split at h
    · rcases List.mem_cons.mp h with rfl | h
      · omega
      · have := ih h
        omega
    · have := ih h
      omega

/-- There are as many lines as parts between line ends. -/
theorem length_lineStarts (text : List Char) :
    (lineStarts text).length = (text.splitOn '\n').length := by
  have hafter : ∀ index, (startsAfter index text).length + 1 = (text.splitOn '\n').length := by
    induction text with
    | nil => exact fun _ => rfl
    | cons c text ih =>
      intro index
      rw [startsAfter, List.splitOn_cons_eq_if_modifyHead]
      by_cases hc : c = '\n'
      · simp [hc, ih]
      · simp [hc, ih]
  exact hafter 0

/-- A line reaches from its start to its last offset. -/
theorem exists_line {text : List Char} {index line start : Nat}
    (h : (index :: startsAfter index text)[line]? = some start) :
    ∃ chars, (text.splitOn '\n')[line]? = some chars ∧
      start + chars.length =
        lineStop (index :: startsAfter index text) (index + text.length) line := by
  induction text generalizing index line start with
  | nil =>
    cases line with
    | zero =>
      cases h
      exact ⟨[], rfl, rfl⟩
    | succ line => cases h
  | cons c text ih =>
    have hsize : index + (c :: text).length = index + 1 + text.length := by
      rw [List.length_cons]
      omega
    rw [startsAfter] at h ⊢
    rw [List.splitOn_cons_eq_if_modifyHead, hsize]
    by_cases hc : c = '\n'
    · rw [if_pos hc] at h ⊢
      rw [if_pos (beq_iff_eq.mpr hc)]
      cases line with
      | zero =>
        cases h
        exact ⟨[], rfl, rfl⟩
      | succ line => exact ih h
    · rw [if_neg hc] at h ⊢
      rw [if_neg (by simpa using hc)]
      -- The character belongs to the first line of the rest, which then starts one earlier.
      obtain ⟨first, rest, hlines⟩ := List.exists_cons_of_ne_nil (List.splitOn_ne_nil '\n' text)
      cases line with
      | zero =>
        cases h
        obtain ⟨chars, hchars, hstop⟩ := @ih (index + 1) 0 (index + 1) rfl
        rw [hlines] at hchars ⊢
        cases hchars
        refine ⟨c :: first, rfl, ?_⟩
        rw [List.length_cons, ← Nat.add_assoc, Nat.add_right_comm]
        exact hstop
      | succ line =>
        obtain ⟨chars, hchars, hstop⟩ := @ih (index + 1) (line + 1) start h
        rw [hlines] at hchars ⊢
        exact ⟨chars, hchars, hstop⟩

section

variable {text : List Char} {p q : Position} {line start offset : Nat}

/-- A line ends within the text. -/
theorem lineStop_le (text : List Char) (line : Nat) :
    lineStop (lineStarts text) text.length line ≤ text.length := by
  unfold lineStop
  split
  · rename_i next hnext
    have := le_of_mem_startsAfter (List.mem_of_getElem? hnext)
    omega
  · exact Nat.le_refl _

/-- An offset between the ends of a line lies in it. -/
theorem liesIn_of_le_lineStop (hstart : (lineStarts text)[line]? = some start)
    (hle : start ≤ offset) (hstop : offset ≤ lineStop (lineStarts text) text.length line) :
    LiesIn (lineStarts text) offset line start := by
  refine ⟨hstart, hle, fun next hnext => ?_⟩
  have hpos : 0 < next := lt_of_mem_startsAfter (List.mem_of_getElem? hnext)
  rw [lineStop, hnext] at hstop
  exact Nat.lt_of_le_pred hpos hstop

/-- There is only one line in which an offset lies. -/
theorem LiesIn.positionIn_eq (h : LiesIn (lineStarts text) offset line start) :
    positionIn (lineStarts text) offset = ⟨line, (offset : Int) - start⟩ := by
  obtain ⟨line', start', hposition, h'⟩ := positionIn_liesIn text offset
  have hle := h.line_le (lineStarts_increasing text) h' (Nat.le_refl offset)
  have hge := h'.line_le (lineStarts_increasing text) h (Nat.le_refl offset)
  obtain rfl : line = line' := Nat.le_antisymm hle hge
  obtain rfl : start = start' := Option.some.inj (h.line_start.symm.trans h'.line_start)
  exact hposition

/-! ## The offset of a position -/

/-- Before the first line is the start. -/
theorem offsetIn_of_line_lt {starts : List Nat} {size : Nat} (h : p.line < 0) :
    offsetIn starts size p = 0 := if_pos h

/-- Behind the last line is the end. -/
theorem offsetIn_of_line_ge {starts : List Nat} {size : Nat} (h : (starts.length : Int) ≤ p.line) :
    offsetIn starts size p = size := by
  have hline : ¬p.line < 0 := by omega
  have hnone : starts[p.line.toNat]? = none := List.getElem?_eq_none (by omega)
  rw [offsetIn, if_neg hline, hnone]

/-- A column is cut to its line. -/
theorem offsetIn_of_line {starts : List Nat} {size : Nat} (hline : 0 ≤ p.line)
    (hstart : starts[p.line.toNat]? = some start) :
    offsetIn starts size p =
      min (start + p.character.toNat) (lineStop starts size p.line.toNat) := by
  rw [offsetIn, if_neg (by omega), hstart]
  rfl

/-- A position is before the first line, behind the last one, or in a line. -/
theorem line_cases (starts : List Nat) (p : Position) :
    p.line < 0 ∨ (starts.length : Int) ≤ p.line ∨
      0 ≤ p.line ∧ ∃ start, starts[p.line.toNat]? = some start := by
  by_cases hline : p.line < 0
  · exact .inl hline
  · by_cases hcount : (starts.length : Int) ≤ p.line
    · exact .inr (.inl hcount)
    · have hlt : p.line.toNat < starts.length := by omega
      exact .inr (.inr ⟨by omega, _, List.getElem?_eq_getElem hlt⟩)

/-- Every offset lies within the text. -/
theorem offsetIn_le (text : List Char) (p : Position) :
    offsetIn (lineStarts text) text.length p ≤ text.length := by
  obtain hline | hcount | ⟨hline, start, hstart⟩ := line_cases (lineStarts text) p
  · rw [offsetIn_of_line_lt hline]
    exact Nat.zero_le _
  · exact Nat.le_of_eq (offsetIn_of_line_ge hcount)
  · rw [offsetIn_of_line hline hstart]
    exact Nat.le_trans (Nat.min_le_right _ _) (lineStop_le text _)

theorem Position.atMost_iff :
    p.atMost q = true ↔ p.line < q.line ∨ p.line = q.line ∧ p.character ≤ q.character := by
  obtain ⟨line, character⟩ := p
  obtain ⟨line', character'⟩ := q
  simp only [atMost, before, Bool.or_eq_true, Bool.and_eq_true, decide_eq_true_eq, beq_iff_eq,
    Position.mk.injEq]
  omega

/-- A line ends before any later one starts. -/
theorem lineStop_lt {line' start' : Nat} (h : line < line')
    (hstart : (lineStarts text)[line']? = some start') :
    lineStop (lineStarts text) text.length line < start' := by
  obtain ⟨hlt, rfl⟩ := List.getElem?_eq_some_iff.mp hstart
  have hnext : line + 1 < (lineStarts text).length := by omega
  have hpos : 0 < (lineStarts text)[line + 1] :=
    lt_of_mem_startsAfter (List.mem_of_getElem? (List.getElem?_eq_getElem hnext))
  rw [lineStop, List.getElem?_eq_getElem hnext]
  dsimp only
  rcases Nat.eq_or_lt_of_le h with rfl | hlater
  · exact Nat.sub_one_lt_of_lt hpos
  · have := List.pairwise_iff_getElem.mp (lineStarts_increasing text) _ _ hnext hlt hlater
    omega

/-- The order of positions is kept. -/
theorem offsetIn_mono (h : p.atMost q = true) :
    offsetIn (lineStarts text) text.length p ≤ offsetIn (lineStarts text) text.length q := by
  have hle := Position.atMost_iff.mp h
  obtain hline | hcount | ⟨hline, start, hstart⟩ := line_cases (lineStarts text) p
  · rw [offsetIn_of_line_lt hline]
    exact Nat.zero_le _
  · have hcount' : (lineStarts text).length ≤ q.line := by omega
    exact Nat.le_of_eq ((offsetIn_of_line_ge hcount).trans (offsetIn_of_line_ge hcount').symm)
  · obtain hline' | hcount' | ⟨hline', start', hstart'⟩ := line_cases (lineStarts text) q
    · omega
    · rw [offsetIn_of_line_ge hcount']
      exact offsetIn_le text p
    · rw [offsetIn_of_line hline hstart, offsetIn_of_line hline' hstart']
      rcases hle with hlt | ⟨heq, hcharacter⟩
      · -- The first line is over before the second begins, and no offset of it is further on.
        have hend : lineStop (lineStarts text) text.length p.line.toNat < start' :=
          lineStop_lt (by omega) hstart'
        obtain ⟨chars, -, hstop⟩ := exists_line hstart'
        rw [Nat.zero_add] at hstop
        unfold lineStarts at hend ⊢
        omega
      · rw [heq] at hstart ⊢
        obtain rfl : start = start' := Option.some.inj (hstart.symm.trans hstart')
        omega

/-- A position in a line is found again, with its character moved into the line. -/
theorem positionIn_offsetIn {chars : List Char} (hline : 0 ≤ p.line)
    (hchars : (text.splitOn '\n')[p.line.toNat]? = some chars) :
    positionIn (lineStarts text) (offsetIn (lineStarts text) text.length p) =
      ⟨p.line, max 0 (min p.character chars.length)⟩ := by
  have hlt : p.line.toNat < (lineStarts text).length := by
    rw [length_lineStarts]
    exact (List.getElem?_eq_some_iff.mp hchars).1
  have hstart := List.getElem?_eq_getElem hlt
  generalize (lineStarts text)[p.line.toNat] = start at hstart
  obtain ⟨chars', hchars', hstop⟩ := exists_line hstart
  obtain rfl : chars = chars' := Option.some.inj (hchars.symm.trans hchars')
  rw [Nat.zero_add] at hstop
  change start + chars.length = lineStop (lineStarts text) text.length p.line.toNat at hstop
  have hlies : LiesIn (lineStarts text) (min (start + p.character.toNat) (start + chars.length))
      p.line.toNat start := liesIn_of_le_lineStop hstart (by omega) (by omega)
  rw [offsetIn_of_line hline hstart, ← hstop, hlies.positionIn_eq]
  congr 1 <;> omega

end

/-! ## The position of an offset -/

/-- Without a line feed, characters belong to the line behind which they stand. -/
theorem lastLine_append (before : List Char) {after : List Char} (h : '\n' ∉ after) :
    lastLine (before ++ after) = lastLine before ++ after := by
  have hall : ∀ c ∈ after.reverse, (c != '\n') = true := by
    intro c hc
    rw [bne_iff_ne]
    rintro rfl
    exact h (List.mem_reverse.mp hc)
  rw [lastLine, List.reverse_append, List.takeWhile_append_of_pos hall, List.reverse_append,
    List.reverse_reverse, lastLine]

/-- The characters after the last line feed, if there is one. -/
theorem lastLine_of_eq {text before after : List Char} (htext : text = before ++ '\n' :: after)
    (h : '\n' ∉ after) : lastLine text = after := by
  rw [htext, ← List.singleton_append, ← List.append_assoc, lastLine_append _ h]
  simp [lastLine]

namespace Document

/-- The document after its text was replaced several times. -/
def setTexts (doc : Document) (texts : List String) : Document :=
  texts.foldl (fun doc text => (doc.setText (some text)).1) doc

theorem text_setTexts (doc : Document) (texts : List String) (text : String) :
    (doc.setTexts (texts ++ [text])).text = some text := by
  rw [setTexts, List.foldl_append]
  rfl

/-- Offsets and their positions, in a document whose text was replaced any number of times: an
offset `o` is moved to `c` in the text, its line is the number of line feeds before `c`, its
character the number of characters since the last of them, and the position leads back to `c`.  Of
two offsets in the text the first has the position that comes before. -/
theorem position_exact (doc : Document) (texts : List String) (text : String) :
    (∀ o c : Int, c = max 0 (min o text.toList.length) →
      ∃ p, (doc.setTexts (texts ++ [text])).position o = .ok p ∧
        p.line = (text.toList.take c.toNat).count '\n' ∧
        (∀ before after, text.toList.take c.toNat = before ++ '\n' :: after → '\n' ∉ after →
          p.character = c - (before.length + 1)) ∧
        ('\n' ∉ text.toList.take c.toNat → p.character = c) ∧
        ((doc.setTexts (texts ++ [text])).offset p).map Int.ofNat = .ok c) ∧
    ∀ a b : Int, 0 ≤ a → a < b → b ≤ text.toList.length →
      ∃ p q, (doc.setTexts (texts ++ [text])).position a = .ok p ∧
        (doc.setTexts (texts ++ [text])).position b = .ok q ∧ p.before q = true := by
  have htext := text_setTexts doc texts text
  -- Only the last text counts.
  generalize doc.setTexts (texts ++ [text]) = doc at htext
  constructor
  · intro o c hc
    have hmin : min o.toNat text.toList.length = c.toNat := by omega
    have hle : c.toNat ≤ text.toList.length := by omega
    have hlength : (text.toList.take c.toNat).length = c.toNat := by
      rw [List.length_take, Nat.min_eq_left hle]
    have hposition : doc.position o = .ok (positionIn (lineStarts text.toList) c.toNat) := by
      rw [position_eq htext, hmin]
    refine ⟨_, hposition, ?_⟩
    rw [offset_eq htext, offsetIn_positionIn hle, positionIn_lineStarts hle]
    refine ⟨rfl, fun before after htake hafter => ?_, fun hnone => ?_, ?_⟩
    · rw [htake, List.length_append, List.length_cons] at hlength
      dsimp only
      rw [lastLine_of_eq htake hafter]
      omega
    · have hline := lastLine_append [] hnone
      rw [List.nil_append] at hline
      dsimp only
      rw [hline]
      simp only [lastLine, List.reverse_nil, List.takeWhile_nil, List.nil_append, hlength]
      omega
    · show Except.ok (c.toNat : Int) = _
      rw [Int.toNat_of_nonneg (by omega)]
  · intro a b ha hab hb
    refine ⟨_, _, position_eq htext a, position_eq htext b, positionIn_before ?_⟩
    omega

/-- The second text has an empty line, and the offset lies behind its end. -/
theorem position_exact_edited :
    ((4 : Int) = max 0 (min 9 "b\n\nc".toList.length) ∧
      ∃ p, (setTexts ⟨some "", "c", "", true⟩ ["a", "b\n\nc"]).position 9 = .ok p ∧ p = ⟨2, 1⟩ ∧
        ((setTexts ⟨some "", "c", "", true⟩ ["a", "b\n\nc"]).offset p).map Int.ofNat = .ok 4) ∧
    ((0 : Int) ≤ 1 ∧ (1 : Int) < 2 ∧ (2 : Int) ≤ "b\n\nc".toList.length ∧
      ∃ p q, (setTexts ⟨some "", "c", "", true⟩ ["a", "b\n\nc"]).position 1 = .ok p ∧
        (setTexts ⟨some "", "c", "", true⟩ ["a", "b\n\nc"]).position 2 = .ok q ∧
        p.before q = true) := by
  obtain ⟨hposition, horder⟩ := position_exact ⟨some "", "c", "", true⟩ ["a"] "b\n\nc"
  obtain ⟨⟨line, character⟩, hp, hline, hcharacter, -, hoffset⟩ := hposition 9 4 (by decide)
  obtain rfl : line = 2 := hline
  obtain rfl : character = 1 := hcharacter ['b', '\n'] ['c'] (by decide) (by decide)
  exact ⟨⟨by decide, _, hp, rfl, hoffset⟩, by decide, by decide, by decide,
    horder 1 2 (by decide) (by decide) (by decide)⟩

/-- Positions and their offsets: the offset of a position lies in the text, positions in order have
offsets in order, and the position of the offset of `p` is the start of the text if `p` is before
the first line, the end of the text if it is behind the last line, and otherwise in the line of `p`,
with the character moved into the line; so it is `p` if the line has that character. -/
theorem offset_clamps {doc : Document} {text : String} (htext : doc.text = some text) :
    doc.lineCount = (text.toList.splitOn '\n').length ∧
    (∀ p, ∃ n, doc.offset p = .ok n ∧ n ≤ text.toList.length ∧
      (p.line < 0 → doc.position n = .ok ⟨0, 0⟩) ∧
      (doc.lineCount ≤ p.line → doc.position n = doc.position text.toList.length) ∧
      ∀ line, 0 ≤ p.line → (text.toList.splitOn '\n')[p.line.toNat]? = some line →
        doc.position n = .ok ⟨p.line, max 0 (min p.character line.length)⟩ ∧
        (0 ≤ p.character → p.character ≤ line.length → doc.position n = .ok p)) ∧
    ∀ p q m n, p.atMost q = true → doc.offset p = .ok m → doc.offset q = .ok n → m ≤ n := by
  have hcount : doc.lineCount = (lineStarts text.toList).length := by
    rw [lineCount, starts, chars_eq htext]
  refine ⟨hcount.trans (length_lineStarts _), fun p => ?_, fun p q m n h hm hn => ?_⟩
  · have hle := offsetIn_le text.toList p
    have hposition : ∀ n : Nat, n ≤ text.toList.length →
        doc.position n = .ok (positionIn (lineStarts text.toList) n) := by
      intro n hn
      rw [position_eq htext, Int.toNat_natCast, Nat.min_eq_left hn]
    refine ⟨_, offset_eq htext p, hle, fun hline => ?_, fun hline => ?_,
      fun line hline hchars => ?_⟩
    · rw [hposition _ hle, offsetIn_of_line_lt hline, positionIn_lineStarts (Nat.zero_le _)]
      rfl
    · rw [hcount] at hline
      rw [offsetIn_of_line_ge hline]
    · rw [hposition _ hle, positionIn_offsetIn hline hchars]
      refine ⟨rfl, fun hnonneg hlength => ?_⟩
      rw [Int.min_eq_left hlength, Int.max_eq_right hnonneg]
  · rw [offset_eq htext] at hm hn
    cases hm
    cases hn
    exact offsetIn_mono h

/-- The last line is empty, the first character is behind the end of its line. -/
theorem offset_clamps_trailing :
    (Document.mk (some "ab\n") "c" "" true).text = some "ab\n" ∧
      (∃ n, (Document.mk (some "ab\n") "c" "" true).offset ⟨0, 7⟩ = .ok n ∧
        (Document.mk (some "ab\n") "c" "" true).position n = .ok ⟨0, 2⟩) ∧
      ∃ n, (Document.mk (some "ab\n") "c" "" true).offset ⟨1, 0⟩ = .ok n ∧
        (Document.mk (some "ab\n") "c" "" true).position n = .ok ⟨1, 0⟩ := by
  have htext : (Document.mk (some "ab\n") "c" "" true).text = some "ab\n" := rfl
  obtain ⟨-, hclamps, -⟩ := offset_clamps htext
  obtain ⟨n, hn, -, -, -, hfirst⟩ := hclamps ⟨0, 7⟩
  obtain ⟨m, hm, -, -, -, hlast⟩ := hclamps ⟨1, 0⟩
  exact ⟨htext, ⟨n, hn, (hfirst ['a', 'b'] (by decide) (by decide)).1⟩,
    m, hm, (hlast [] (by decide) (by decide)).2 (by decide) (by decide)⟩

end Document

end Marginalia
