import Marginalia.Document.Basic
import Mathlib.Data.List.Count
import Mathlib.Data.List.Induction

/-!
# Offsets and their positions

The position of an offset, which is located among the starts of lines, is the number of line feeds
before the offset and the number of characters since the last of them (`positionIn_lineStarts`).

The starts of the lines put every offset into one line: the last that starts at or before it
(`LiesIn`).  So an offset is found again from its position (`offsetIn_positionIn`), and positions are
in the order of their offsets (`positionIn_before`).
-/

namespace Marginalia

/-! ## Counting -/

/-- The characters after the last line feed. -/
def lastLine (text : List Char) : List Char := (text.reverse.takeWhile (· != '\n')).reverse

/-- A later line starts later. -/
theorem lt_of_mem_startsAfter {index x : Nat} {text : List Char} (h : x ∈ startsAfter index text) :
    index < x := by
  induction text generalizing index with
  | nil => cases h
  | cons c text ih =>
    unfold startsAfter at h
    split at h
    · rcases List.mem_cons.mp h with rfl | h
      · exact Nat.lt_succ_self index
      · exact Nat.lt_of_succ_lt (ih h)
    · exact Nat.lt_of_succ_lt (ih h)

/-- An offset before the next line is in this one. -/
theorem locate_of_forall_lt {offset line start : Nat} {starts : List Nat}
    (h : ∀ x ∈ starts, offset < x) : locate offset line start starts = (line, start) := by
  cases starts with
  | nil => rfl
  | cons next rest =>
    have hnext := h next List.mem_cons_self
    exact if_neg (by omega)

/-- The column behind a text that starts in the given column. -/
def columnBehind (column : Nat) (text : List Char) : Nat :=
  text.foldl (fun column c => if c = '\n' then 0 else column + 1) column

theorem columnBehind_zero (text : List Char) : columnBehind 0 text = (lastLine text).length := by
  unfold columnBehind lastLine
  rw [List.length_reverse]
  induction text using List.reverseRecOn with
  | nil => rfl
  | append_singleton text c ih =>
    rw [List.foldl_append, List.reverse_append, List.foldl_cons, List.foldl_nil, ih]
    by_cases hc : c = '\n' <;> simp [hc]

/-- The line that starts at `start` is `index - start` characters long up to `index`.  To go on from
there by `n` characters counts the line feeds among them, and gives a start that is as far away as
the column says. -/
theorem locate_startsAfter {text : List Char} {n index start : Nat} (line : Nat)
    (hn : n ≤ text.length) (hstart : start ≤ index) :
    (locate (index + n) line start (startsAfter index text)).1 = line + (text.take n).count '\n' ∧
      (locate (index + n) line start (startsAfter index text)).2 +
        columnBehind (index - start) (text.take n) = index + n := by
  induction text generalizing n index line start with
  | nil =>
    obtain rfl : n = 0 := Nat.le_zero.mp hn
    refine ⟨rfl, ?_⟩
    change start + (index - start) = index + 0
    omega
  | cons c text ih =>
    cases n with
    | zero =>
      rw [Nat.add_zero, locate_of_forall_lt fun x hx => lt_of_mem_startsAfter hx]
      refine ⟨rfl, ?_⟩
      change start + (index - start) = index
      omega
    | succ n =>
      have hrest : n ≤ text.length := Nat.le_of_succ_le_succ hn
      have hoffset : index + (n + 1) = index + 1 + n := by omega
      rw [List.take_succ_cons, hoffset]
      unfold startsAfter
      by_cases hc : c = '\n'
      · subst hc
        -- The line that starts here is the one to look in from now on.
        have hnext : index + 1 ≤ index + 1 + n := Nat.le_add_right _ _
        obtain ⟨hline, hcolumn⟩ := ih (line + 1) hrest (Nat.le_refl (index + 1))
        rw [if_pos rfl, locate, if_pos hnext, List.count_cons_self]
        refine ⟨by omega, ?_⟩
        rw [Nat.sub_self] at hcolumn
        exact hcolumn
      · obtain ⟨hline, hcolumn⟩ := ih line hrest (Nat.le_succ_of_le hstart)
        rw [if_neg hc, List.count_cons_of_ne hc]
        refine ⟨hline, ?_⟩
        have hsucc : columnBehind (index - start) (c :: text.take n) =
            columnBehind (index + 1 - start) (text.take n) := by
          have hsub : index + 1 - start = index - start + 1 := by omega
          rw [hsub]
          simp [columnBehind, hc]
        rw [hsucc]
        exact hcolumn

/-- The position of an offset: the line feeds before it, and the characters since the last one. -/
theorem positionIn_lineStarts {text : List Char} {n : Nat} (hn : n ≤ text.length) :
    positionIn (lineStarts text) n =
      ⟨(text.take n).count '\n', (lastLine (text.take n)).length⟩ := by
  obtain ⟨hline, hcolumn⟩ := locate_startsAfter 0 hn (Nat.le_refl 0)
  rw [Nat.zero_add] at hline hcolumn
  rw [Nat.sub_self, columnBehind_zero] at hcolumn
  unfold positionIn lineStarts
  rw [List.tail_cons]
  dsimp only
  congr 1
  · rw [hline, Nat.zero_add]
  · omega

/-! ## The line of an offset -/

/-- The offset lies in the line of the given number, which starts at `start`.  The next line, if there
is one, starts after the offset. -/
structure LiesIn (starts : List Nat) (offset line start : Nat) : Prop where
  line_start : starts[line]? = some start
  start_le : start ≤ offset
  lt_next : ∀ next, starts[line + 1]? = some next → offset < next

/-- An offset is found in the line that it lies in. -/
theorem locate_liesIn {offset start : Nat} (line : Nat) (rest : List Nat) (h : start ≤ offset) :
    ∃ n s, locate offset line start rest = (line + n, s) ∧ LiesIn (start :: rest) offset n s := by
  induction rest generalizing line start with
  | nil => exact ⟨0, start, rfl, rfl, h, nofun⟩
  | cons next rest ih =>
    rw [locate]
    by_cases hnext : next ≤ offset
    · obtain ⟨n, s, hlocate, hin⟩ := ih (line + 1) hnext
      refine ⟨n + 1, s, ?_, hin.line_start, hin.start_le, hin.lt_next⟩
      rw [if_pos hnext, hlocate, Nat.add_right_comm, Nat.add_assoc]
    · refine ⟨0, start, if_neg hnext, rfl, h, ?_⟩
      rintro _ ⟨⟩
      exact Nat.lt_of_not_le hnext

/-- The position of an offset is its line and its distance from the start of the line. -/
theorem positionIn_liesIn (text : List Char) (offset : Nat) :
    ∃ line start : Nat, positionIn (lineStarts text) offset = ⟨line, (offset : Int) - start⟩ ∧
      LiesIn (lineStarts text) offset line start := by
  obtain ⟨n, s, hlocate, hin⟩ := locate_liesIn 0 (startsAfter 0 text) (Nat.zero_le offset)
  rw [Nat.zero_add] at hlocate
  refine ⟨n, s, ?_, hin⟩
  unfold positionIn lineStarts
  rw [List.tail_cons, hlocate]

/-! ## There and back -/

/-- The position in its line leads back to the offset. -/
theorem LiesIn.offsetIn_eq {starts : List Nat} {offset line start size : Nat}
    (h : LiesIn starts offset line start) (hsize : offset ≤ size) :
    offsetIn starts size ⟨line, (offset : Int) - start⟩ = offset := by
  have hstart := h.start_le
  have hcharacter : start + ((offset : Int) - start).toNat = offset := by omega
  have hline : ¬((line : Int) < 0) := by omega
  unfold offsetIn
  rw [if_neg hline, Int.toNat_natCast, h.line_start]
  dsimp only
  rw [hcharacter]
  -- The offset is at most the last one of its line.
  cases hnext : starts[line + 1]? with
  | none => exact Nat.min_eq_left hsize
  | some next => exact Nat.min_eq_left (Nat.le_sub_one_of_lt (h.lt_next next hnext))

/-- Positions lead back to their offsets. -/
theorem offsetIn_positionIn {text : List Char} {offset : Nat} (h : offset ≤ text.length) :
    offsetIn (lineStarts text) text.length (positionIn (lineStarts text) offset) = offset := by
  obtain ⟨line, start, hposition, hin⟩ := positionIn_liesIn text offset
  rw [hposition]
  exact hin.offsetIn_eq h

/-! ## The order of positions -/

/-- Lines start one after the other. -/
theorem startsAfter_increasing (index : Nat) (text : List Char) :
    (startsAfter index text).Pairwise (· < ·) := by
  induction text generalizing index with
  | nil => exact .nil
  | cons c text ih =>
    rw [startsAfter]
    split
    · exact List.pairwise_cons.mpr ⟨fun x hx => lt_of_mem_startsAfter hx, ih (index + 1)⟩
    · exact ih (index + 1)

theorem lineStarts_increasing (text : List Char) : (lineStarts text).Pairwise (· < ·) :=
  List.pairwise_cons.mpr ⟨fun _ hx => lt_of_mem_startsAfter hx, startsAfter_increasing 0 text⟩

/-- An offset that is not behind another is not in a later line. -/
theorem LiesIn.line_le {starts : List Nat} (hstarts : starts.Pairwise (· < ·))
    {a b line line' start start' : Nat} (ha : LiesIn starts a line start)
    (hb : LiesIn starts b line' start') (h : a ≤ b) : line ≤ line' := by
  refine Nat.le_of_not_lt fun hlt => ?_
  obtain ⟨hline, hstart⟩ := List.getElem?_eq_some_iff.mp ha.line_start
  have hnext : line' + 1 < starts.length := Nat.lt_of_le_of_lt hlt hline
  have hb' : b < starts[line' + 1] := hb.lt_next _ (List.getElem?_eq_getElem hnext)
  have ha' : start ≤ a := ha.start_le
  -- The line after that of `b` is that of `a`, or comes before it.
  have hle : line' + 1 ≤ line := hlt
  rcases Nat.eq_or_lt_of_le hle with heq | hbefore
  · subst heq
    omega
  · have := List.pairwise_iff_getElem.mp hstarts (line' + 1) line hnext hline hbefore
    omega

/-- A later offset has a later position. -/
theorem positionIn_before {text : List Char} {a b : Nat} (h : a < b) :
    (positionIn (lineStarts text) a).before (positionIn (lineStarts text) b) = true := by
  obtain ⟨line, start, hposition, hin⟩ := positionIn_liesIn text a
  obtain ⟨line', start', hposition', hin'⟩ := positionIn_liesIn text b
  rw [hposition, hposition']
  rcases Nat.eq_or_lt_of_le (hin.line_le (lineStarts_increasing text) hin' (Nat.le_of_lt h)) with
    heq | hlt
  · -- In one line, both are counted from its start.
    subst heq
    obtain rfl : start = start' := Option.some.inj (hin.line_start.symm.trans hin'.line_start)
    have hcharacter : (a : Int) - start < b - start := by omega
    simp [Position.before, hcharacter]
  · simp [Position.before, hlt]

/-! ## Documents -/

namespace Document

variable {doc : Document} {text : String}

theorem chars_eq (h : doc.text = some text) : doc.chars = text.toList := by
  rw [chars, h]
  rfl

/-- The position of an offset, cut to the text. -/
theorem position_eq (h : doc.text = some text) (offset : Int) :
    doc.position offset =
      .ok (positionIn (lineStarts text.toList) (min offset.toNat text.toList.length)) := by
  rw [position, h, starts, chars_eq h]
  rfl

/-- The offset of a position. -/
theorem offset_eq (h : doc.text = some text) (p : Position) :
    doc.offset p = .ok (offsetIn (lineStarts text.toList) text.toList.length p) := by
  rw [offset, h, starts, chars_eq h]
  rfl

/-- The position of an offset that lies in the text, and the way back. -/
theorem offset_of_position (htext : doc.text = some text) {offset : Int} {p : Position}
    (h : doc.position offset = .ok p) (hnonneg : 0 ≤ offset) (hle : offset ≤ text.toList.length) :
    p = positionIn (lineStarts text.toList) offset.toNat ∧
      (doc.offset p).map Int.ofNat = .ok offset := by
  have hmin : min offset.toNat text.toList.length = offset.toNat := by omega
  rw [position_eq htext, hmin] at h
  cases h
  refine ⟨rfl, ?_⟩
  rw [offset_eq htext, offsetIn_positionIn (by omega)]
  show Except.ok (offset.toNat : Int) = _
  rw [Int.toNat_of_nonneg hnonneg]

end Document

end Marginalia
