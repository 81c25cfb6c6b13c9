import Marginalia.Proofs.Pattern.Parallel

/-!
# Marks that a run keeps, and marks that it moves

Two relations between marks that survive a run (`Correspondence`):

* `Captures.Keeps base`: both runs have the same marks, and the first of them are `base`.  A pattern
  whose groups have their marks beyond `base` never touches it, so the first marks after a failed
  attempt are those before it, and cutting the marks back to where they were restores them.
* `Captures.Shifted base b`: the second run has the marks of the first behind `base`, with the groups
  numbered `b` higher.  This is a fragment of a larger pattern against the fragment on its own.
-/

namespace Marginalia.Pattern

namespace Captures

/-! ## Setting marks -/

/-- Setting a mark makes room for it. -/
theorem length_set (c : Captures) (mark position : Nat) :
    (c.set mark position).marks.length = max c.marks.length (mark + 1) := by
  unfold set
  split <;> simp <;> omega

/-- Setting a mark leaves the marks before it alone. -/
theorem keeps_set {base : List (Option Nat)} {c : Captures} {mark : Nat} (position : Nat)
    (h : base <+: c.marks) (hmark : base.length ≤ mark) : base <+: (c.set mark position).marks := by
  unfold set
  split
  · obtain ⟨rest, hrest⟩ := h
    refine ⟨rest.set (mark - base.length) (some position), ?_⟩
    rw [← hrest, List.set_append_right _ _ hmark]
  · exact h.trans ((List.prefix_append _ _).trans (List.prefix_append _ _))

/-- A mark that is set is there. -/
theorem mark?_set_self (c : Captures) (mark position : Nat) :
    (c.set mark position).mark? mark = some position := by
  unfold set mark?
  split
  · rename_i h
    simp [h]
  · rename_i h
    have hlen : (c.marks ++ List.replicate (mark - c.marks.length) none).length = mark := by
      simp
      omega
    rw [List.getElem?_append_right (by omega)]
    simp [hlen]

/-- Setting a mark leaves every other mark alone. -/
theorem mark?_set_of_ne (c : Captures) {mark other : Nat} (position : Nat) (h : other ≠ mark) :
    (c.set mark position).mark? other = c.mark? other := by
  unfold set mark?
  split
  · rw [List.getElem?_set_ne (Ne.symm h)]
  · rename_i hmark
    by_cases hother : other < c.marks.length
    · rw [List.append_assoc, List.getElem?_append_left hother]
    · rw [List.getElem?_eq_none (by omega : c.marks.length ≤ other), List.append_assoc,
        List.getElem?_append_right (by omega)]
      by_cases hpad : other < mark
      · rw [List.getElem?_append_left (by simp; omega), List.getElem?_replicate,
          if_pos (by omega)]
        rfl
      · rw [List.getElem?_append_right (by simp; omega),
          List.getElem?_eq_none (by simp; omega)]

/-! ## Marks that stay -/

/-- Both runs have the same marks, and these begin with `base`. -/
def Keeps (base : List (Option Nat)) (c c' : Captures) : Prop := c' = c ∧ base <+: c.marks

/-- A group whose marks lie beyond `base`. -/
def Beyond (base : List (Option Nat)) (g : Nat) : Prop := base.length ≤ 2 * g - 2

/-- Cutting back leaves the marks that are kept. -/
theorem Keeps.cutTo_eq {base : List (Option Nat)} {c c' : Captures} (h : Keeps base c c') :
    c.cutTo ⟨base⟩ = ⟨base⟩ :=
  congrArg Captures.mk (List.prefix_iff_eq_take.mp h.2).symm

/-- Groups beyond the marks that are kept do not touch them. -/
theorem keeps_correspondence (text : Array Char) (base : List (Option Nat)) :
    Correspondence text id (Beyond base) (fun _ => True) (Keeps base) where
  opened hg _ h := ⟨congrArg (openAt · _ _) h.1, keeps_set _ h.2 hg⟩
  closed {_ _ g _} hg _ h := by
    have hclose : base.length ≤ 2 * g - 1 := by
      unfold Beyond at hg
      omega
    exact ⟨congrArg (closeAt · _ _) h.1, keeps_set _ h.2 hclose⟩
  span _ h := congrArg (span? · _) h.1
  cut {_ _ e _} h he := by
    obtain ⟨rfl, hc⟩ := h
    obtain ⟨rfl, he⟩ := he
    exact ⟨rfl, List.prefix_take_iff.mpr ⟨hc, he.length_le⟩⟩

/-! ## Marks that move -/

/-- The second run has the marks of the first from mark `2 * b` on, and `base` before them.  As long
as the first run has no marks there is nothing to fill up to. -/
def Shifted (base : List (Option Nat)) (b : Nat) (c c' : Captures) : Prop :=
  c'.marks =
    if c.marks = [] then base else base ++ List.replicate (2 * b - base.length) none ++ c.marks

section

variable {base : List (Option Nat)} {b : Nat} {c c' : Captures}

/-- Marks stay shifted when both are set. -/
private theorem Shifted.set (hb : base.length ≤ 2 * b) (h : Shifted base b c c')
    (mark position : Nat) : Shifted base b (c.set mark position) (c'.set (2 * b + mark) position) := by
  have hne : (c.set mark position).marks ≠ [] := by
    intro hnil
    have hlen := length_set c mark position
    rw [hnil, List.length_nil] at hlen
    omega
  unfold Shifted at h ⊢
  rw [if_neg hne]
  by_cases hc : c.marks = []
  · -- The first mark: what was missing between `base` and it is filled up on both sides.
    rw [if_pos hc] at h
    have hpad : 2 * b + mark - base.length = 2 * b - base.length + mark := by omega
    simp only [Captures.set, h, hc, List.length_nil, Nat.not_lt_zero, if_false, List.nil_append,
      Nat.sub_zero]
    rw [if_neg (by omega), hpad, ← List.replicate_append_replicate]
    simp only [List.append_assoc]
  · rw [if_neg hc] at h
    have hlen : (base ++ List.replicate (2 * b - base.length) none : List (Option Nat)).length
        = 2 * b := by
      simp
      omega
    have hlen' : c'.marks.length = 2 * b + c.marks.length := by
      rw [h, List.length_append, hlen]
    unfold Captures.set
    rw [hlen']
    by_cases hmark : mark < c.marks.length
    · rw [if_pos hmark, if_pos (by omega)]
      simp only [h]
      rw [List.set_append_right _ _ (by omega), hlen, Nat.add_sub_cancel_left]
    · rw [if_neg hmark, if_neg (by omega), Nat.add_sub_add_left]
      simp only [h, List.append_assoc]

/-- A shifted mark is the same mark. -/
private theorem Shifted.mark? (hb : base.length ≤ 2 * b) (h : Shifted base b c c') (mark : Nat) :
    c'.mark? (2 * b + mark) = c.mark? mark := by
  unfold Shifted at h
  unfold Captures.mark?
  by_cases hc : c.marks = []
  · rw [if_pos hc] at h
    rw [h, hc, List.getElem?_eq_none (by omega), List.getElem?_nil]
  · rw [if_neg hc] at h
    rw [h, List.getElem?_append_right (by simp; omega)]
    congr 2
    simp
    omega

/-- Marks stay shifted when both are cut back. -/
private theorem Shifted.cut (hb : base.length ≤ 2 * b) {e e' : Captures} (h : Shifted base b c c')
    (he : Shifted base b e e') : Shifted base b (c.cutTo e) (c'.cutTo e') := by
  unfold Shifted at h he ⊢
  unfold Captures.cutTo
  dsimp only
  have hlen : (base ++ List.replicate (2 * b - base.length) none : List (Option Nat)).length
      = 2 * b := by
    simp
    omega
  by_cases hc : c.marks = []
  · rw [if_pos hc] at h
    rw [if_pos (by simp [hc]), h, List.take_of_length_le]
    split at he <;> simp [he]
  · rw [if_neg hc] at h
    by_cases hne : e.marks = []
    · rw [if_pos hne] at he
      rw [if_pos (by simp [hne]), h, he, List.append_assoc, List.take_left]
    · rw [if_neg hne] at he
      rw [if_neg (by simp [hc, hne]), h, he, List.length_append, hlen, List.take_append,
        List.take_of_length_le (by omega), hlen, Nat.add_sub_cancel_left]

/-- Groups behind others run as they do on their own. -/
theorem shifted_correspondence (text : Array Char) (hb : base.length ≤ 2 * b) :
    Correspondence text (· + b) (1 ≤ ·) (1 ≤ ·) (Shifted base b) where
  opened {c c' g i} hg _ h := by
    have hmark : 2 * (g + b) - 2 = 2 * b + (2 * g - 2) := by omega
    unfold openAt
    rw [hmark]
    exact h.set hb _ i
  closed {c c' g i} hg _ h := by
    have hmark : 2 * (g + b) - 1 = 2 * b + (2 * g - 1) := by omega
    unfold closeAt
    rw [hmark]
    exact h.set hb _ i
  span {c c' g} hg h := by
    have hopen : 2 * (g + b) - 2 = 2 * b + (2 * g - 2) := by omega
    have hclose : 2 * (g + b) - 1 = 2 * b + (2 * g - 1) := by omega
    unfold span?
    rw [hopen, hclose, h.mark? hb, h.mark? hb]
  cut h he := h.cut hb he

end

end Captures

end Marginalia.Pattern
