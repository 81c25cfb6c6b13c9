import Marginalia.Pattern.Basic
import Marginalia.Proofs.Pattern.Priority

/-!
# The first match

A search tries the positions of a text from left to right and ends at the first one where the pattern
matches.  Not every position is tried: what is known of how a match begins rules some of them out.
`Tries` says which positions are left, and `find?` is the match at the first of them that has one.
-/

namespace Marginalia.Pattern

variable {p : Pattern} {text : Array Char}

/-- A match at a position is a run from there. -/
theorem matchAt_eq (p : Pattern) (text : Array Char) (s : Nat) :
    p.matchAt text s = (p.root.run text p.flags false none Step.done s { reached := s }).found?.map
      fun m => ⟨s, m.reached, m.captures⟩ := by
  unfold matchAt
  split <;> rename_i h <;> rw [h] <;> rfl

/-- It starts there. -/
theorem start_of_matchAt {s : Nat} {r : Match} (h : p.matchAt text s = some r) : r.start = s := by
  rw [matchAt_eq] at h
  obtain ⟨m, -, rfl⟩ := Option.map_eq_some_iff.mp h
  rfl

/-- The position is one of those that a search from `position` on tries. -/
structure Tries (p : Pattern) (text : Array Char) (position s : Nat) : Prop where
  le : position ≤ s
  reach : s ≤ position + p.prospect.reach p.least (text.size - position)
  room : p.least ≤ text.size - position
  admits : p.prospect.admits text p.flags s = true

/-- Positions that are tried lie within the text. -/
theorem Tries.le_size {position s : Nat} (h : p.Tries text position s)
    (hposition : position ≤ text.size) : s ≤ text.size := by
  have hreach := h.reach
  unfold Prospect.reach at hreach
  split at hreach <;> omega

/-- A search that starts earlier tries the position as well. -/
theorem Tries.earlier {position position' s : Nat} (h : p.Tries text position s)
    (hposition : position ≤ text.size) (hle : position' ≤ position) : p.Tries text position' s := by
  have hroom := h.room
  have hreach := h.reach
  refine ⟨Nat.le_trans hle h.le, ?_, by omega, h.admits⟩
  unfold Prospect.reach at hreach ⊢
  split at hreach <;> omega

/-- The match at a position, if the position is not ruled out. -/
private def attempt? (p : Pattern) (text : Array Char) (s : Nat) : Option Match :=
  if p.prospect.admits text p.flags s then p.matchAt text s else none

/-- Positions are tried one after the other. -/
private theorem searchFrom_eq (left start : Nat) :
    p.searchFrom text left start = (List.range' start (left + 1)).findSome? (p.attempt? text) := by
  induction left generalizing start with
  | zero =>
    rw [List.range'_one, List.findSome?_singleton]
    rfl
  | succ left ih =>
    rw [List.range'_succ, List.findSome?_cons, ← ih, searchFrom, attempt?]
    split
    · cases p.matchAt text start <;> rfl
    · rfl

/-- A search tries the positions where there is room. -/
private theorem find?_eq {position : Nat} (hposition : position ≤ text.size) :
    p.find? text position = if text.size - position < p.least then none else
      (List.range' position (p.prospect.reach p.least (text.size - position) + 1)).findSome?
        (p.attempt? text) := by
  have hclamp : clamp text (position : Int) = position := by
    unfold clamp
    omega
  unfold find?
  dsimp only
  rw [hclamp, searchFrom_eq]

/-- Nothing is found if no position that is tried has a match. -/
theorem find?_eq_none_iff {position : Nat} (hposition : position ≤ text.size) :
    p.find? text position = none ↔ ∀ s, p.Tries text position s → p.matchAt text s = none := by
  rw [find?_eq hposition]
  split
  · rename_i hroom
    exact ⟨fun _ s hs => absurd hs.room (by omega), fun _ => rfl⟩
  · rename_i hroom
    rw [List.findSome?_eq_none_iff]
    constructor
    · intro h s hs
      have hmem := h s (List.mem_range'_1.mpr ⟨hs.le, Nat.lt_succ_of_le hs.reach⟩)
      rwa [attempt?, if_pos hs.admits] at hmem
    · intro h s hs
      obtain ⟨hle, hlt⟩ := List.mem_range'_1.mp hs
      unfold attempt?
      split
      · rename_i hadmits
        exact h s ⟨hle, Nat.le_of_lt_succ hlt, by omega, hadmits⟩
      · rfl

/-- What is found is the first match. -/
theorem find?_eq_some_iff {position : Nat} (hposition : position ≤ text.size) {r : Match} :
    p.find? text position = some r ↔ p.Tries text position r.start ∧
      p.matchAt text r.start = some r ∧
      ∀ s, s < r.start → p.Tries text position s → p.matchAt text s = none := by
  rw [find?_eq hposition]
  split
  · rename_i hroom
    exact ⟨nofun, fun h => absurd h.1.room (by omega)⟩
  rename_i hroom
  -- The first attempt that succeeds splits the range of positions.
  rw [List.findSome?_eq_some_iff]
  constructor
  · rintro ⟨before, s, after, hrange, hs, hbefore⟩
    obtain ⟨k, hk, rfl, hafter⟩ := List.range'_eq_append_iff.mp hrange
    obtain ⟨rfl, hpos, -⟩ := List.range'_eq_cons_iff.mp hafter.symm
    rw [Nat.mul_one] at hs
    unfold attempt? at hs
    split at hs
    · rename_i hadmits
      rw [start_of_matchAt hs]
      refine ⟨⟨Nat.le_add_right _ _, by omega, by omega, hadmits⟩, hs, fun s hlt htries => ?_⟩
      have hnone := hbefore s (List.mem_range'_1.mpr ⟨htries.le, hlt⟩)
      rwa [attempt?, if_pos htries.admits] at hnone
    · cases hs
  · rintro ⟨htries, hmatch, hfirst⟩
    have hle := htries.le
    have hreach := htries.reach
    refine ⟨List.range' position (r.start - position), r.start, _,
      List.range'_eq_append_iff.mpr ⟨r.start - position, by omega, rfl,
        (List.range'_eq_cons_iff.mpr ⟨by omega, by omega, rfl⟩).symm⟩, ?_, fun s hs => ?_⟩
    · rw [attempt?, if_pos htries.admits, hmatch]
    · obtain ⟨hle', hlt⟩ := List.mem_range'_1.mp hs
      unfold attempt?
      split
      · rename_i hadmits
        exact hfirst s (by omega) ⟨hle', by omega, htries.room, hadmits⟩
      · rfl

/-! ## Matches that a search can find -/

/-- A search that starts at the position finds a match right there. -/
def FindsAt (p : Pattern) (text : Array Char) (s : Nat) : Prop :=
  ∃ r, p.find? text s = some r ∧ r.start = s

/-- A match is found at a position that is tried. -/
theorem findsAt_iff {s : Nat} (hs : s ≤ text.size) :
    p.FindsAt text s ↔ p.Tries text s s ∧ p.matchAt text s ≠ none := by
  constructor
  · rintro ⟨r, hr, rfl⟩
    obtain ⟨htries, hmatch, -⟩ := (find?_eq_some_iff hs).mp hr
    exact ⟨htries, by simp [hmatch]⟩
  · rintro ⟨htries, hmatch⟩
    obtain ⟨r, hr⟩ := Option.ne_none_iff_exists'.mp hmatch
    have hstart := start_of_matchAt hr
    subst hstart
    exact ⟨r, (find?_eq_some_iff hs).mpr ⟨htries, hr, fun s' hlt hs' =>
      absurd hs'.le (Nat.not_le_of_lt hlt)⟩, rfl⟩

/-- A search does not pass over a match that a search from there on finds. -/
theorem FindsAt.not_passed {s position : Nat} (h : p.FindsAt text s) (hle : position ≤ s)
    (hs : s ≤ text.size) : ∃ r, p.find? text position = some r ∧ r.start ≤ s := by
  obtain ⟨htries, hmatch⟩ := (findsAt_iff hs).mp h
  have htries := htries.earlier hs hle
  have hposition := Nat.le_trans hle hs
  cases hfind : p.find? text position with
  | none => exact absurd ((find?_eq_none_iff hposition).mp hfind s htries) hmatch
  | some r =>
    obtain ⟨-, -, hfirst⟩ := (find?_eq_some_iff hposition).mp hfind
    exact ⟨r, rfl, Nat.le_of_not_lt fun hlt => hmatch (hfirst s hlt htries)⟩

end Marginalia.Pattern
