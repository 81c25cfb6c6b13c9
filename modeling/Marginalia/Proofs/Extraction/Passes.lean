import Marginalia.Extraction
import Marginalia.Proofs.Pattern.Openings
import Mathlib.Data.Finset.Card
import Mathlib.Logic.Relation

/-!
# Passes over a text

Comments and annotations are found by the same loop: search, take the hit, go on behind it.  A
`Scanner` has what the loop needs to know of a matcher and a text.

* `Scanner.Runs` says what the loop consumes and how it ends, without a bound on its rounds: a loop
  that goes on for ever is related to nothing.
* `Scanner.run` is the loop with a bound.  One round for each position of the text, the end included,
  is enough for every loop that ends at all (`Runs.run_eq`), since such a loop does not come to one
  position twice; and the loop does end if no hit ends before it starts (`Follows.runs_run`).
* What a loop leaves behind it has no match that a search can find, but for those at the start of a
  hit or within one (`Runs.covered`).
-/

namespace Marginalia

open Pattern

/-- What a loop over a text knows: where the text ends, how to search it from a position on, and the
place of a hit. -/
structure Scanner (σ : Type) where
  size : Nat
  search : Nat → Except ScanError (Option σ)
  start : σ → Nat
  stop : σ → Nat

namespace Scanner

variable {σ : Type} {w : Scanner σ} {position : Nat} {xs : List σ} {broken : Option ScanError}

/-- The position behind a hit; behind an empty hit it is one further. -/
def after (w : Scanner σ) (x : σ) : Nat :=
  if w.stop x = w.start x then w.stop x + 1 else w.stop x

/-- The hits from a position on in at most `left` rounds, and why there are no more if a search
failed. -/
def run (w : Scanner σ) : Nat → Nat → List σ × Option ScanError
  | 0, _ => ([], none)
  | left + 1, position =>
    if w.size < position then ([], none)
    else match w.search position with
      | .error e => ([], some e)
      | .ok none => ([], none)
      | .ok (some x) => (x :: (run w left (w.after x)).1, (run w left (w.after x)).2)

/-- The loop from a position on consumes the hits and ends: behind the text, where nothing more is
found, or where a search fails. -/
inductive Runs (w : Scanner σ) : Nat → List σ → Option ScanError → Prop
  | past {position : Nat} (h : w.size < position) : Runs w position [] none
  | nothing {position : Nat} (hle : position ≤ w.size) (h : w.search position = .ok none) :
      Runs w position [] none
  | failed {position : Nat} {e : ScanError} (hle : position ≤ w.size)
      (h : w.search position = .error e) : Runs w position [] (some e)
  | hit {position : Nat} {x : σ} {xs : List σ} {broken : Option ScanError}
      (hle : position ≤ w.size) (h : w.search position = .ok (some x))
      (rest : Runs w (w.after x) xs broken) : Runs w position (x :: xs) broken

/-! ## The bound on the rounds -/

/-- Behind the end there is nothing to find. -/
theorem run_past (h : w.size < position) (left : Nat) : w.run left position = ([], none) := by
  cases left with
  | zero => rfl
  | succ left => rw [run, if_pos h]

/-- A run ends where nothing is found. -/
theorem run_nothing (hle : position ≤ w.size) (h : w.search position = .ok none) (left : Nat) :
    w.run (left + 1) position = ([], none) := by
  rw [run, if_neg (Nat.not_lt_of_le hle), h]

/-- A run ends where the search fails. -/
theorem run_failed {e : ScanError} (hle : position ≤ w.size) (h : w.search position = .error e)
    (left : Nat) : w.run (left + 1) position = ([], some e) := by
  rw [run, if_neg (Nat.not_lt_of_le hle), h]

/-- A run goes on behind what it finds. -/
theorem run_hit {x : σ} (hle : position ≤ w.size) (h : w.search position = .ok (some x))
    (left : Nat) : w.run (left + 1) position =
      (x :: (w.run left (w.after x)).1, (w.run left (w.after x)).2) := by
  rw [run, if_neg (Nat.not_lt_of_le hle), h]

/-- How a round goes. -/
theorem round_cases (w : Scanner σ) (position : Nat) :
    w.size < position ∨ position ≤ w.size ∧ (w.search position = .ok none ∨
      (∃ e, w.search position = .error e) ∨ ∃ x, w.search position = .ok (some x)) := by
  obtain hlt | hle := Nat.lt_or_ge w.size position
  · exact .inl hlt
  · refine .inr ⟨hle, ?_⟩
    match w.search position with
    | .error e => exact .inr (.inl ⟨e, rfl⟩)
    | .ok none => exact .inl rfl
    | .ok (some x) => exact .inr (.inr ⟨x, rfl⟩)

/-- The hits of a run are hits of its searches. -/
theorem mem_run {left : Nat} {x : σ} (h : x ∈ (w.run left position).1) :
    ∃ position' ≤ w.size, w.search position' = .ok (some x) := by
  induction left generalizing position with
  | zero => cases h
  | succ left ih =>
    obtain hlt | ⟨hle, hnone | ⟨e, he⟩ | ⟨y, hy⟩⟩ := w.round_cases position
    · rw [run_past hlt] at h
      cases h
    · rw [run_nothing hle hnone] at h
      cases h
    · rw [run_failed hle he] at h
      cases h
    · rw [run_hit hle hy] at h
      obtain rfl | hmem := List.mem_cons.mp h
      · exact ⟨position, hle, hy⟩
      · exact ih hmem

/-- A run breaks off where one of its searches fails. -/
theorem run_broken {left : Nat} {e : ScanError} (h : (w.run left position).2 = some e) :
    ∃ position' ≤ w.size, w.search position' = .error e := by
  induction left generalizing position with
  | zero => cases h
  | succ left ih =>
    obtain hlt | ⟨hle, hnone | ⟨e', he⟩ | ⟨y, hy⟩⟩ := w.round_cases position
    · rw [run_past hlt] at h
      cases h
    · rw [run_nothing hle hnone] at h
      cases h
    · rw [run_failed hle he] at h
      cases h
      exact ⟨position, hle, he⟩
    · rw [run_hit hle hy] at h
      exact ih h

/-- A loop consumes the same hits each time. -/
theorem Runs.unique {ys : List σ} {broken' : Option ScanError} (h : w.Runs position xs broken)
    (h' : w.Runs position ys broken') : xs = ys ∧ broken = broken' := by
  induction h generalizing ys broken' with
  | past hlt =>
    cases h' with
    | past _ => exact ⟨rfl, rfl⟩
    | nothing hle _ => exact absurd hlt (Nat.not_lt_of_le hle)
    | failed hle _ => exact absurd hlt (Nat.not_lt_of_le hle)
    | hit hle _ _ => exact absurd hlt (Nat.not_lt_of_le hle)
  | nothing hle hsearch =>
    cases h' with
    | past hlt => exact absurd hlt (Nat.not_lt_of_le hle)
    | nothing _ _ => exact ⟨rfl, rfl⟩
    | failed _ hsearch' => cases hsearch.symm.trans hsearch'
    | hit _ hsearch' _ => cases hsearch.symm.trans hsearch'
  | failed hle hsearch =>
    cases h' with
    | past hlt => exact absurd hlt (Nat.not_lt_of_le hle)
    | nothing _ hsearch' => cases hsearch.symm.trans hsearch'
    | failed _ hsearch' =>
      cases hsearch.symm.trans hsearch'
      exact ⟨rfl, rfl⟩
    | hit _ hsearch' _ => cases hsearch.symm.trans hsearch'
  | hit hle hsearch _ ih =>
    cases h' with
    | past hlt => exact absurd hlt (Nat.not_lt_of_le hle)
    | nothing _ hsearch' => cases hsearch.symm.trans hsearch'
    | failed _ hsearch' => cases hsearch.symm.trans hsearch'
    | hit _ hsearch' rest' =>
      cases hsearch.symm.trans hsearch'
      obtain ⟨rfl, rfl⟩ := ih rest'
      exact ⟨rfl, rfl⟩

/-- A round of the loop takes it from a position to the one behind the hit. -/
def Advances (w : Scanner σ) (position position' : Nat) : Prop :=
  position ≤ w.size ∧ ∃ x, w.search position = .ok (some x) ∧ w.after x = position'

/-- A run that ends also ends from its next position. -/
theorem Runs.of_advances {position' : Nat} (h : w.Runs position xs broken)
    (hround : w.Advances position position') :
    ∃ x ys, xs = x :: ys ∧ w.Runs position' ys broken := by
  obtain ⟨hle, x, hsearch, rfl⟩ := hround
  cases h with
  | past hlt => exact absurd hlt (Nat.not_lt_of_le hle)
  | nothing _ hsearch' => cases hsearch.symm.trans hsearch'
  | failed _ hsearch' => cases hsearch.symm.trans hsearch'
  | hit _ hsearch' rest =>
    cases hsearch.symm.trans hsearch'
    exact ⟨_, _, rfl, rest⟩

/-- Wherever a loop comes to that ends, it has no more hits before it than at the beginning. -/
theorem Runs.of_reaches {position' : Nat} (h : w.Runs position xs broken)
    (hrounds : Relation.ReflTransGen w.Advances position position') :
    ∃ ys, w.Runs position' ys broken ∧ ys.length ≤ xs.length := by
  induction hrounds with
  | refl => exact ⟨xs, h, Nat.le_refl _⟩
  | tail _ hround ih =>
    obtain ⟨ys, hys, hlength⟩ := ih
    obtain ⟨x, zs, rfl, hzs⟩ := hys.of_advances hround
    exact ⟨zs, hzs, Nat.le_of_succ_le hlength⟩

/-- A loop that ends does not come back to a position. -/
theorem Runs.not_returns {position' : Nat} (h : w.Runs position xs broken)
    (hround : w.Advances position position') :
    ¬ Relation.ReflTransGen w.Advances position' position := by
  intro hback
  obtain ⟨x, ys, rfl, hys⟩ := h.of_advances hround
  obtain ⟨zs, hzs, hlength⟩ := hys.of_reaches hback
  obtain ⟨rfl, -⟩ := h.unique hzs
  exact absurd hlength (Nat.not_succ_le_self _)

/-- The bound is not used up as long as there is a position to which the loop has not come. -/
private theorem rounds_left {visited : Finset Nat} {left : Nat}
    (hvisited : visited ⊆ Finset.range (w.size + 1)) (hnew : position ∉ visited)
    (hle : position ≤ w.size) (hleft : w.size < left + visited.card) :
    ∃ left', left = left' + 1 := by
  refine Nat.exists_eq_succ_of_ne_zero fun hzero => hnew ?_
  have hall : visited = Finset.range (w.size + 1) := by
    refine Finset.eq_of_subset_of_card_le hvisited ?_
    rw [Finset.card_range]
    omega
  rw [hall]
  exact Finset.mem_range.mpr (Nat.lt_succ_of_le hle)

/-- Rounds suffice for the positions that were not visited yet. -/
private theorem Runs.run_eq_of_visited (h : w.Runs position xs broken) {visited : Finset Nat}
    {left : Nat} (hvisited : visited ⊆ Finset.range (w.size + 1))
    (hnew : ∀ s, Relation.ReflTransGen w.Advances position s → s ∉ visited)
    (hleft : w.size < left + visited.card) : w.run left position = (xs, broken) := by
  induction h generalizing visited left with
  | past hlt => exact run_past hlt left
  | nothing hle hsearch =>
    obtain ⟨left, rfl⟩ := rounds_left hvisited (hnew _ .refl) hle hleft
    exact run_nothing hle hsearch left
  | failed hle hsearch =>
    obtain ⟨left, rfl⟩ := rounds_left hvisited (hnew _ .refl) hle hleft
    exact run_failed hle hsearch left
  | @hit position x xs broken hle hsearch rest ih =>
    obtain ⟨left, rfl⟩ := rounds_left hvisited (hnew _ .refl) hle hleft
    have hround : w.Advances position (w.after x) := ⟨hle, x, hsearch, rfl⟩
    have hcard := Finset.card_insert_of_notMem (hnew position .refl)
    have hsub : insert position visited ⊆ Finset.range (w.size + 1) :=
      Finset.insert_subset (Finset.mem_range.mpr (Nat.lt_succ_of_le hle)) hvisited
    have hrest : w.run left (w.after x) = (xs, broken) := by
      refine ih hsub (fun s hs hmem => ?_) (by omega)
      obtain rfl | hmem := Finset.mem_insert.mp hmem
      · exact (Runs.hit hle hsearch rest).not_returns hround hs
      · exact hnew s (.head hround hs) hmem
    rw [run_hit hle hsearch, hrest]

/-- A loop that ends needs no more rounds than the text has positions. -/
theorem Runs.run_eq (h : w.Runs 0 xs broken) : w.run (w.size + 1) 0 = (xs, broken) :=
  h.run_eq_of_visited (Finset.empty_subset _) (fun _ _ => Finset.notMem_empty _)
    (by rw [Finset.card_empty]; omega)

/-! ## Scanners that search with a pattern -/

/-- How the answer to a search comes from the match that a pattern finds: a hit has the place of the
match, and the search fails if groups of the match cross. -/
inductive Answers (w : Scanner σ) : Option Match → Except ScanError (Option σ) → Prop
  | none : Answers w none (.ok none)
  | crossed {r : Match} (h : r.captures.isCrossed = true) :
      Answers w (some r) (.error (.crossedGroup ⟨⟩))
  | hit {r : Match} {x : σ} (hstart : w.start x = r.start) (hstop : w.stop x = r.stop) :
      Answers w (some r) (.ok (some x))

/-- The scanner searches the text with the pattern. -/
structure Follows (w : Scanner σ) (p : Pattern) (text : Array Char) : Prop where
  size : w.size = text.size
  answers : ∀ position ≤ text.size, w.Answers (p.find? text position) (w.search position)

namespace Follows

variable {p : Pattern} {text : Array Char} {x : σ}

/-- Where nothing is found the pattern has no match. -/
theorem of_nothing (h : w.Follows p text) (hle : position ≤ w.size)
    (hsearch : w.search position = .ok none) : p.find? text position = none := by
  have hanswers := h.answers position (h.size ▸ hle)
  rw [hsearch] at hanswers
  generalize p.find? text position = found at hanswers
  cases hanswers
  rfl

/-- A search fails because groups of the match cross. -/
theorem of_failed (h : w.Follows p text) (hle : position ≤ w.size) {e : ScanError}
    (hsearch : w.search position = .error e) :
    e = .crossedGroup ⟨⟩ ∧ ∃ r, p.find? text position = some r ∧ r.captures.isCrossed = true := by
  have hanswers := h.answers position (h.size ▸ hle)
  rw [hsearch] at hanswers
  generalize p.find? text position = found at hanswers
  cases hanswers with
  | crossed hcrossed => exact ⟨rfl, _, rfl, hcrossed⟩

/-- A hit is a match of the pattern. -/
theorem of_hit (h : w.Follows p text) (hle : position ≤ w.size)
    (hsearch : w.search position = .ok (some x)) :
    ∃ r, p.find? text position = some r ∧ w.start x = r.start ∧ w.stop x = r.stop := by
  have hanswers := h.answers position (h.size ▸ hle)
  rw [hsearch] at hanswers
  generalize p.find? text position = found at hanswers
  cases hanswers with
  | hit hstart hstop => exact ⟨_, rfl, hstart, hstop⟩

/-- A hit lies in the text, and starts where the search starts or later. -/
theorem place (h : w.Follows p text) (hle : position ≤ w.size)
    (hsearch : w.search position = .ok (some x)) :
    position ≤ w.start x ∧ w.start x ≤ w.size ∧ w.stop x ≤ w.size := by
  obtain ⟨r, hr, hstart, hstop⟩ := h.of_hit hle hsearch
  rw [h.size] at hle ⊢
  obtain ⟨htries, hmatch, -⟩ := (find?_eq_some_iff hle).mp hr
  rw [hstart, hstop]
  exact ⟨htries.le, htries.le_size hle, stop_le_of_matchAt (htries.le_size hle) hmatch⟩

/-- With a pattern that keeps its place, no hit ends before it starts. -/
theorem forward (h : w.Follows p text) {source : String} (hp : Pattern.compile source = .ok p)
    (hplace : p.root.keepsPlace = true) (hle : position ≤ w.size)
    (hsearch : w.search position = .ok (some x)) : w.start x ≤ w.stop x := by
  obtain ⟨r, hr, hstart, hstop⟩ := h.of_hit hle hsearch
  rw [h.size] at hle
  obtain ⟨htries, hmatch, -⟩ := (find?_eq_some_iff hle).mp hr
  obtain ⟨hwide, -, -⟩ := forward_of_matchAt hp hplace (htries.le_size hle) hmatch
  omega

/-- With a pattern that keeps its place, no search fails. -/
theorem not_failed (h : w.Follows p text) {source : String} (hp : Pattern.compile source = .ok p)
    (hplace : p.root.keepsPlace = true) (hle : position ≤ w.size) {e : ScanError} :
    w.search position ≠ .error e := by
  intro hsearch
  obtain ⟨-, r, hr, hcrossed⟩ := h.of_failed hle hsearch
  rw [h.size] at hle
  obtain ⟨htries, hmatch, -⟩ := (find?_eq_some_iff hle).mp hr
  obtain ⟨-, -, hforward⟩ := forward_of_matchAt hp hplace (htries.le_size hle) hmatch
  rw [hforward] at hcrossed
  cases hcrossed

/-- A loop ends if no hit that it consumes ends before it starts: each round takes it further. -/
theorem runs_run (h : w.Follows p text) {left : Nat} (hleft : w.size < left + position)
    (hforward : ∀ x ∈ (w.run left position).1, w.start x ≤ w.stop x) :
    w.Runs position (w.run left position).1 (w.run left position).2 := by
  induction left generalizing position with
  | zero => exact .past (by omega)
  | succ left ih =>
    obtain hlt | ⟨hle, hnone | ⟨e, he⟩ | ⟨x, hx⟩⟩ := w.round_cases position
    · rw [run_past hlt]
      exact .past hlt
    · rw [run_nothing hle hnone]
      exact .nothing hle hnone
    · rw [run_failed hle he]
      exact .failed hle he
    · rw [run_hit hle hx] at hforward ⊢
      obtain ⟨hx', hrest⟩ := List.forall_mem_cons.mp hforward
      obtain ⟨hplace, -, -⟩ := h.place hle hx
      refine .hit hle hx (ih ?_ hrest)
      unfold after
      split <;> omega

end Follows

/-! ## What a loop consumes -/

section

variable {p : Pattern} {text : Array Char}

/-- The only way for a loop to break off is a match whose groups cross. -/
theorem Runs.broken_eq (h : w.Runs position xs broken) (hw : w.Follows p text) :
    broken = none ∨ broken = some (.crossedGroup ⟨⟩) := by
  induction h with
  | past _ => exact .inl rfl
  | nothing _ _ => exact .inl rfl
  | failed hle hsearch => exact .inr (congrArg some (hw.of_failed hle hsearch).1)
  | hit _ _ _ ih => exact ih

/-- Groups do not cross in a pattern that goes on from its place. -/
theorem Runs.not_broken (h : w.Runs position xs broken) (hw : w.Follows p text) {source : String}
    (hp : Pattern.compile source = .ok p) (hplace : p.root.keepsPlace = true) : broken = none := by
  induction h with
  | past _ => rfl
  | nothing _ _ => rfl
  | failed hle hsearch => exact absurd hsearch (hw.not_failed hp hplace hle)
  | hit _ _ _ ih => exact ih

/-- Hits that do not end before they start come in order, and each ends before the next one starts. -/
theorem Runs.ordered (h : w.Runs position xs broken) (hw : w.Follows p text)
    (hforward : ∀ x ∈ xs, w.start x ≤ w.stop x) :
    (∀ x ∈ xs, position ≤ w.start x) ∧ xs.Pairwise fun x y => w.stop x ≤ w.start y := by
  induction h with
  | past _ => exact ⟨nofun, .nil⟩
  | nothing _ _ => exact ⟨nofun, .nil⟩
  | failed _ _ => exact ⟨nofun, .nil⟩
  | @hit position x xs broken hle hsearch _ ih =>
    obtain ⟨hx, hrest⟩ := List.forall_mem_cons.mp hforward
    obtain ⟨hlater, hpairwise⟩ := ih hrest
    obtain ⟨hplace, -, -⟩ := hw.place hle hsearch
    have hafter : w.stop x ≤ w.after x := by
      unfold after
      split <;> omega
    refine ⟨List.forall_mem_cons.mpr ⟨hplace, fun y hy => ?_⟩, .cons (fun y hy => ?_) hpairwise⟩
    · have := hlater y hy
      omega
    · exact Nat.le_trans hafter (hlater y hy)

/-- The position is the start of one of the hits, or strictly within one. -/
def Covers (w : Scanner σ) (xs : List σ) (s : Nat) : Prop :=
  ∃ x ∈ xs, s = w.start x ∨ w.start x < s ∧ s < w.stop x

/-- A loop that does not break off covers each position from its beginning on at which a search can
find a match.  What it passes over between two rounds has none: the search was started before it, and
what the hit itself spans is covered. -/
theorem Runs.covered (h : w.Runs position xs broken) (hw : w.Follows p text)
    (hbroken : broken = none) {s : Nat} (hposition : position ≤ s) (hs : s ≤ text.size)
    (hfinds : p.FindsAt text s) : w.Covers xs s := by
  induction h with
  | past hlt => exact absurd hlt (by rw [hw.size]; omega)
  | nothing hle hsearch =>
    obtain ⟨r, hr, -⟩ := hfinds.not_passed hposition hs
    rw [hw.of_nothing hle hsearch] at hr
    cases hr
  | failed _ _ => cases hbroken
  | @hit position x xs broken hle hsearch _ ih =>
    obtain ⟨r, hr, hstart, -⟩ := hw.of_hit hle hsearch
    obtain ⟨r', hr', hfirst⟩ := hfinds.not_passed hposition hs
    cases hr.symm.trans hr'
    by_cases hinside : s = w.start x ∨ w.start x < s ∧ s < w.stop x
    · exact ⟨x, List.mem_cons_self, hinside⟩
    · have hbehind : w.after x ≤ s := by
        unfold after
        split <;> omega
      obtain ⟨y, hy, hcovers⟩ := ih hbroken hbehind
      exact ⟨y, List.mem_cons_of_mem _ hy, hcovers⟩

/-- The pass over a text ends with the hits, and covers every position at which a search can find a
match.  With a pattern that keeps its place it does not break off, and with a plain one it covers
every position at which the pattern matches. -/
structure Complete (w : Scanner σ) (p : Pattern) (text : Array Char) (xs : List σ)
    (broken : Option ScanError) : Prop where
  runs : w.Runs 0 xs broken
  covers : broken = none → ∀ s ≤ text.size, p.FindsAt text s → w.Covers xs s
  unbroken : p.root.keepsPlace = true → broken = none
  plain : p.isPlain = true → ∀ s ≤ text.size, p.matchAt text s ≠ none → w.Covers xs s

/-- A run that ends has found all that the pattern matches in turn. -/
theorem Runs.complete (h : w.Runs 0 xs broken) (hw : w.Follows p text) {source : String}
    (hp : Pattern.compile source = .ok p) : w.Complete p text xs broken := by
  refine ⟨h, fun hbroken s => h.covered hw hbroken (Nat.zero_le s), h.not_broken hw hp, ?_⟩
  intro hplain s hs hmatch
  obtain ⟨hplace, -⟩ := Bool.and_eq_true_iff.mp hplain
  have hbroken := h.not_broken hw hp hplace
  exact h.covered hw hbroken (Nat.zero_le s) hs (findsAt_of_isPlain hp hplain hs hmatch)

end

end Scanner

end Marginalia
