import Marginalia.Findings
import Marginalia.Proofs.Document.Positions

/-!
# The order of findings

Findings are put into order by a stable sort (`sortByOffset_eq_mergeSort`).
-/

namespace Marginalia

/-- A list in the order of a key, in which the members with one key come as they come in another. -/
structure StablySorted {α : Type} (key : α → Int) (xs ys : List α) : Prop where
  sorted : ys.Pairwise fun x y => key x ≤ key y
  stable : ∀ v, (ys.filter fun x => key x = v) = xs.filter fun x => key x = v

namespace StablySorted

variable {α : Type} {key : α → Int} {xs : List α}

/-- Sorting keeps the elements. -/
theorem mem_iff {ys : List α} (h : StablySorted key xs ys) {x : α} : x ∈ ys ↔ x ∈ xs := by
  have hfilter := congrArg (x ∈ ·) (h.stable (key x))
  simpa using hfilter

/-- There is only one such list. -/
theorem unique {ys zs : List α} (hys : StablySorted key xs ys) (hzs : StablySorted key xs zs) :
    ys = zs := by
  induction ys generalizing xs zs with
  | nil =>
    cases zs with
    | nil => rfl
    | cons z zs => exact absurd (hys.mem_iff.mpr (hzs.mem_iff.mp List.mem_cons_self)) List.not_mem_nil
  | cons y ys ih =>
    cases zs with
    | nil => exact absurd (hzs.mem_iff.mpr (hys.mem_iff.mp List.mem_cons_self)) List.not_mem_nil
    | cons z zs =>
      obtain ⟨hy, hys'⟩ := List.pairwise_cons.mp hys.sorted
      obtain ⟨hz, hzs'⟩ := List.pairwise_cons.mp hzs.sorted
      -- Each of the two heads is a member of the other list, so that they have the same key.
      have hyz : key y ≤ key z := by
        rcases List.mem_cons.mp (hys.mem_iff.mpr (hzs.mem_iff.mp List.mem_cons_self)) with h | h
        · exact Int.le_of_eq (congrArg key h.symm)
        · exact hy z h
      have hzy : key z ≤ key y := by
        rcases List.mem_cons.mp (hzs.mem_iff.mpr (hys.mem_iff.mp List.mem_cons_self)) with h | h
        · exact Int.le_of_eq (congrArg key h.symm)
        · exact hz y h
      have hkey : key y = key z := Int.le_antisymm hyz hzy
      have hheads := (hys.stable (key y)).trans (hzs.stable (key y)).symm
      rw [List.filter_cons_of_pos (by simp), List.filter_cons_of_pos (by simp [hkey])] at hheads
      obtain ⟨rfl, -⟩ := List.cons.inj hheads
      have htail : StablySorted key ys ys := ⟨hys', fun _ => rfl⟩
      refine congrArg _ (ih htail ⟨hzs', fun v => ?_⟩)
      have htails := (hzs.stable v).trans (hys.stable v).symm
      by_cases hv : key y = v
      · rw [List.filter_cons_of_pos (by simp [hv]), List.filter_cons_of_pos (by simp [hv])] at htails
        exact (List.cons.inj htails).2
      · rw [List.filter_cons_of_neg (by simp [hv]), List.filter_cons_of_neg (by simp [hv])] at htails
        exact htails

/-- What is left out before or after sorting does not matter. -/
theorem filter {ys : List α} (h : StablySorted key xs ys) (p : α → Bool) :
    StablySorted key (xs.filter p) (ys.filter p) := by
  refine ⟨h.sorted.filter p, fun v => ?_⟩
  have hcomm (zs : List α) : ((zs.filter p).filter fun x => key x = v) =
      (zs.filter fun x => key x = v).filter p := by
    rw [List.filter_filter, List.filter_filter]
    exact List.filter_congr fun _ _ => Bool.and_comm _ _
  rw [hcomm, h.stable, hcomm]

/-- The library's sort gives it. -/
theorem mergeSort (key : α → Int) (xs : List α) :
    StablySorted key xs (xs.mergeSort fun x y => decide (key x ≤ key y)) := by
  have htrans : ∀ x y z : α, decide (key x ≤ key y) = true → decide (key y ≤ key z) = true →
      decide (key x ≤ key z) = true := by
    intro x y z hxy hyz
    exact decide_eq_true (Int.le_trans (of_decide_eq_true hxy) (of_decide_eq_true hyz))
  have htotal : ∀ x y : α, (decide (key x ≤ key y) || decide (key y ≤ key x)) = true := by
    intro x y
    simpa using Int.le_total (key x) (key y)
  refine ⟨(List.pairwise_mergeSort htrans htotal xs).imp of_decide_eq_true, fun v => ?_⟩
  have hequal : (xs.filter fun x => key x = v).Pairwise fun x y => decide (key x ≤ key y) = true := by
    refine List.pairwise_of_forall_mem_list fun x hx y hy => decide_eq_true (Int.le_of_eq ?_)
    rw [of_decide_eq_true (List.mem_filter.mp hx).2, of_decide_eq_true (List.mem_filter.mp hy).2]
  have hsublist := (List.sublist_mergeSort htrans htotal hequal List.filter_sublist).filter
    fun x => key x = v
  simp only [List.filter_filter, Bool.and_self] at hsublist
  exact (hsublist.eq_of_length ((List.mergeSort_perm xs _).filter _).length_eq.symm).symm

end StablySorted

theorem mem_insertByOffset {f g : Int × Finding} {fs : List (Int × Finding)} :
    g ∈ insertByOffset f fs ↔ g = f ∨ g ∈ fs := by
  induction fs with
  | nil => simp [insertByOffset]
  | cons h fs ih =>
    unfold insertByOffset
    split
    · exact List.mem_cons
    · rw [List.mem_cons, ih, List.mem_cons]
      exact or_left_comm

section

variable {f : Int × Finding} {sorted : List (Int × Finding)}

/-- Inserting keeps a list sorted. -/
theorem pairwise_insertByOffset (h : sorted.Pairwise fun x y => x.1 ≤ y.1) :
    (insertByOffset f sorted).Pairwise fun x y => x.1 ≤ y.1 := by
  induction sorted with
  | nil => exact List.pairwise_singleton _ _
  | cons g sorted ih =>
    obtain ⟨hg, hrest⟩ := List.pairwise_cons.mp h
    unfold insertByOffset
    split
    · rename_i hlt
      refine List.pairwise_cons.mpr ⟨fun x hx => ?_, h⟩
      rcases List.mem_cons.mp hx with rfl | hx
      · exact Int.le_of_lt hlt
      · exact Int.le_trans (Int.le_of_lt hlt) (hg x hx)
    · rename_i hge
      refine List.pairwise_cons.mpr ⟨fun x hx => ?_, ih hrest⟩
      rcases mem_insertByOffset.mp hx with rfl | hx
      · exact Int.not_lt.mp hge
      · exact hg x hx

/-- A finding is put in behind those with the same offset. -/
theorem filter_insertByOffset (h : sorted.Pairwise fun x y => x.1 ≤ y.1) (v : Int) :
    (insertByOffset f sorted).filter (fun g => g.1 = v) =
      sorted.filter (fun g => g.1 = v) ++ [f].filter fun g => g.1 = v := by
  induction sorted with
  | nil => rfl
  | cons g sorted ih =>
    obtain ⟨hg, hrest⟩ := List.pairwise_cons.mp h
    unfold insertByOffset
    split
    · rename_i hlt
      by_cases hv : f.1 = v
      · -- From here on all offsets are greater than `v`.
        have hnone : (g :: sorted).filter (fun g => g.1 = v) = [] := by
          refine List.filter_eq_nil_iff.mpr fun x hx => ?_
          have hle : g.1 ≤ x.1 := by
            rcases List.mem_cons.mp hx with rfl | hx
            · exact Int.le_refl _
            · exact hg x hx
          simp only [decide_eq_true_eq]
          omega
        rw [List.filter_cons_of_pos (by simp [hv]), hnone]
        simp [hv]
      · rw [List.filter_cons_of_neg (by simp [hv])]
        simp [hv]
    · rw [List.filter_cons, List.filter_cons, ih hrest]
      split <;> rfl

/-- An element is put behind its equals. -/
theorem insertByOffset_stablySorted {fs : List (Int × Finding)}
    (h : StablySorted Prod.fst fs sorted) :
    StablySorted Prod.fst (fs ++ [f]) (insertByOffset f sorted) := by
  refine ⟨pairwise_insertByOffset h.sorted, fun v => ?_⟩
  rw [filter_insertByOffset h.sorted, h.stable, List.filter_append]

end

/-- Sorting keeps equals in order, by induction from the end. -/
theorem sortByOffset_stablySorted (fs : List (Int × Finding)) :
    StablySorted Prod.fst fs (sortByOffset fs) := by
  unfold sortByOffset
  induction fs using List.reverseRecOn with
  | nil => exact ⟨.nil, fun _ => rfl⟩
  | append_singleton fs f ih =>
    rw [List.foldl_append]
    exact insertByOffset_stablySorted ih

/-- Findings are put into order by a stable sort. -/
theorem sortByOffset_eq_mergeSort (fs : List (Int × Finding)) :
    sortByOffset fs = fs.mergeSort fun f g => decide (f.1 ≤ g.1) :=
  (sortByOffset_stablySorted fs).unique (.mergeSort _ fs)

end Marginalia
