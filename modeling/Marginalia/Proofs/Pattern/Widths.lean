import Marginalia.Proofs.Pattern.Marks
import Marginalia.Proofs.Pattern.Numbering

/-!
# What a match consumes

The least width of a pattern is worked out from its tree.  A match consumes at least that many
characters, and every group that it leaves closed spans at least the group's own width; so no match
ends before it starts, and no group does.  This needs one assumption, `Node.keepsPlace`: a possessive
repeat of more than one character goes on from the place where its last round failed, and that may
be before the place where it started.

A reference consumes what its group captured, so what is known of the groups and what is known of
the places are proved together, along a run (`Node.consumes`).  What makes it work is the order of
the groups:

* outside of repeats a part only finds marks of groups before its own (`Captures.Standing`), so that
  cutting the marks back to where they were drops all that the part has set;
* inside a repeat there may be marks of earlier rounds, and there marks are put back as they were;
* a failed attempt may have closed a group that is open around it.  It will be closed again before
  anything refers to it, so the ends of open groups are left out of account (`Captures.Framed`).
-/

namespace Marginalia.Pattern

namespace Captures

variable {isOpen : Nat → Prop} {lo hi : Nat} {c c' c'' : Captures}

/-! ## Marks that a part leaves alone -/

/-- The mark is not the end of an open group. -/
def Settled (isOpen : Nat → Prop) (mark : Nat) : Prop := ∀ g, isOpen (g + 1) → mark ≠ 2 * g + 1

/-- Even marks are starts of groups. -/
theorem settled_even (isOpen : Nat → Prop) (g : Nat) : Settled isOpen (2 * g) :=
  fun _ _ => by omega

/-- The end of a group that is not open is settled. -/
theorem settled_odd {g : Nat} (h : ¬isOpen (g + 1)) : Settled isOpen (2 * g + 1) := by
  rintro x hx heq
  obtain rfl : x = g := by omega
  exact h hx

/-- The marks before those of the group `lo` are the same, up to the ends of open groups. -/
def Framed (isOpen : Nat → Prop) (lo : Nat) (c c' : Captures) : Prop :=
  ∀ mark, mark < 2 * lo - 2 → Settled isOpen mark → c'.mark? mark = c.mark? mark

theorem Framed.refl : c.Framed isOpen lo c :=
  fun _ _ _ => rfl

/-- Two parts that leave the same marks alone. -/
theorem Framed.trans (h : c.Framed isOpen lo c') (h' : c'.Framed isOpen lo c'') :
    c.Framed isOpen lo c'' :=
  fun mark hlt hs => (h' mark hlt hs).trans (h mark hlt hs)

/-- A part that leaves more marks alone leaves fewer alone too. -/
theorem Framed.mono (h : c.Framed isOpen hi c') (hle : lo ≤ hi) : c.Framed isOpen lo c' :=
  fun mark hlt => h mark (by omega)

/-- All marks are the same, up to the ends of open groups, and none have been added. -/
structure Same (isOpen : Nat → Prop) (c c' : Captures) : Prop where
  marks : ∀ mark, Settled isOpen mark → c'.mark? mark = c.mark? mark
  length : c'.marks.length ≤ c.marks.length

theorem Same.refl : c.Same isOpen c :=
  ⟨fun _ _ => rfl, Nat.le_refl _⟩

/-- Marks that are the same are the same before any group. -/
theorem Same.framed (h : c.Same isOpen c') (lo : Nat) : c.Framed isOpen lo c' :=
  fun mark _ => h.marks mark

/-- Cutting marks back to where they were undoes what only touched marks beyond them. -/
theorem Framed.same_cutTo (h : c.Framed isOpen lo c') (hlength : c.marks.length ≤ 2 * lo - 2) :
    c.Same isOpen (c'.cutTo c) where
  marks mark hs := by
    have hcut : (c'.cutTo c).mark? mark =
        if mark < c.marks.length then c'.mark? mark else none := by
      unfold cutTo mark?
      rw [List.getElem?_take]
      split <;> rfl
    rw [hcut]
    split
    · exact h mark (by omega) hs
    · rw [mark?, List.getElem?_eq_none (by omega)]
      rfl
  length := by
    unfold cutTo
    rw [List.length_take]
    exact Nat.min_le_left _ _

section

variable {g i : Nat}

/-- Opening a group changes no mark before the group's own. -/
theorem Framed.of_openAt (h : (c.openAt (g + 1) i).Framed (fun x => x = g + 1 ∨ isOpen x) lo c')
    (hlo : lo ≤ g + 1) : c.Framed isOpen lo c' := by
  intro mark hlt hs
  have hsettled : Settled (fun x => x = g + 1 ∨ isOpen x) mark := by
    rintro x (hx | hx)
    · omega
    · exact hs x hx
  rw [h mark hlt hsettled, openAt, mark?_set_of_ne c i (by omega)]

/-- Closing a group changes its end alone, which does not count while the group is open. -/
theorem Framed.of_closeAt (h : (c.closeAt (g + 1) i).Framed isOpen lo c') :
    c.Framed (fun x => x = g + 1 ∨ isOpen x) lo c' := by
  intro mark hlt hs
  have hne : mark ≠ 2 * g + 1 := hs g (.inl rfl)
  rw [h mark hlt fun x hx => hs x (.inr hx), closeAt, mark?_set_of_ne c i (by omega)]

/-- To close a group is to leave the marks before it alone. -/
theorem Framed.closeAt (h : c.Framed isOpen lo c') (hlo : lo ≤ g + 1) :
    c.Framed isOpen lo (c'.closeAt (g + 1) i) := by
  intro mark hlt hs
  rw [Captures.closeAt, mark?_set_of_ne c' i (by omega)]
  exact h mark hlt hs

end

/-! ## Groups that are wide enough -/

/-- Every group that is not open spans its least width. -/
def Spans (W : Nat → Width) (isOpen : Nat → Prop) (c : Captures) : Prop :=
  ∀ g i j, ¬isOpen (g + 1) → c.mark? (2 * g) = some i → c.mark? (2 * g + 1) = some j →
    i + (W (g + 1)).least ≤ j

/-- Groups that are the same are as wide. -/
theorem Spans.same {W : Nat → Width} (h : c.Spans W isOpen) (hs : c.Same isOpen c') :
    c'.Spans W isOpen := by
  intro g i j hg hi hj
  rw [hs.marks _ (settled_even isOpen g)] at hi
  rw [hs.marks _ (settled_odd hg)] at hj
  exact h g i j hg hi hj

/-- A group that is opened need not be wide enough before it is closed. -/
theorem Spans.openAt {W : Nat → Width} (h : c.Spans W isOpen) (g i : Nat) :
    (c.openAt (g + 1) i).Spans W fun x => x = g + 1 ∨ isOpen x := by
  intro x a b hx ha hb
  obtain ⟨hne, hopen⟩ := not_or.mp hx
  unfold Captures.openAt at ha hb
  rw [mark?_set_of_ne c i (by omega)] at ha hb
  exact h x a b hopen ha hb

/-- A group is closed where it is wide enough. -/
theorem Spans.closeAt {W : Nat → Width} {g i j : Nat}
    (h : c.Spans W fun x => x = g + 1 ∨ isOpen x) (hopened : c.mark? (2 * g) = some i)
    (hwide : i + (W (g + 1)).least ≤ j) : (c.closeAt (g + 1) j).Spans W isOpen := by
  intro x a b hx ha hb
  unfold Captures.closeAt at ha hb
  by_cases hxg : x = g
  · subst hxg
    have hstart : (c.set (2 * (x + 1) - 1) j).mark? (2 * x) = some i := by
      rw [mark?_set_of_ne c j (by omega), hopened]
    have hend : (c.set (2 * (x + 1) - 1) j).mark? (2 * x + 1) = some j := mark?_set_self c _ j
    rw [hstart] at ha
    rw [hend] at hb
    cases ha
    cases hb
    exact hwide
  · rw [mark?_set_of_ne c j (by omega)] at ha hb
    exact h x a b (not_or.mpr ⟨by omega, hx⟩) ha hb

end Captures

/-! ## Inside and outside of repeats -/

/-- Where a part stands: outside of all repeats, or inside one whose groups are numbered from `floor`
up to but not including `top`. -/
inductive Zone
  | outside
  | inside (floor top : Nat)

namespace Zone

/-- Are marks put back as they were after a failure? -/
def inRepeat : Zone → Bool
  | outside => false
  | inside _ _ => true

/-- The group before which a failed attempt leaves the marks alone, if the part has groups from `lo`
on. -/
def floor : Zone → Nat → Nat
  | outside, lo => lo
  | inside floor _, _ => floor

/-- The group before which there may be marks where the groups from `lo` on come next. -/
def top : Zone → Nat → Nat
  | outside, lo => lo
  | inside _ top, _ => top

/-- The groups from `lo` up to `hi` belong to the repeat. -/
def Covers : Zone → Nat → Nat → Prop
  | outside, _, _ => True
  | inside floor top, lo, hi => floor ≤ lo ∧ hi ≤ top

/-- The zone inside a repeat with the groups from `lo` up to `hi`. -/
def enter : Zone → Nat → Nat → Zone
  | outside, lo, hi => inside lo hi
  | inside floor top, _, _ => inside floor top

variable {zone : Zone} {lo hi lo' hi' : Nat}

/-- Later groups have a later floor. -/
theorem floor_mono (zone : Zone) (h : lo ≤ hi) : zone.floor lo ≤ zone.floor hi := by
  cases zone with
  | outside => exact h
  | inside _ _ => exact Nat.le_refl _

/-- Later groups have a later top. -/
theorem top_mono (zone : Zone) (h : lo ≤ hi) : zone.top lo ≤ zone.top hi := by
  cases zone with
  | outside => exact h
  | inside _ _ => exact Nat.le_refl _

/-- A repeat has the groups between those that it has. -/
theorem Covers.mono (h : zone.Covers lo hi) (hlo : lo ≤ lo') (hhi : hi' ≤ hi) :
    zone.Covers lo' hi' := by
  cases zone with
  | outside => trivial
  | inside _ _ => exact ⟨Nat.le_trans h.1 hlo, Nat.le_trans hhi h.2⟩

/-- The floor is not behind the groups of a part. -/
theorem Covers.floor_le (h : zone.Covers lo hi) : zone.floor lo ≤ lo := by
  cases zone with
  | outside => exact Nat.le_refl _
  | inside _ _ => exact h.1

/-- The top is not before the groups of a part. -/
theorem Covers.le_top (h : zone.Covers lo hi) : hi ≤ zone.top hi := by
  cases zone with
  | outside => exact Nat.le_refl _
  | inside _ _ => exact h.2

/-- A repeat has its own groups. -/
theorem Covers.enter (h : zone.Covers lo hi) : (zone.enter lo hi).Covers lo hi := by
  cases zone with
  | outside => exact ⟨Nat.le_refl _, Nat.le_refl _⟩
  | inside _ _ => exact h

@[simp] theorem inRepeat_enter (zone : Zone) (lo hi : Nat) :
    (zone.enter lo hi).inRepeat = true := by
  cases zone <;> rfl

@[simp] theorem floor_enter (zone : Zone) (lo hi n : Nat) :
    (zone.enter lo hi).floor n = zone.floor lo := by
  cases zone <;> rfl

@[simp] theorem top_enter (zone : Zone) (lo hi n : Nat) :
    (zone.enter lo hi).top n = zone.top hi := by
  cases zone <;> rfl

end Zone

/-! ## What a part finds and what it leaves -/

/-- What a part with groups from `lo` on finds: groups that are wide enough, and outside of repeats
only groups before `lo`. -/
structure Captures.Standing (W : Nat → Width) (isOpen : Nat → Prop) (zone : Zone) (lo : Nat)
    (c : Captures) : Prop where
  spans : c.Spans W isOpen
  length : c.marks.length ≤ 2 * zone.top lo - 2

/-- A match has the property `P`, and the marks after a failure have the property `Q`. -/
def Verdict.Leaves (P : Memory → Prop) (Q : Captures → Prop) : Verdict → Prop
  | .matched m => P m
  | .failed m => Q m.captures

/-- Going on with `k` after a part that has the groups from `lo` up to `hi` and was started with the
marks `c`: from every place from `place` on, and from all marks that the part can leave, a match has
the property `P`, and a failure leaves alone what it should. -/
def Step.Settles (text : Array Char) (W : Nat → Width) (P : Memory → Prop) (isOpen : Nat → Prop)
    (zone : Zone) (lo hi place : Nat) (c : Captures) (k : Step) : Prop :=
  ∀ j m, place ≤ j → j ≤ text.size → m.captures.Standing W isOpen zone hi →
    c.Framed isOpen lo m.captures →
      (k j m).Leaves P (m.captures.Framed isOpen (zone.floor hi))

section

variable {text : Array Char} {W : Nat → Width} {P : Memory → Prop} {isOpen : Nat → Prop}
  {zone : Zone} {lo hi place : Nat} {c c' : Captures} {k : Step} {m : Memory}

/-- What is left has what follows from its properties. -/
theorem Verdict.Leaves.imp {P' : Memory → Prop} {Q Q' : Captures → Prop} {v : Verdict}
    (h : v.Leaves P Q) (hP : ∀ r, P r → P' r) (hQ : ∀ r, Q r → Q' r) : v.Leaves P' Q' := by
  cases v with
  | matched r => exact hP r h
  | failed r => exact hQ r.captures h

/-- A failure that leaves all marks leaves those before a group. -/
theorem Verdict.Leaves.framed {v : Verdict} (h : v.Leaves P (c.Same isOpen)) (lo : Nat) :
    v.Leaves P (c.Framed isOpen lo) :=
  h.imp (fun _ => id) fun _ hr => hr.framed lo

/-- Going back to a place does not change marks. -/
theorem Verdict.Leaves.backTo {Q : Captures → Prop} {v : Verdict} (h : v.Leaves P Q) (i : Nat) :
    (v.backTo i).Leaves P Q := by
  cases v <;> exact h

namespace Captures.Standing

/-- What is found before a group is found before later ones. -/
theorem mono (h : c.Standing W isOpen zone lo) (hle : lo ≤ hi) : c.Standing W isOpen zone hi :=
  ⟨h.spans, by have := zone.top_mono hle; have := h.length; omega⟩

/-- The same marks are found in the same way. -/
theorem same (h : c.Standing W isOpen zone lo) (hs : c.Same isOpen c') :
    c'.Standing W isOpen zone lo :=
  ⟨h.spans.same hs, Nat.le_trans hs.length h.length⟩

/-- Inside a repeat the marks are bounded by all groups of the repeat. -/
theorem enter_iff {n : Nat} :
    c.Standing W isOpen (zone.enter lo hi) n ↔ c.Standing W isOpen zone hi :=
  ⟨fun h => ⟨h.spans, by simpa using h.length⟩, fun h => ⟨h.spans, by simpa using h.length⟩⟩

/-- Putting the marks back after a failed attempt. -/
theorem undo (h : c.Standing W isOpen zone lo)
    (hm : c.Framed isOpen (zone.floor lo) m.captures) :
    c.Same isOpen (m.undo zone.inRepeat c).captures := by
  cases zone with
  | outside => exact hm.same_cutTo h.length
  | inside _ _ => exact .refl

/-- A group that is opened need not span its width yet. -/
theorem openAt {g : Nat} (h : c.Standing W isOpen zone (g + 1)) (hcovers : zone.Covers (g + 2) hi)
    (hle : g + 2 ≤ hi) (i : Nat) :
    (c.openAt (g + 1) i).Standing W (fun x => x = g + 1 ∨ isOpen x) zone (g + 2) := by
  refine ⟨h.spans.openAt g i, ?_⟩
  have hlength := h.length
  have hmono := zone.top_mono (by omega : g + 1 ≤ g + 2)
  have htop := (hcovers.mono (Nat.le_refl _) hle).le_top
  rw [Captures.openAt, length_set]
  omega

/-- A group that is closed spans its width, so it may be open no more. -/
theorem closeAt {g i j : Nat} (h : c.Standing W (fun x => x = g + 1 ∨ isOpen x) zone hi)
    (hcovers : zone.Covers lo hi) (hle : g + 2 ≤ hi) (hopened : c.mark? (2 * g) = some i)
    (hwide : i + (W (g + 1)).least ≤ j) : (c.closeAt (g + 1) j).Standing W isOpen zone hi := by
  refine ⟨h.spans.closeAt hopened hwide, ?_⟩
  have hlength := h.length
  have htop := hcovers.le_top
  rw [Captures.closeAt, length_set]
  omega

/-- What a reference consumes. -/
theorem span_le {g a b : Nat} (h : c.Standing W isOpen zone lo) (hg : 0 < g) (hopen : ¬isOpen g)
    (hspan : c.span? g = some (a, b)) : (W g).least ≤ b - a := by
  obtain ⟨g, rfl⟩ := Nat.exists_eq_succ_of_ne_zero (by omega : g ≠ 0)
  unfold span? at hspan
  split at hspan
  · rename_i i j hi hj
    split at hspan
    · cases hspan
      have hwide : a + (W (g + 1)).least ≤ b := h.spans g a b hopen hi hj
      exact Nat.le_sub_of_add_le' hwide
    · cases hspan
  · cases hspan

end Captures.Standing

namespace Step.Settles

/-- The step may be taken later, and from marks that came to be in between. -/
theorem shift (h : k.Settles text W P isOpen zone lo hi place c) {place' : Nat}
    (hplace : place ≤ place') (hc : c.Framed isOpen lo c') :
    k.Settles text W P isOpen zone lo hi place' c' :=
  fun j m hj hsize hm hframed => h j m (by omega) hsize hm (hc.trans hframed)

/-- A part with fewer groups finds less and leaves less. -/
theorem narrow (h : k.Settles text W P isOpen zone lo hi place c) {lo' hi' : Nat}
    (hlo : lo ≤ lo') (hhi : hi' ≤ hi) : k.Settles text W P isOpen zone lo' hi' place c :=
  fun j m hj hsize hm hframed =>
    (h j m hj hsize (hm.mono hhi) (hframed.mono hlo)).imp (fun _ => id) fun _ hr =>
      hr.mono (zone.floor_mono hhi)

/-- Seen from the marks with which the part was started. -/
theorem leaves (h : k.Settles text W P isOpen zone lo hi place c) (hcovers : zone.Covers lo hi)
    (hle : lo ≤ hi) {j : Nat} (hj : place ≤ j) (hsize : j ≤ text.size)
    (hm : m.captures.Standing W isOpen zone hi) (hframed : c.Framed isOpen lo m.captures) :
    (k j m).Leaves P (c.Framed isOpen (zone.floor lo)) :=
  (h j m hj hsize hm hframed).imp (fun _ => id) fun _ hr =>
    (hframed.mono hcovers.floor_le).trans (hr.mono (zone.floor_mono hle))

end Step.Settles

/-! ## Repeats of one character -/

/-- One attempt to go on where characters were given back. -/
private theorem giveBack_attemptAt_leaves (hc : c.Standing W isOpen zone lo)
    (hk : k.Settles text W P isOpen zone lo lo place c) (next : Option Nat) {i : Nat}
    (hplace : place ≤ i) (hi : i ≤ text.size) (hm : c.Same isOpen m.captures) :
    (giveBack.attemptAt text next zone.inRepeat c k i m).Leaves P (c.Same isOpen) := by
  unfold giveBack.attemptAt
  split
  · have hrest := hk i (m.goTo i) hplace hi (hc.same hm) (hm.framed lo)
    cases hv : k i (m.goTo i) with
    | matched r =>
      rw [hv] at hrest
      exact hrest
    | failed r =>
      rw [hv] at hrest
      exact hc.undo ((hm.framed _).trans hrest)
  · exact hm

/-- Giving back characters, by induction on how many are left. -/
theorem giveBack_leaves (hc : c.Standing W isOpen zone lo)
    (hk : k.Settles text W P isOpen zone lo lo place c) (next : Option Nat) {count : Nat}
    (hsize : place + count ≤ text.size) (hm : c.Same isOpen m.captures) :
    (giveBack text next zone.inRepeat c k place count m).Leaves P (c.Same isOpen) := by
  induction count generalizing m with
  | zero => exact giveBack_attemptAt_leaves hc hk next (Nat.le_refl _) hsize hm
  | succ count ih =>
    unfold giveBack
    have hattempt := giveBack_attemptAt_leaves hc hk next (Nat.le_add_right _ (count + 1)) hsize hm
    cases hv : giveBack.attemptAt text next zone.inRepeat c k (place + (count + 1)) m with
    | matched r =>
      rw [hv] at hattempt
      exact hattempt
    | failed r =>
      rw [hv] at hattempt
      exact ih (by omega) hattempt

/-- Taking more characters, by induction on how many may be taken. -/
theorem takeMore_leaves (hc : c.Standing W isOpen zone lo)
    (hk : k.Settles text W P isOpen zone lo lo place c) {accepts : Nat → Bool}
    (ha : ∀ i, accepts i = true → i < text.size) (folded : Bool) {limit i : Nat}
    (hplace : place ≤ i) (hi : i ≤ text.size) (hm : c.Same isOpen m.captures) :
    (takeMore accepts folded zone.inRepeat c k limit i m).Leaves P (c.Same isOpen) := by
  induction limit generalizing i m with
  | zero =>
    have hrest := hk i (m.goTo i) hplace hi (hc.same hm) (hm.framed lo)
    unfold takeMore
    cases hv : k i (m.goTo i) with
    | matched r =>
      rw [hv] at hrest
      exact hrest
    | failed r =>
      rw [hv] at hrest
      have hundo := hc.undo ((hm.framed _).trans hrest)
      dsimp only
      split <;> exact hundo
  | succ limit ih =>
    have hrest := hk i (m.goTo i) hplace hi (hc.same hm) (hm.framed lo)
    unfold takeMore
    cases hv : k i (m.goTo i) with
    | matched r =>
      rw [hv] at hrest
      exact hrest
    | failed r =>
      rw [hv] at hrest
      have hundo := hc.undo ((hm.framed _).trans hrest)
      cases hacc : accepts i with
      | false => exact hundo
      | true => exact ih (by omega) (ha i hacc) hundo

/-- A repeat of one character consumes as many as it must. -/
theorem unitRounds_leaves {accepts : Nat → Bool} (ha : ∀ i, accepts i = true → i < text.size)
    (folded : Bool) (greed : Greed) {least : Nat} (most next : Option Nat) {i : Nat}
    (hi : i ≤ text.size) (hm : m.captures.Standing W isOpen zone lo)
    (hk : k.Settles text W P isOpen zone lo lo (i + least) m.captures) :
    (unitRounds text accepts folded zone.inRepeat greed least most next k i m).Leaves P
      (m.captures.Framed isOpen (zone.floor lo)) := by
  have hsame : m.captures.Same isOpen m.captures := .refl
  have hframed := hsame.framed (zone.floor lo)
  unfold unitRounds
  dsimp only
  split
  · exact hframed
  · cases greed <;> dsimp only <;> split
    case greedy.isFalse hstop =>
      have hsize := runEnd_le ha (most.elim (text.size - i) (min (text.size - i))) hi
      refine Verdict.Leaves.framed ?_ (zone.floor lo)
      exact giveBack_leaves hm hk next (by omega) hsame
    case lazy.isFalse hstop =>
      refine Verdict.Leaves.framed ?_ (zone.floor lo)
      exact takeMore_leaves hm hk ha folded (by omega) (runEnd_le ha least hi) hsame
    case possessive.isFalse hstop =>
      exact hk _ _ (by omega) (runEnd_le ha _ hi) hm (hsame.framed lo)
    all_goals exact hframed

/-! ## Other repeats -/

/-- One more round moves the place by its width, until there are enough rounds. -/
private theorem place_of_round {w least count i j : Nat} (h : i + w * min count least ≤ j) :
    i + w * min (count + 1) least ≤ j + w := by
  have hround : w * min (count + 1) least ≤ w * (min count least + 1) :=
    Nat.mul_le_mul_left w (by omega)
  rw [Nat.mul_succ] at hround
  omega

section Rounds

variable {body : Step → Step} {w i : Nat}
  (hbody : ∀ (k : Step) (j : Nat) (m : Memory), j ≤ text.size →
    m.captures.Standing W isOpen (zone.enter lo hi) lo →
    k.Settles text W P isOpen (zone.enter lo hi) lo hi (j + w) m.captures →
      (body k j m).Leaves P (m.captures.Framed isOpen (zone.floor lo)))
include hbody

/-- Greedy rounds, by induction on the rounds that are left. -/
theorem greedyRounds_leaves {least : Nat} (hle : lo ≤ hi)
    (hk : k.Settles text W P isOpen zone lo hi (i + w * least) c) (most : Option Nat)
    (left count : Nat) (last : Option Nat) :
    (greedyRounds body least most k left count last).Settles text W P isOpen (zone.enter lo hi) lo hi
      (i + w * min count least) c := by
  induction left generalizing count last with
  | zero => exact fun _ _ _ _ _ _ => Captures.Framed.refl
  | succ left ih =>
    intro j m hplace hsize hm hframed
    have hround : ∀ last', (body (greedyRounds body least most k left (count + 1) last') j
        (m.goTo j)).Leaves P (m.captures.Framed isOpen (zone.floor lo)) := fun last' =>
      hbody _ j (m.goTo j) hsize (Captures.Standing.enter_iff.mpr (Captures.Standing.enter_iff.mp hm))
        ((ih (count + 1) last').shift (place_of_round hplace) hframed)
    have hend : least ≤ count →
        ((k j (m.goTo j)).backTo j).Leaves P (m.captures.Framed isOpen (zone.floor lo)) := by
      intro hcount
      rw [Nat.min_eq_right hcount] at hplace
      exact ((hk j (m.goTo j) hplace hsize (Captures.Standing.enter_iff.mp hm) hframed).imp
        (fun _ => id) fun _ hr => hr.mono (zone.floor_mono hle)).backTo j
    rw [Zone.floor_enter]
    unfold greedyRounds
    dsimp only
    split
    · exact (hround last).backTo j
    · rename_i hcount
      split
      · have hfirst := hround (some j)
        split
        · rename_i r hr
          rw [hr] at hfirst
          exact hfirst
        · exact hend (by omega)
      · exact hend (by omega)

/-- Lazy rounds, by induction on the rounds that are left. -/
theorem lazyRounds_leaves {least : Nat}
    (hk : k.Settles text W P isOpen zone lo hi (i + w * least) c) (most : Option Nat)
    (left count : Nat) (last : Option Nat) :
    (lazyRounds body zone.inRepeat least most k left count last).Settles text W P isOpen
      (zone.enter lo hi) lo hi (i + w * min count least) c := by
  induction left generalizing count last with
  | zero => exact fun _ _ _ _ _ _ => Captures.Framed.refl
  | succ left ih =>
    intro j m hplace hsize hm hframed
    have hstanding := Captures.Standing.enter_iff.mp hm
    -- A round starts with the marks that were there, or with those that are put back.
    have hround : ∀ last' (m' : Memory), m.captures.Same isOpen m'.captures →
        (body (lazyRounds body zone.inRepeat least most k left (count + 1) last') j m').Leaves P
          (m.captures.Framed isOpen (zone.floor lo)) := by
      intro last' m' hsame
      refine (hbody _ j m' hsize (Captures.Standing.enter_iff.mpr (hstanding.same hsame)) ?_).imp
        (fun _ => id) fun _ hr => (hsame.framed _).trans hr
      exact (ih (count + 1) last').shift (place_of_round hplace) (hframed.trans (hsame.framed lo))
    rw [Zone.floor_enter]
    unfold lazyRounds
    dsimp only
    split
    · exact (hround last (m.goTo j) .refl).backTo j
    · rename_i hcount
      rw [Nat.min_eq_right (by omega)] at hplace
      have hend := hk j (m.goTo j) hplace hsize hstanding hframed
      split
      · rename_i r hr
        rw [hr] at hend
        exact hend
      · rename_i r hr
        rw [hr] at hend
        have hundo : m.captures.Same isOpen (r.undo zone.inRepeat m.captures).captures :=
          hstanding.undo hend
        split
        · exact (hround (some j) ((r.undo zone.inRepeat m.captures).goTo j) hundo).backTo j
        · exact hundo.framed _

end Rounds

/-! ## Looking around and choosing -/

/-- What a part that is matched on its own leaves: it ends at or after `place`, and the rest is as
for `Step.Settles`. -/
structure Memory.Ends (text : Array Char) (W : Nat → Width) (isOpen : Nat → Prop) (zone : Zone)
    (lo hi place : Nat) (c : Captures) (m : Memory) : Prop where
  place_le : place ≤ m.reached
  le_size : m.reached ≤ text.size
  standing : m.captures.Standing W isOpen zone hi
  framed : c.Framed isOpen lo m.captures

/-- A part on its own ends where it ends. -/
theorem Step.settles_done : Step.done.Settles text W
    (Memory.Ends text W isOpen zone lo hi place c) isOpen zone lo hi place c :=
  fun _ _ hj hsize hm hframed => ⟨hj, hsize, hm, hframed⟩

/-- Looking around consumes nothing, and a failure inside leaves what it should. -/
theorem lookFrom_leaves {body : Step} {start i : Nat}
    (hbody : (body start (m.goTo start)).Leaves
      (Memory.Ends text W isOpen zone lo hi place m.captures)
      (m.captures.Framed isOpen (zone.floor lo)))
    (hcovers : zone.Covers lo hi) (hle : lo ≤ hi) (hsize : i ≤ text.size)
    (hm : m.captures.Standing W isOpen zone lo)
    (hk : k.Settles text W P isOpen zone lo hi i m.captures) (negated : Bool) :
    (lookFrom negated zone.inRepeat body k start i m).Leaves P
      (m.captures.Framed isOpen (zone.floor lo)) := by
  unfold lookFrom
  split
  · rename_i r hr
    rw [hr] at hbody
    obtain ⟨-, -, hstanding, hframed⟩ := hbody
    cases negated with
    | false => exact hk.leaves hcovers hle (Nat.le_refl i) hsize hstanding hframed
    | true => exact hframed.mono hcovers.floor_le
  · rename_i r hr
    rw [hr] at hbody
    cases negated with
    | false => exact hbody
    | true =>
      have hundo := hm.undo hbody
      exact hk.leaves hcovers hle (Nat.le_refl i) hsize ((hm.same hundo).mono hle) (hundo.framed lo)

/-- An alternative that cannot match here changes nothing. -/
theorem tryAlternative_leaves (text : Array Char) {alternative : Step} {i : Nat}
    (h : (alternative i (m.goTo i)).Leaves P (c.Framed isOpen lo))
    (hm : c.Framed isOpen lo m.captures) (lead : Option Lead) :
    (tryAlternative text lead alternative i m).Leaves P (c.Framed isOpen lo) := by
  unfold tryAlternative
  split
  · exact hm
  · exact h

/-! ## Whole patterns -/

namespace Node

/-- Does the pattern go on from the place where it is?  A possessive repeat of more than one
character need not. -/
def keepsPlace : Node → Bool
  | .empty => true
  | .single _ => true
  | .anchor _ => true
  | .group _ body => body.keepsPlace
  | .scoped _ _ body => body.keepsPlace
  | .atomic body => body.keepsPlace
  | .rounds greed _ _ body =>
    (greed != .possessive || (body.soleStep? {}).isSome) && body.keepsPlace
  | .ahead _ body => body.keepsPlace
  | .behind _ _ body => body.keepsPlace
  | .backref _ => true
  | .conditional _ yes no => yes.keepsPlace && no.keepsPlace
  | .either first second => first.keepsPlace && second.keepsPlace
  | .both first second => first.keepsPlace && second.keepsPlace

/-- Whether a pattern is one step does not depend on flags. -/
private theorem isSome_soleStep? (n : Node) (f g : Flags) :
    (n.soleStep? f).isSome = (n.soleStep? g).isSome := by
  induction n generalizing f g with
  | «scoped» on off body ih => exact ih _ _
  | empty | single _ | anchor _ | group _ _ _ | atomic _ _ | rounds _ _ _ _ _ | ahead _ _ _
  | behind _ _ _ _ | backref _ | conditional _ _ _ _ _ | either _ _ _ _ | both _ _ _ _ => rfl

/-- A pattern that is one step is one character wide and has no groups. -/
private theorem of_soleStep? {n : Node} {f : Flags} {step : Single × Flags}
    (h : n.soleStep? f = some step) :
    n.width W = ⟨1, 1⟩ ∧ (n.Numbered W isOpen lo hi → hi = lo) := by
  induction n generalizing f with
  | single s => exact ⟨rfl, id⟩
  | «scoped» on off body ih => exact ih h
  | empty | anchor _ | group _ _ _ | atomic _ _ | rounds _ _ _ _ _ | ahead _ _ _
  | behind _ _ _ _ | backref _ | conditional _ _ _ _ _ | either _ _ _ _ | both _ _ _ _ => cases h

/-- Wherever it is started and whatever comes next, the pattern consumes at least its least width, and
leaves groups that span theirs. -/
def Consumes (text : Array Char) (W : Nat → Width) (n : Node) : Prop :=
  ∀ ⦃P isOpen zone lo hi k i m⦄, n.Numbered W isOpen lo hi → n.keepsPlace = true →
    zone.Covers lo hi → 0 < lo → ∀ (f : Flags) (next : Option Nat), i ≤ text.size →
    m.captures.Standing W isOpen zone lo →
    k.Settles text W P isOpen zone lo hi (i + (n.width W).least) m.captures →
      (n.run text f zone.inRepeat next k i m).Leaves P (m.captures.Framed isOpen (zone.floor lo))

section Consumes

variable {body first second : Node}

/-- The mark at the start of a group stays until it is closed, and so the group is wide enough. -/
theorem consumes_group {g : Nat} (ih : body.Consumes text W) :
    (group g body).Consumes text W := by
  intro P isOpen zone lo hi k i m hn hplace hcovers hlo f next hsize hm hk
  obtain ⟨rfl, hbody, hwidth⟩ := hn
  obtain ⟨x, rfl⟩ := Nat.exists_eq_succ_of_ne_zero (by omega : g ≠ 0)
  have hle : x + 2 ≤ hi := hbody.le
  have hcovers' : zone.Covers (x + 2) hi := hcovers.mono (by omega) (Nat.le_refl _)
  have hopened : (m.captures.openAt (x + 1) i).mark? (2 * x) = some i :=
    Captures.mark?_set_self m.captures _ i
  have hrun := ih hbody hplace hcovers' (by omega) f none hsize
    (m := { m with captures := m.captures.openAt (x + 1) i }) (hm.openAt hcovers' hle i)
    (k := fun j m => k j { m with captures := m.captures.closeAt (x + 1) j }) (P := P) ?_
  · refine hrun.imp (fun _ => id) fun r hr => ?_
    exact (hr.mono (zone.floor_mono (Nat.le_succ _))).of_openAt hcovers.floor_le
  · intro j m' hj hsize' hm' hframed'
    have hstart : m'.captures.mark? (2 * x) = some i := by
      rw [hframed' (2 * x) (by omega) (Captures.settled_even _ x), hopened]
    have hwide : i + (W (x + 1)).least ≤ j := hwidth ▸ hj
    have hclosed := hm'.closeAt hcovers' hle hstart hwide
    refine (hk j _ hj hsize' hclosed ?_).imp (fun _ => id) fun r hr => hr.of_closeAt
    exact ((hframed'.mono (by omega)).of_openAt (Nat.le_refl _)).closeAt (Nat.le_refl _)

/-- An atomic group is matched on its own. -/
theorem consumes_atomic (ih : body.Consumes text W) : (atomic body).Consumes text W := by
  intro P isOpen zone lo hi k i m hn hplace hcovers hlo f next hsize hm hk
  have hbody := ih hn hplace hcovers hlo f none hsize (m := m.goTo i) hm Step.settles_done
  unfold run
  split
  · rename_i r hr
    rw [hr] at hbody
    obtain ⟨hle, hle', hstanding, hframed'⟩ := hbody
    exact hk.leaves hcovers hn.le hle hle' hstanding hframed'
  · rename_i r hr
    rw [hr] at hbody
    exact hbody

/-- A repeat, by its greed. -/
theorem consumes_rounds {greed : Greed} {least : Nat} {most : Option Nat}
    (ih : body.Consumes text W) : (rounds greed least most body).Consumes text W := by
  intro P isOpen zone lo hi k i m hn hplace hcovers hlo f next hsize hm hk
  have hleast : i + (width W (.rounds greed least most body)).least ≤
      i + (body.width W).least * least :=
    Nat.add_le_add_left (Nat.min_le_left _ _) i
  have hk' := hk.shift hleast .refl
  unfold run
  cases hsole : body.soleStep? f with
  | some step =>
    obtain ⟨hwidth, hgroups⟩ := of_soleStep? hsole
    obtain rfl := hgroups hn
    rw [hwidth, Nat.one_mul] at hk'
    exact unitRounds_leaves (fun _ => Single.lt_size_of_acceptsAt) _ greed most next hsize hm hk'
  | none =>
    obtain ⟨hgreed, hplace⟩ := Bool.and_eq_true_iff.mp hplace
    -- A round that fails leaves the marks before the groups of the repeat alone.
    have hbody : ∀ (k : Step) (j : Nat) (m : Memory), j ≤ text.size →
        m.captures.Standing W isOpen (zone.enter lo hi) lo →
        k.Settles text W P isOpen (zone.enter lo hi) lo hi (j + (body.width W).least) m.captures →
          (body.run text f true none k j m).Leaves P
            (m.captures.Framed isOpen (zone.floor lo)) := by
      intro k j m hj hm hk
      have hrun := ih hn hplace hcovers.enter hlo f none hj hm hk
      rwa [Zone.floor_enter, Zone.inRepeat_enter] at hrun
    have hstanding : m.captures.Standing W isOpen (zone.enter lo hi) hi :=
      Captures.Standing.enter_iff.mpr (hm.mono hn.le)
    cases greed with
    | greedy =>
      have hrounds := greedyRounds_leaves hbody hn.le hk' most (roundLimit text least) 0 none i m
        (by simp) hsize hstanding .refl
      rwa [Zone.floor_enter] at hrounds
    | lazy =>
      have hrounds := lazyRounds_leaves hbody hk' most (roundLimit text least) 0 none i m
        (by simp) hsize hstanding .refl
      rwa [Zone.floor_enter] at hrounds
    | possessive =>
      -- A possessive repeat keeps its place only if it has one step for a body.
      rw [isSome_soleStep? body {} f, hsole] at hgreed
      cases hgreed

/-- Looking behind starts before the place and goes on from it. -/
theorem consumes_behind {negated : Bool} {width : Width} (ih : body.Consumes text W) :
    (behind negated width body).Consumes text W := by
  intro P isOpen zone lo hi k i m hn hplace hcovers hlo f next hsize hm hk
  unfold run
  split
  · split
    · exact hk.leaves hcovers hn.le (Nat.le_refl _) hsize (hm.mono hn.le) .refl
    · exact Captures.Framed.refl
  · have hstart : i - width.least ≤ text.size := by omega
    have hbody := ih hn hplace hcovers hlo f none hstart (m := m.goTo (i - width.least)) hm
      Step.settles_done
    exact lookFrom_leaves hbody hcovers hn.le hsize hm hk negated

/-- A reference consumes what the group spans. -/
theorem consumes_backref (g : Nat) : (backref g).Consumes text W := by
  intro P isOpen zone lo hi k i m hn hplace hcovers hlo f next hsize hm hk
  obtain ⟨rfl, hpos, -, hopen⟩ := hn
  unfold run
  split
  · rename_i a b hspan
    have hwide := hm.span_le hpos hopen hspan
    split
    · rename_i hrepeats
      exact hk.leaves hcovers (Nat.le_refl _) (Nat.add_le_add_left hwide i)
        (repeatsText_le hsize hrepeats) hm .refl
    · exact Captures.Framed.refl
  · exact Captures.Framed.refl

/-- A condition consumes what either branch does. -/
theorem consumes_conditional {g : Nat} (ih₁ : first.Consumes text W)
    (ih₂ : second.Consumes text W) : (conditional g first second).Consumes text W := by
  intro P isOpen zone lo hi k i m hn hplace hcovers hlo f next hsize hm hk
  obtain ⟨mid, h₁, h₂⟩ := hn
  obtain ⟨hplace₁, hplace₂⟩ := Bool.and_eq_true_iff.mp hplace
  have hleast : (width W (.conditional g first second)).least =
      min (first.width W).least (second.width W).least := rfl
  unfold run
  split
  · refine ih₁ h₁ hplace₁ (hcovers.mono (Nat.le_refl _) h₂.le) hlo f _ hsize hm ?_
    exact (hk.narrow (Nat.le_refl _) h₂.le).shift (by omega) .refl
  · refine (ih₂ h₂ hplace₂ (hcovers.mono h₁.le (Nat.le_refl _)) (Nat.lt_of_lt_of_le hlo h₁.le) f _
      hsize (hm.mono h₁.le) ?_).imp (fun _ => id) fun _ hr =>
        hr.mono (zone.floor_mono h₁.le)
    exact (hk.narrow h₁.le (Nat.le_refl _)).shift (by omega) .refl

/-- A choice consumes what either alternative does. -/
theorem consumes_either (ih₁ : first.Consumes text W) (ih₂ : second.Consumes text W) :
    (either first second).Consumes text W := by
  intro P isOpen zone lo hi k i m hn hplace hcovers hlo f next hsize hm hk
  obtain ⟨mid, h₁, h₂⟩ := hn
  obtain ⟨hplace₁, hplace₂⟩ := Bool.and_eq_true_iff.mp hplace
  have hleast : (width W (.either first second)).least =
      min (first.width W).least (second.width W).least := rfl
  have hfirst := tryAlternative_leaves text (ih₁ h₁ hplace₁
    (hcovers.mono (Nat.le_refl _) h₂.le) hlo f none hsize (m := m.goTo i) hm
    ((hk.narrow (Nat.le_refl _) h₂.le).shift (by omega) .refl)) .refl (first.lead? f)
  -- The second alternative starts with the marks put back.
  have hsecond : ∀ next (r : Memory), m.captures.Same isOpen r.captures →
      (second.run text f zone.inRepeat next k i r).Leaves P
        (m.captures.Framed isOpen (zone.floor lo)) := by
    intro next r hsame
    refine (ih₂ h₂ hplace₂ (hcovers.mono h₁.le (Nat.le_refl _)) (Nat.lt_of_lt_of_le hlo h₁.le) f
      next hsize ((hm.same hsame).mono h₁.le) ?_).imp (fun _ => id) fun _ hr =>
        (hsame.framed _).trans (hr.mono (zone.floor_mono h₁.le))
    exact (hk.narrow h₁.le (Nat.le_refl _)).shift (by omega) (hsame.framed mid)
  unfold run
  split
  · rename_i r hr
    rw [hr] at hfirst
    exact hfirst
  · rename_i r hr
    rw [hr] at hfirst
    have hundo := hm.undo hfirst
    dsimp only
    split
    · exact hsecond next _ hundo
    · have htry := tryAlternative_leaves text (hsecond none
        ((r.undo zone.inRepeat m.captures).goTo i) hundo) (hundo.framed _) (second.lead? f)
      split
      · rename_i r' hr'
        rw [hr'] at htry
        exact htry
      · rename_i r' hr'
        rw [hr'] at htry
        exact (hm.undo htry).framed _

/-- The second part starts where the first one ended. -/
theorem consumes_both (ih₁ : first.Consumes text W) (ih₂ : second.Consumes text W) :
    (both first second).Consumes text W := by
  intro P isOpen zone lo hi k i m hn hplace hcovers hlo f next hsize hm hk
  obtain ⟨mid, h₁, h₂⟩ := hn
  obtain ⟨hplace₁, hplace₂⟩ := Bool.and_eq_true_iff.mp hplace
  have hleast : (width W (.both first second)).least ≤
      (first.width W).least + (second.width W).least := Nat.min_le_left _ _
  refine ih₁ h₁ hplace₁ (hcovers.mono (Nat.le_refl _) h₂.le) hlo f _ hsize hm ?_
  intro j m' hj hsize' hm' hframed'
  refine ih₂ h₂ hplace₂ (hcovers.mono h₁.le (Nat.le_refl _)) (Nat.lt_of_lt_of_le hlo h₁.le) f next
    hsize' hm' ?_
  intro j' m'' hj' hsize'' hm'' hframed''
  exact hk j' m'' (by omega) hsize'' hm'' (hframed'.trans (hframed''.mono h₁.le))

end Consumes

/-- Every pattern consumes at least its least width. -/
theorem consumes (text : Array Char) (W : Nat → Width) (n : Node) : n.Consumes text W := by
  induction n with
  | empty =>
    rintro P isOpen zone lo _ k i m rfl - hcovers - f next hsize hm hk
    exact hk.leaves hcovers (Nat.le_refl _) (Nat.le_refl _) hsize hm .refl
  | single s =>
    rintro P isOpen zone lo _ k i m rfl - hcovers - f next hsize hm hk
    unfold run
    split
    · rename_i haccepts
      exact hk.leaves hcovers (Nat.le_refl _) (Nat.le_refl _) (Single.lt_size_of_acceptsAt haccepts)
        hm .refl
    · exact Captures.Framed.refl
  | anchor a =>
    rintro P isOpen zone lo _ k i m rfl - hcovers - f next hsize hm hk
    unfold run
    split
    · exact hk.leaves hcovers (Nat.le_refl _) (Nat.le_refl _) hsize hm .refl
    · exact Captures.Framed.refl
  | group g body ih => exact consumes_group ih
  | «scoped» on off body ih =>
    intro P isOpen zone lo hi k i m hn hplace hcovers hlo f next hsize hm hk
    exact ih hn hplace hcovers hlo _ next hsize hm hk
  | atomic body ih => exact consumes_atomic ih
  | rounds greed least most body ih => exact consumes_rounds ih
  | ahead negated body ih =>
    intro P isOpen zone lo hi k i m hn hplace hcovers hlo f next hsize hm hk
    have hbody := ih hn hplace hcovers hlo f none hsize (m := m.goTo i) hm Step.settles_done
    exact lookFrom_leaves hbody hcovers hn.le hsize hm hk negated
  | behind negated width body ih => exact consumes_behind ih
  | backref g => exact consumes_backref g
  | conditional g yes no ih₁ ih₂ => exact consumes_conditional ih₁ ih₂
  | either first second ih₁ ih₂ => exact consumes_either ih₁ ih₂
  | both first second ih₁ ih₂ => exact consumes_both ih₁ ih₂

end Node

end

end Marginalia.Pattern
