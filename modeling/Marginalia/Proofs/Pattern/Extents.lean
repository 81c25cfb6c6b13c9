import Marginalia.Proofs.Pattern.Search

/-!
# How much of a text a pattern takes

What a pattern without groups and assertions does at a position depends on the text ahead alone: it
takes a number of characters, or it fails.  An `Extent` is that number as a function of the text
ahead, without positions, marks or backtracking.

A step stands for a part of a pattern and all that follows it.  So extents are put together from the
end of a pattern to its beginning: each construct has a lemma that turns the extent of the step
behind it into that of the step with it (`Step.TakesAt`), the last one being that of `Step.done`,
which takes nothing.
-/

namespace Marginalia.Pattern

/-- How many characters are taken from the front of a text, if the text begins as it should. -/
abbrev Extent := List Char → Option Nat

namespace Extent

/-- One accepted character, and what is taken behind it. -/
def one (accepts : Char → Bool) (rest : Extent) : Extent
  | [] => none
  | c :: cs => if accepts c then (rest cs).map (· + 1) else none

/-- All characters up to the first place where something is taken, and what is taken there. -/
def upTo (rest : Extent) : Extent
  | [] => rest []
  | c :: cs => (rest (c :: cs)).or ((upTo rest cs).map (· + 1))

theorem upTo_of_eq_some {rest : Extent} {cs : List Char} {n : Nat} (h : rest cs = some n) :
    upTo rest cs = some n := by
  cases cs with
  | nil => exact h
  | cons c cs => rw [upTo, h, Option.some_or]

/-- All accepted characters at the front. -/
def run (accepts : Char → Bool) : Extent := fun cs => some (cs.takeWhile accepts).length

end Extent

/-- The attempt leaves the marks `c` behind: it matches that many characters from `i` on, or fails
where no number is given. -/
def Verdict.Takes (c : Captures) (i : Nat) (taken : Option Nat) (v : Verdict) : Prop :=
  (∃ n, taken = some n ∧ v = .matched ⟨i + n, c⟩) ∨ taken = none ∧ ∃ place, v = .failed ⟨place, c⟩

/-- At the position the step takes what the extent takes of the text ahead, and sets no marks. -/
def Step.TakesAt (text : Array Char) (k : Step) (e : Extent) (i : Nat) : Prop :=
  ∀ m, (k i m).Takes m.captures i (e (text.toList.drop i))

variable {text : Array Char} {f : Flags} {k : Step} {e e₁ e₂ : Extent} {i : Nat}

theorem Verdict.takes_failed (m : Memory) (i : Nat) :
    (Verdict.failed m).Takes m.captures i none :=
  .inr ⟨rfl, m.reached, rfl⟩

/-- Nothing more is taken. -/
theorem Step.takesAt_done (text : Array Char) (i : Nat) :
    Step.done.TakesAt text (fun _ => some 0) i := fun _ => .inl ⟨0, rfl, rfl⟩

/-- Only how much is taken matters. -/
theorem Step.TakesAt.congr (h : k.TakesAt text e₁ i) (he : ∀ cs, e₁ cs = e₂ cs) :
    k.TakesAt text e₂ i := funext he ▸ h

theorem Memory.undo_self (place : Nat) (c : Captures) (inRepeat : Bool) :
    Memory.undo ⟨place, c⟩ inRepeat c = ⟨place, c⟩ := by
  simp [undo, Captures.cutTo]

/-- The text ahead of a position: nothing, or the character there and what follows it. -/
theorem ahead_cases (text : Array Char) (i : Nat) :
    (text[i]? = none ∧ text.size ≤ i ∧ text.toList.drop i = []) ∨
      ∃ c, text[i]? = some c ∧ i < text.size ∧
        text.toList.drop i = c :: text.toList.drop (i + 1) := by
  obtain hlt | hle := Nat.lt_or_ge i text.size
  · exact .inr ⟨text[i], Array.getElem?_eq_getElem hlt, hlt, List.drop_eq_getElem_cons hlt⟩
  · exact .inl ⟨Array.getElem?_eq_none hle, hle, List.drop_of_length_le hle⟩

/-! ## One character -/

/-- One character and what follows. -/
theorem takesAt_single {s : Single} {accepts : Char → Bool}
    (hs : ∀ c, s.accepts f c.toNat = accepts c) (hk : i < text.size → k.TakesAt text e (i + 1))
    (inRepeat : Bool) (next : Option Nat) :
    ((Node.single s).run text f inRepeat next k).TakesAt text (.one accepts e) i := by
  intro m
  unfold Node.run
  rw [Single.acceptsAt_eq]
  obtain ⟨hnone, -, hahead⟩ | ⟨c, hc, hlt, hahead⟩ := ahead_cases text i
  · rw [hnone, hahead]
    exact Verdict.takes_failed m i
  · rw [hc, hahead, Option.any_some, hs, Extent.one]
    cases accepts c with
    | false => exact Verdict.takes_failed m i
    | true =>
      rw [if_pos rfl, if_pos rfl]
      obtain ⟨n, he, hmatched⟩ | ⟨he, hfailed⟩ := hk hlt m
      · refine .inl ⟨n + 1, congrArg (Option.map _) he, hmatched.trans ?_⟩
        rw [Nat.add_right_comm, Nat.add_assoc]
      · exact .inr ⟨congrArg (Option.map _) he, hfailed⟩

/-- A character before another pattern. -/
theorem takesAt_then {s : Single} {accepts : Char → Bool} {n : Node} {inRepeat : Bool}
    {next : Option Nat} (hs : ∀ c, s.accepts f c.toNat = accepts c)
    (hn : i < text.size → (n.run text f inRepeat next k).TakesAt text e (i + 1)) :
    ((Node.both (.single s) n).run text f inRepeat next k).TakesAt text (.one accepts e) i := by
  rw [Node.run]
  exact takesAt_single hs hn inRepeat _

private theorem toNat_beq_toNat (c a : Char) : (c.toNat == a.toNat) = (c == a) := by
  rw [Bool.eq_iff_iff, beq_iff_eq, beq_iff_eq, Char.toNat_inj]

/-- A literal that is compared exactly. -/
theorem accepts_literal (hf : f.ignoreCase = false) (a c : Char) :
    (Single.literal a.toNat).accepts f c.toNat = (c == a) := by
  rw [Single.accepts, Flags.sameLiteral, hf, Bool.false_and, if_neg Bool.false_ne_true,
    toNat_beq_toNat]

theorem accepts_any (hf : f.dotAll = false) (c : Char) :
    Single.any.accepts f c.toNat = (c != '\n') := by
  rw [Single.accepts, hf, Bool.false_or]
  exact congrArg not (toNat_beq_toNat c '\n')

/-- A class of characters that are not accepted. -/
theorem accepts_notAmong (hf : f.ignoreCase = false) (cs : List Char) (c : Char) :
    (Single.oneOf true (cs.map fun a => .char a.toNat)).accepts f c.toNat = !cs.contains c := by
  have hmember : (cs.map fun a => ClassItem.char a.toNat).any (·.contains f c.toNat) =
      cs.contains c := by
    rw [List.any_map, List.contains_eq_any_beq]
    congr 1
    funext a
    exact toNat_beq_toNat c a
  rw [Single.accepts, Flags.memberOf, Flags.foldsClass, hf, Bool.false_and,
    if_neg Bool.false_ne_true, hmember, Bool.bne_true]

/-! ## A choice -/

/-- A look at the beginning of an alternative does not change what it takes. -/
theorem takesAt_alternative {n : Node} {inRepeat : Bool}
    (h : (n.run text f inRepeat none k).TakesAt text e i) :
    (tryAlternative text (n.lead? f) (n.run text f inRepeat none k)).TakesAt text e i := by
  intro m
  unfold tryAlternative
  split
  · rename_i hrefuses
    have hnone := Node.found?_of_refuses hrefuses inRepeat none k m
    obtain ⟨j, -, hmatched⟩ | ⟨he, -⟩ := h m
    · rw [hmatched] at hnone
      cases hnone
    · rw [he]
      exact Verdict.takes_failed m i
  · exact h (m.goTo i)

/-- The first alternative that takes something. -/
theorem takesAt_either {first second : Node} {inRepeat : Bool}
    (h₁ : (first.run text f inRepeat none k).TakesAt text e₁ i)
    (h₂ : (second.run text f inRepeat none k).TakesAt text e₂ i)
    (hsecond : second.isChoice = false) (next : Option Nat) :
    ((Node.either first second).run text f inRepeat next k).TakesAt text
      (fun cs => (e₁ cs).or (e₂ cs)) i := by
  intro m
  unfold Node.run
  obtain ⟨n, he₁, hmatched⟩ | ⟨he₁, place, hfailed⟩ := takesAt_alternative h₁ m
  · simp only [hmatched, he₁]
    exact .inl ⟨n, rfl, rfl⟩
  · simp only [hfailed, he₁, Memory.undo_self, hsecond, Bool.false_eq_true, if_false,
      Option.none_or]
    obtain ⟨n, he₂, hmatched⟩ | ⟨he₂, place', hfailed⟩ :=
      takesAt_alternative h₂ ⟨place, m.captures⟩
    · simp only [hmatched, he₂]
      exact .inl ⟨n, rfl, rfl⟩
    · simp only [hfailed, he₂, Memory.undo_self]
      exact .inr ⟨rfl, place', rfl⟩

/-! ## Repeats of one character -/

/-- A run takes the characters up to the first that is not accepted. -/
theorem runEnd_eq {s : Single} {accepts : Char → Bool}
    (hs : ∀ c, s.accepts f c.toNat = accepts c) {limit : Nat} (hlimit : text.size - i ≤ limit) :
    runEnd (s.acceptsAt text f) limit i =
      i + ((text.toList.drop i).takeWhile accepts).length := by
  induction limit generalizing i with
  | zero =>
    have hahead : text.toList.drop i = [] :=
      List.drop_of_length_le (Nat.le_of_sub_eq_zero (Nat.le_zero.mp hlimit))
    rw [hahead]
    exact rfl
  | succ limit ih =>
    rw [runEnd, Single.acceptsAt_eq]
    obtain ⟨hnone, -, hahead⟩ | ⟨c, hc, hlt, hahead⟩ := ahead_cases text i
    · rw [hnone, hahead]
      exact rfl
    · rw [hc, hahead, List.takeWhile_cons, Option.any_some, hs]
      cases accepts c with
      | false => exact rfl
      | true =>
        rw [if_pos rfl, if_pos rfl, ih (by omega), List.length_cons]
        omega

/-- With nothing behind it a repeat has nothing to give back for. -/
theorem giveBack_done (text : Array Char) (inRepeat : Bool) (before : Captures)
    (base count : Nat) (m : Memory) :
    giveBack text none inRepeat before Step.done base count m =
      .matched (m.goTo (base + count)) := by
  cases count <;> rfl

/-- A greedy repeat at the end of a pattern takes all that it can. -/
theorem takesAt_greedy {s : Single} {accepts : Char → Bool}
    (hs : ∀ c, s.accepts f c.toNat = accepts c) (inRepeat : Bool) (i : Nat) :
    ((Node.rounds .greedy 0 none (.single s)).run text f inRepeat none Step.done).TakesAt text
      (.run accepts) i := by
  intro m
  simp only [Node.run, Node.soleStep?, unitRounds, Option.elim_none, giveBack_done,
    runEnd_eq hs (Nat.le_refl _), Nat.not_lt_zero, if_false, Nat.add_zero,
    Nat.not_lt_of_le (Nat.le_add_right i _), Nat.add_sub_cancel_left]
  exact .inl ⟨_, rfl, rfl⟩

/-- Taking one more character again and again comes to the first place where `k` takes something. -/
theorem takes_takeMore {s : Single} (hs : ∀ c : Char, s.accepts f c.toNat = true)
    (hk : ∀ i, k.TakesAt text e i) (folded inRepeat : Bool) {limit i : Nat}
    (hlimit : text.size - i ≤ limit) (m : Memory) :
    (takeMore (s.acceptsAt text f) folded inRepeat m.captures k limit i m).Takes m.captures i
      (Extent.upTo e (text.toList.drop i)) := by
  unfold takeMore
  obtain ⟨n, he, hmatched⟩ | ⟨he, place, hfailed⟩ := hk i (m.goTo i)
  · rw [hmatched]
    exact .inl ⟨n, Extent.upTo_of_eq_some he, rfl⟩
  · rw [hfailed]
    simp only [Memory.goTo, Memory.undo_self, Single.acceptsAt_eq]
    obtain ⟨hnone, -, hahead⟩ | ⟨c, hc, hlt, hahead⟩ := ahead_cases text i
    · rw [hahead] at he ⊢
      rw [hnone]
      exact .inr ⟨he, i, rfl⟩
    · rw [hahead] at he ⊢
      rw [hc, Option.any_some, hs, Extent.upTo, he]
      cases limit with
      | zero => omega
      | succ limit =>
        have hroom : text.size - (i + 1) ≤ limit := by omega
        have hmore := takes_takeMore hs hk folded inRepeat hroom ⟨i, m.captures⟩
        obtain ⟨n, hupTo, hmatched⟩ | ⟨hupTo, hfailed⟩ := hmore
        · refine .inl ⟨n + 1, congrArg (Option.map _) hupTo, hmatched.trans ?_⟩
          rw [Nat.add_right_comm, Nat.add_assoc]
        · exact .inr ⟨congrArg (Option.map _) hupTo, hfailed⟩

/-- A lazy repeat of any character takes what is taken at the first place behind it. -/
theorem takesAt_lazy {s : Single} (hs : ∀ c : Char, s.accepts f c.toNat = true)
    (hk : ∀ i, k.TakesAt text e i) (inRepeat : Bool) (next : Option Nat) (i : Nat) :
    ((Node.rounds .lazy 0 none (.single s)).run text f inRepeat next k).TakesAt text
      (.upTo e) i := by
  intro m
  simp only [Node.run, Node.soleStep?, unitRounds, runEnd, Option.elim_none, Nat.not_lt_zero,
    if_false, Nat.add_zero, Nat.lt_irrefl]
  exact takes_takeMore hs hk _ _ (Nat.le_refl _) (m.goTo _)

/-! ## Other repeats -/

/-- A greedy repeat whose rounds move on takes `e`, if `e` is what a round takes with `e` behind it,
and else what `k` takes. -/
theorem takesAt_greedyRounds {body : Step → Step} {last : Option Nat} {left : Nat}
    (hbody : ∀ (round : Step) (i : Nat),
      (∀ j, i < j → j ≤ text.size → round.TakesAt text e j) → (body round).TakesAt text e₁ i)
    (hk : ∀ i, k.TakesAt text e₂ i) (he : ∀ cs, e cs = (e₁ cs).or (e₂ cs))
    (hleft : text.size - i < left) (hlast : ∀ j, last = some j → j < i) (count : Nat) :
    (greedyRounds body 0 none k left count last).TakesAt text e i := by
  induction left generalizing i last count with
  | zero => omega
  | succ left ih =>
    intro m
    have hrepeat : mayRepeat none count last i = true := by
      simp only [mayRepeat, Option.all_none, Bool.true_and, bne_iff_ne]
      exact fun h => Nat.lt_irrefl i (hlast i h)
    have hround : ∀ j, i < j → j ≤ text.size →
        (greedyRounds body 0 none k left (count + 1) (some i)).TakesAt text e j := by
      intro j hij hj
      refine ih (by omega) (fun j' h => ?_) (count + 1)
      cases h
      exact hij
    simp only [greedyRounds, Nat.not_lt_zero, if_false, hrepeat, if_true, he]
    obtain ⟨n, he₁, hmatched⟩ | ⟨he₁, place, hfailed⟩ := hbody _ i hround (m.goTo i)
    · rw [hmatched, he₁]
      exact .inl ⟨n, rfl, rfl⟩
    · rw [hfailed, he₁, Option.none_or]
      obtain ⟨n, he₂, hmatched⟩ | ⟨he₂, place', hfailed⟩ := hk i (m.goTo i)
      · exact .inl ⟨n, he₂, congrArg (Verdict.backTo · i) hmatched⟩
      · exact .inr ⟨he₂, i, congrArg (Verdict.backTo · i) hfailed⟩

/-- Greedy rounds take what one more round or the end takes. -/
theorem takesAt_rounds {n : Node} (hn : n.soleStep? f = none)
    (hbody : ∀ (round : Step) (i : Nat), (∀ j, i < j → j ≤ text.size → round.TakesAt text e j) →
      (n.run text f true none round).TakesAt text e₁ i)
    (hk : ∀ i, k.TakesAt text e₂ i) (he : ∀ cs, e cs = (e₁ cs).or (e₂ cs)) (inRepeat : Bool)
    (next : Option Nat) (i : Nat) :
    ((Node.rounds .greedy 0 none n).run text f inRepeat next k).TakesAt text e i := by
  have hlimit : text.size - i < roundLimit text 0 := by
    have := Nat.le_self_pow (n := 2) (by decide) (text.size + 2)
    simp only [roundLimit, Nat.pow_eq]
    omega
  unfold Node.run
  rw [hn]
  refine takesAt_greedyRounds hbody hk he hlimit (fun j h => ?_) 0
  cases h

/-! ## Whole patterns -/

/-- The match of a pattern whose extent is known. -/
theorem matchAt_of_takesAt {p : Pattern} {s : Nat}
    (h : (p.root.run text p.flags false none Step.done).TakesAt text e s) :
    p.matchAt text s = (e (text.toList.drop s)).map fun n => ⟨s, s + n, {}⟩ := by
  rw [matchAt_eq]
  obtain ⟨n, he, hmatched⟩ | ⟨he, place, hfailed⟩ := h { reached := s }
  · rw [hmatched, he]
    exact rfl
  · rw [hfailed, he]
    exact rfl

end Marginalia.Pattern
