import Marginalia.Proofs.Pattern.Renumbering

/-!
# Two runs of a pattern side by side

A fragment that is read on its own and the same fragment read behind other groups give trees that
differ in the numbers of their groups only.  This module says once what such trees have in common:
if the memories of two searches correspond, the searches take the same way, end at the same place,
and leave memories that correspond (`Node.run_alike`).

What it means that memories correspond is left open.  `Correspondence` lists what a relation between
the marks of two runs has to survive: opening and closing a group, reading what a group captured,
and dropping the marks beyond those of an earlier moment.  With equality as the relation the theorem
says that a search does not depend on the place reached before it; with a relation that pins down
some marks it says which marks a search leaves alone.

## Strict and lax

The place reached matters only inside a possessive repeat, and every such repeat starts by setting
it.  So the theorem has two forms in one: `strict` memories agree in the place reached, others need
not.  A strict search stays strict, and a lax one becomes strict where it matters.
-/

namespace Marginalia.Pattern

/-! ## Places in the text -/

/-- A step accepts a character of the text, if there is one. -/
theorem Single.acceptsAt_eq (text : Array Char) (f : Flags) (s : Single) (i : Nat) :
    s.acceptsAt text f i = text[i]?.any fun c => s.accepts f c.toNat := by
  unfold Single.acceptsAt
  cases text[i]? <;> rfl

/-- An accepted character is one of the text. -/
theorem Single.lt_size_of_acceptsAt {text : Array Char} {f : Flags} {s : Single} {i : Nat}
    (h : s.acceptsAt text f i = true) : i < text.size := by
  unfold Single.acceptsAt at h
  split at h
  · rename_i c hc
    exact (Array.getElem?_eq_some_iff.mp hc).1
  · cases h

/-- A run ends at or behind its start. -/
theorem le_runEnd (accepts : Nat → Bool) (limit i : Nat) : i ≤ runEnd accepts limit i := by
  induction limit generalizing i with
  | zero => exact Nat.le_refl i
  | succ limit ih =>
    unfold runEnd
    split
    · have := ih (i + 1)
      omega
    · exact Nat.le_refl i

/-- A run ends within the text. -/
theorem runEnd_le {size : Nat} {accepts : Nat → Bool} (ha : ∀ i, accepts i = true → i < size)
    (limit : Nat) {i : Nat} (hi : i ≤ size) : runEnd accepts limit i ≤ size := by
  induction limit generalizing i with
  | zero => exact hi
  | succ limit ih =>
    unfold runEnd
    split
    · rename_i h
      exact ih (ha i h)
    · exact hi

/-- What is repeated ends within the text. -/
theorem repeatsText_le {text : Array Char} {f : Flags} {n j i : Nat} (hi : i ≤ text.size)
    (h : repeatsText text f n j i = true) : i + n ≤ text.size := by
  induction n generalizing j i with
  | zero => exact hi
  | succ n ih =>
    unfold repeatsText at h
    split at h
    · rename_i a b _ hb
      have hlt := (Array.getElem?_eq_some_iff.mp hb).1
      simp only [Bool.and_eq_true] at h
      have := ih (by omega) h.2
      omega
    · cases h

/-! ## Memories, verdicts and steps that correspond -/

/-- What a relation between the marks of two runs survives: the second run numbers a group `g` of the
first as `σ g`, and the pattern opens groups with the first property and refers to those with the
second. -/
structure Correspondence (text : Array Char) (σ : Nat → Nat) (groups references : Nat → Prop)
    (same : Captures → Captures → Prop) : Prop where
  opened {c c' : Captures} {g i : Nat} : groups g → i ≤ text.size → same c c' →
    same (c.openAt g i) (c'.openAt (σ g) i)
  closed {c c' : Captures} {g i : Nat} : groups g → i ≤ text.size → same c c' →
    same (c.closeAt g i) (c'.closeAt (σ g) i)
  span {c c' : Captures} {g : Nat} : references g → same c c' → c'.span? (σ g) = c.span? g
  cut {c c' e e' : Captures} : same c c' → same e e' → same (c.cutTo e) (c'.cutTo e')

section Alike

variable (text : Array Char) (same : Captures → Captures → Prop)

/-- Memories whose marks correspond and that, if `strict`, have reached the same place of the text.
-/
structure Memory.Alike (strict : Bool) (m m' : Memory) : Prop where
  captures : same m.captures m'.captures
  reached : strict = true → m'.reached = m.reached ∧ m.reached ≤ text.size

/-- Both runs match, with memories related by `Q`, or both fail, with memories that are alike. -/
inductive Verdict.Alike (strict : Bool) (Q : Memory → Memory → Prop) : Verdict → Verdict → Prop
  | matched {m m' : Memory} (h : Q m m') : Alike strict Q (.matched m) (.matched m')
  | failed {m m' : Memory} (h : m.Alike text same strict m') :
    Alike strict Q (.failed m) (.failed m')

/-- From every place of the text and memories that are alike the steps come to like verdicts. -/
def Step.Alike (strict : Bool) (Q : Memory → Memory → Prop) (k k' : Step) : Prop :=
  ∀ (i : Nat) (m m' : Memory), i ≤ text.size → m.Alike text same strict m' →
    (k i m).Alike text same strict Q (k' i m')

end Alike

section

variable {text : Array Char} {σ : Nat → Nat} {groups references : Nat → Prop}
  {same : Captures → Captures → Prop} {strict : Bool} {Q : Memory → Memory → Prop}
  {m m' : Memory} {k k' : Step}

namespace Memory.Alike

/-- Memories that have just come to the same place are alike in the strict sense. -/
theorem goTo (h : m.Alike text same strict m') {i : Nat} (hi : i ≤ text.size) (strict' : Bool) :
    (m.goTo i).Alike text same strict' (m'.goTo i) :=
  ⟨h.captures, fun _ => ⟨rfl, hi⟩⟩

/-- Memories that have reached the same place need not have. -/
theorem lax (h : m.Alike text same true m') (strict' : Bool) : m.Alike text same strict' m' :=
  ⟨h.captures, fun _ => h.reached rfl⟩

/-- Memories stay alike with marks that correspond. -/
theorem setCaptures (h : m.Alike text same strict m') {c c' : Captures} (hc : same c c') :
    Memory.Alike text same strict { m with captures := c } { m' with captures := c' } :=
  ⟨hc, h.reached⟩

/-- Memories stay alike when marks are put back. -/
theorem undo (hc : Correspondence text σ groups references same)
    (h : m.Alike text same strict m') {b b' : Captures} (hb : same b b') (inRepeat : Bool) :
    (m.undo inRepeat b).Alike text same strict (m'.undo inRepeat b') := by
  cases inRepeat with
  | false => exact h.setCaptures (hc.cut h.captures hb)
  | true => exact h.setCaptures hb

end Memory.Alike

/-- Both runs match, or both fail. -/
theorem Verdict.Alike.cases {v v' : Verdict} (h : v.Alike text same strict Q v') :
    (∃ r r', v = .matched r ∧ v' = .matched r' ∧ Q r r') ∨
      ∃ r r', v = .failed r ∧ v' = .failed r' ∧ r.Alike text same strict r' := by
  cases h with
  | matched h => exact .inl ⟨_, _, rfl, rfl, h⟩
  | failed h => exact .inr ⟨_, _, rfl, rfl, h⟩

/-- Both runs go back to a place. -/
theorem Verdict.Alike.backTo {v v' : Verdict} (h : v.Alike text same strict Q v') {i : Nat}
    (hi : i ≤ text.size) : (v.backTo i).Alike text same strict Q (v'.backTo i) := by
  cases h with
  | matched h => exact .matched h
  | failed h => exact .failed (h.goTo hi strict)

/-- The step that ends a match leaves memories that are alike in the strict sense. -/
theorem Step.Alike.done : Step.Alike text same strict (Memory.Alike text same true)
    Step.done Step.done :=
  fun _ _ _ hi h => .matched (h.goTo hi true)

/-! ## Repeats of one character -/

/-- Both runs attempt to go on where characters were given back. -/
private theorem giveBack_attemptAt_alike (hc : Correspondence text σ groups references same)
    (hk : Step.Alike text same strict Q k k') (next : Option Nat) (inRepeat : Bool)
    {b b' : Captures} (hb : same b b') {i : Nat} (hi : i ≤ text.size)
    (hm : m.Alike text same strict m') :
    (giveBack.attemptAt text next inRepeat b k i m).Alike text same strict Q
      (giveBack.attemptAt text next inRepeat b' k' i m') := by
  unfold giveBack.attemptAt
  split
  · obtain ⟨r, r', e, e', h⟩ | ⟨r, r', e, e', h⟩ := (hk i _ _ hi (hm.goTo hi strict)).cases
    · rw [e, e']
      exact .matched h
    · rw [e, e']
      exact .failed (h.undo hc hb inRepeat)
  · exact .failed hm

/-- Both runs give back characters. -/
theorem giveBack_alike (hc : Correspondence text σ groups references same)
    (hk : Step.Alike text same strict Q k k') (next : Option Nat) (inRepeat : Bool)
    {b b' : Captures} (hb : same b b') {base count : Nat} (hi : base + count ≤ text.size)
    (hm : m.Alike text same strict m') :
    (giveBack text next inRepeat b k base count m).Alike text same strict Q
      (giveBack text next inRepeat b' k' base count m') := by
  induction count generalizing m m' with
  | zero => exact giveBack_attemptAt_alike hc hk next inRepeat hb hi hm
  | succ count ih =>
    unfold giveBack
    obtain ⟨r, r', e, e', h⟩ | ⟨r, r', e, e', h⟩ :=
      (giveBack_attemptAt_alike hc hk next inRepeat hb hi hm).cases
    · rw [e, e']
      exact .matched h
    · rw [e, e']
      exact ih (by omega) h

/-- Both runs take more characters. -/
theorem takeMore_alike (hc : Correspondence text σ groups references same)
    (hk : Step.Alike text same strict Q k k') {accepts : Nat → Bool}
    (ha : ∀ i, accepts i = true → i < text.size) (folded inRepeat : Bool) {b b' : Captures}
    (hb : same b b') {limit i : Nat} (hi : i ≤ text.size) (hm : m.Alike text same strict m') :
    (takeMore accepts folded inRepeat b k limit i m).Alike text same strict Q
      (takeMore accepts folded inRepeat b' k' limit i m') := by
  induction limit generalizing i m m' with
  | zero =>
    unfold takeMore
    obtain ⟨r, r', e, e', h⟩ | ⟨r, r', e, e', h⟩ := (hk i _ _ hi (hm.goTo hi strict)).cases
    · rw [e, e']
      exact .matched h
    · have hu := (h.undo hc hb inRepeat).goTo hi strict
      cases hacc : accepts i <;> simp only [e, e', Bool.not_false, Bool.not_true, if_true]
      · exact .failed hu
      · have := ha i hacc
        exact .failed (hu.goTo (by split <;> omega) strict)
  | succ limit ih =>
    unfold takeMore
    obtain ⟨r, r', e, e', h⟩ | ⟨r, r', e, e', h⟩ := (hk i _ _ hi (hm.goTo hi strict)).cases
    · rw [e, e']
      exact .matched h
    · have hu := (h.undo hc hb inRepeat).goTo hi strict
      cases hacc : accepts i <;> simp only [e, e', Bool.not_false, Bool.not_true, if_true]
      · exact .failed hu
      · exact ih (ha i hacc) hu

/-- Both runs repeat one character. -/
theorem unitRounds_alike (hc : Correspondence text σ groups references same)
    (hk : Step.Alike text same strict Q k k') {accepts : Nat → Bool}
    (ha : ∀ i, accepts i = true → i < text.size) (folded inRepeat : Bool) (greed : Greed)
    (least : Nat) (most next : Option Nat) :
    Step.Alike text same strict Q
      (unitRounds text accepts folded inRepeat greed least most next k)
      (unitRounds text accepts folded inRepeat greed least most next k') := by
  intro i m m' hi hm
  -- The run does not look at marks, so both get equally far.
  have reach : ∀ limit, i ≤ runEnd accepts limit i ∧ runEnd accepts limit i ≤ text.size ∧
      (m.goTo (if folded then runEnd accepts limit i else i)).Alike text same strict
        (m'.goTo (if folded then runEnd accepts limit i else i)) := by
    intro limit
    have hstop := runEnd_le ha limit hi
    exact ⟨le_runEnd accepts limit i, hstop, hm.goTo (by split <;> assumption) strict⟩
  unfold unitRounds
  dsimp only
  split
  · exact .failed hm
  · cases greed <;> dsimp only
    case greedy =>
      obtain ⟨_, hstop, hg⟩ := reach (most.elim (text.size - i) (min (text.size - i)))
      split
      · exact .failed hg
      · exact giveBack_alike hc hk next inRepeat hg.captures (by omega) hg
    case lazy =>
      obtain ⟨_, hstop, hg⟩ := reach least
      split
      · exact .failed hg
      · exact takeMore_alike hc hk ha folded inRepeat hg.captures hstop hg
    case possessive =>
      obtain ⟨_, hstop, hg⟩ := reach (most.elim (text.size - i) (min (text.size - i)))
      split
      · exact .failed hg
      · exact hk _ _ _ hstop hg

/-! ## Other repeats -/

/-- Both runs go through greedy rounds. -/
theorem greedyRounds_alike {body body' : Step → Step}
    (hbody : ∀ {k k' : Step}, Step.Alike text same strict Q k k' →
      Step.Alike text same strict Q (body k) (body' k'))
    (hk : Step.Alike text same strict Q k k') (least : Nat) (most : Option Nat)
    (left count : Nat) (last : Option Nat) :
    Step.Alike text same strict Q (greedyRounds body least most k left count last)
      (greedyRounds body' least most k' left count last) := by
  induction left generalizing count last with
  | zero => exact fun _ _ _ _ hm => .failed hm
  | succ left ih =>
    intro i m m' hi hm
    have hg := hm.goTo hi strict
    unfold greedyRounds
    dsimp only
    split
    · exact (hbody (ih (count + 1) last) i _ _ hi hg).backTo hi
    · split
      · obtain ⟨r, r', e, e', h⟩ | ⟨r, r', e, e', -⟩ :=
          (hbody (ih (count + 1) (some i)) i _ _ hi hg).cases
        · rw [e, e']
          exact .matched h
        · rw [e, e']
          exact (hk i _ _ hi hg).backTo hi
      · exact (hk i _ _ hi hg).backTo hi

/-- Both runs go through lazy rounds. -/
theorem lazyRounds_alike (hc : Correspondence text σ groups references same)
    {body body' : Step → Step}
    (hbody : ∀ {k k' : Step}, Step.Alike text same strict Q k k' →
      Step.Alike text same strict Q (body k) (body' k'))
    (hk : Step.Alike text same strict Q k k') (inRepeat : Bool) (least : Nat) (most : Option Nat)
    (left count : Nat) (last : Option Nat) :
    Step.Alike text same strict Q (lazyRounds body inRepeat least most k left count last)
      (lazyRounds body' inRepeat least most k' left count last) := by
  induction left generalizing count last with
  | zero => exact fun _ _ _ _ hm => .failed hm
  | succ left ih =>
    intro i m m' hi hm
    have hg := hm.goTo hi strict
    unfold lazyRounds
    dsimp only
    split
    · exact (hbody (ih (count + 1) last) i _ _ hi hg).backTo hi
    · obtain ⟨r, r', e, e', h⟩ | ⟨r, r', e, e', h⟩ := (hk i _ _ hi hg).cases
      · rw [e, e']
        exact .matched h
      · rw [e, e']
        have hu := (h.undo hc hg.captures inRepeat).goTo hi strict
        dsimp only
        split
        · exact (hbody (ih (count + 1) (some i)) i _ _ hi hu).backTo hi
        · exact .failed hu

section Possessive

variable {round round' : Step}
  (hround : Step.Alike text same true (Memory.Alike text same true) round round')
include hround

/-- Both runs go through the rounds that are needed. -/
theorem firstRounds_alike {i : Nat} (hi : i ≤ text.size) (count : Nat)
    (hm : m.Alike text same true m') :
    (firstRounds round i count m).Alike text same true (Memory.Alike text same true)
      (firstRounds round' i count m') := by
  induction count generalizing m m' with
  | zero => exact .matched hm
  | succ count ih =>
    unfold firstRounds
    obtain ⟨hreached, hle⟩ := hm.reached rfl
    rw [hreached]
    obtain ⟨r, r', e, e', h⟩ | ⟨r, r', e, e', h⟩ := (hround _ _ _ hle hm).cases
    · rw [e, e']
      exact ih h
    · rw [e, e']
      exact .failed (h.goTo hi true)

/-- Both runs go through the rounds that may follow. -/
theorem furtherRounds_alike (most : Option Nat) (left count : Nat) (last : Option Nat)
    (hm : m.Alike text same true m') :
    (furtherRounds round most left count last m).Alike text same true
      (furtherRounds round' most left count last m') := by
  induction left generalizing count last m m' with
  | zero => exact hm
  | succ left ih =>
    unfold furtherRounds
    obtain ⟨hreached, hle⟩ := hm.reached rfl
    rw [hreached]
    split
    · obtain ⟨r, r', e, e', h⟩ | ⟨r, r', e, e', h⟩ := (hround _ _ _ hle hm).cases
      · rw [e, e']
        exact ih _ _ h
      · rw [e, e']
        exact h.setCaptures hm.captures
    · exact hm

/-- Both runs keep what a possessive repeat took. -/
theorem possessiveRounds_alike (hk : Step.Alike text same strict Q k k') (least : Nat)
    (most : Option Nat) (left : Nat) :
    Step.Alike text same strict Q (possessiveRounds round least most k left)
      (possessiveRounds round' least most k' left) := by
  intro i m m' hi hm
  unfold possessiveRounds
  obtain ⟨r, r', e, e', h⟩ | ⟨r, r', e, e', h⟩ :=
    (firstRounds_alike hround hi least (hm.goTo hi true)).cases
  · rw [e, e']
    have hf := furtherRounds_alike hround most left least none h
    obtain ⟨hreached, hle⟩ := hf.reached rfl
    dsimp only
    rw [hreached]
    exact hk _ _ _ hle (hf.lax strict)
  · rw [e, e']
    exact .failed (h.lax strict)

end Possessive

/-! ## Looking around and choosing -/

/-- Both runs look around. -/
theorem lookFrom_alike (hc : Correspondence text σ groups references same) {body body' : Step}
    (hbody : Step.Alike text same true (Memory.Alike text same true) body body')
    (hk : Step.Alike text same strict Q k k') (negated inRepeat : Bool) {start i : Nat}
    (hstart : start ≤ text.size) (hi : i ≤ text.size) (hm : m.Alike text same strict m') :
    (lookFrom negated inRepeat body k start i m).Alike text same strict Q
      (lookFrom negated inRepeat body' k' start i m') := by
  unfold lookFrom
  obtain ⟨r, r', e, e', h⟩ | ⟨r, r', e, e', h⟩ := (hbody _ _ _ hstart (hm.goTo hstart true)).cases
  · rw [e, e']
    cases negated with
    | false => exact hk i _ _ hi (h.lax strict)
    | true => exact .failed (h.lax strict)
  · rw [e, e']
    cases negated with
    | false => exact .failed (h.lax strict)
    | true => exact hk i _ _ hi ((h.undo hc hm.captures inRepeat).lax strict)

/-- Both runs try an alternative, or neither does. -/
theorem tryAlternative_alike (hk : Step.Alike text same strict Q k k') (lead : Option Lead) :
    Step.Alike text same strict Q (tryAlternative text lead k) (tryAlternative text lead k') := by
  intro i m m' hi hm
  unfold tryAlternative
  split
  · exact .failed hm
  · exact hk i _ _ hi (hm.goTo hi strict)

/-! ## Whole patterns -/

/-- Two runs of a pattern, the second with its groups numbered anew, take the same way: from alike
memories, and with alike steps to go on with, they come to alike verdicts. -/
theorem Node.run_alike (hc : Correspondence text σ groups references same) {n : Node}
    (hn : n.Indexed groups references) (f : Flags) (inRepeat : Bool) (next : Option Nat)
    (hk : Step.Alike text same strict Q k k') :
    Step.Alike text same strict Q (n.run text f inRepeat next k)
      ((n.renumber σ).run text f inRepeat next k') := by
  induction n generalizing f inRepeat next k k' strict Q with
  | empty => exact hk
  | single s =>
    intro i m m' hi hm
    unfold Node.renumber Node.run
    split
    · exact hk _ _ _ (Single.lt_size_of_acceptsAt ‹_›) hm
    · exact .failed hm
  | anchor a =>
    intro i m m' hi hm
    unfold Node.renumber Node.run
    split
    · exact hk _ _ _ hi hm
    · exact .failed hm
  | group g body ih =>
    intro i m m' hi hm
    refine ih hn.2 f inRepeat none ?_ i _ _ hi (hm.setCaptures (hc.opened hn.1 hi hm.captures))
    exact fun j r r' hj hr => hk j _ _ hj (hr.setCaptures (hc.closed hn.1 hj hr.captures))
  | «scoped» on off body ih => exact ih hn _ inRepeat next hk
  | atomic body ih =>
    intro i m m' hi hm
    -- The body runs on its own, so the runs have to reach the same place.
    unfold Node.renumber Node.run
    obtain ⟨r, r', e, e', h⟩ | ⟨r, r', e, e', h⟩ :=
      (ih hn f inRepeat none .done i _ _ hi (hm.goTo hi true)).cases
    · obtain ⟨hreached, hle⟩ := h.reached rfl
      simp only [e, e', hreached]
      exact hk _ _ _ hle (h.lax strict)
    · simp only [e, e']
      exact .failed (h.goTo hi strict)
  | rounds greed least most body ih =>
    unfold Node.renumber Node.run
    rw [soleStep?_renumber]
    cases body.soleStep? f with
    | some sole =>
      exact unitRounds_alike hc hk (fun _ => Single.lt_size_of_acceptsAt) _ inRepeat greed least
        most next
    | none =>
      cases greed with
      | greedy => exact greedyRounds_alike (ih hn f true none) hk least most _ 0 none
      | lazy => exact lazyRounds_alike hc (ih hn f true none) hk inRepeat least most _ 0 none
      | possessive => exact possessiveRounds_alike (ih hn f inRepeat none .done) hk least most _
  | ahead negated body ih =>
    intro i m m' hi hm
    exact lookFrom_alike hc (ih hn f inRepeat none .done) hk negated inRepeat hi hi hm
  | behind negated width body ih =>
    intro i m m' hi hm
    unfold Node.renumber Node.run
    split
    · split
      · exact hk i _ _ hi hm
      · exact .failed hm
    · exact lookFrom_alike hc (ih hn f inRepeat none .done) hk negated inRepeat (by omega) hi hm
  | backref g =>
    intro i m m' hi hm
    unfold Node.renumber Node.run
    rw [hc.span hn hm.captures]
    split
    · split
      · exact hk _ _ _ (repeatsText_le hi ‹_›) hm
      · exact .failed hm
    · exact .failed hm
  | conditional g yes no ih₁ ih₂ =>
    intro i m m' hi hm
    unfold Node.renumber Node.run
    rw [hc.span hn.1 hm.captures]
    simp only [renumber_eq_empty]
    split
    · exact ih₁ hn.2.1 f inRepeat _ hk i _ _ hi hm
    · exact ih₂ hn.2.2 f inRepeat next hk i _ _ hi hm
  | either first second ih₁ ih₂ =>
    intro i m m' hi hm
    unfold Node.renumber Node.run
    simp only [lead?_renumber, isChoice_renumber]
    obtain ⟨r, r', e, e', h⟩ | ⟨r, r', e, e', h⟩ :=
      (tryAlternative_alike (ih₁ hn.1 f inRepeat none hk) (first.lead? f) i _ _ hi hm).cases
    · simp only [e, e']
      exact .matched h
    · simp only [e, e']
      -- Both runs put the marks back before the second alternative.
      have hu := h.undo hc hm.captures inRepeat
      split
      · exact ih₂ hn.2 f inRepeat next hk i _ _ hi hu
      · obtain ⟨s, s', d, d', hs⟩ | ⟨s, s', d, d', hs⟩ :=
          (tryAlternative_alike (ih₂ hn.2 f inRepeat none hk) (second.lead? f) i _ _ hi hu).cases
        · rw [d, d']
          exact .matched hs
        · rw [d, d']
          exact .failed (hs.undo hc hm.captures inRepeat)
  | both first second ih₁ ih₂ =>
    unfold Node.renumber Node.run
    rw [leadLiteral?_renumber]
    exact ih₁ hn.1 f inRepeat _ (ih₂ hn.2 f inRepeat next hk)

end

end Marginalia.Pattern
