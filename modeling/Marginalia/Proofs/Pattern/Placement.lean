import Marginalia.Proofs.Pattern.Search

/-!
# A match inside a larger pattern

What the match of a part of a pattern looks like from outside:

* behind other groups, the match of a part is its own match with the marks moved up
  (`found?_renumber`);
* a group has its marks where the body began and where it ended, and none of the groups before it has
  any (`found?_group`);
* a part whose groups all come behind the first ones leaves those without marks (`found?_clear`).

The last two hold whatever the part refers to.
-/

namespace Marginalia.Pattern

namespace Captures

/-! ## Marks of a part behind other marks -/

/-- The marks moved up to the groups from `before` on, behind the marks `base`. -/
def behind (base : List (Option Nat)) (before : Nat) (c : Captures) : Captures :=
  ⟨if c.marks = [] then base
    else base ++ List.replicate (2 * before - base.length) none ++ c.marks⟩

/-- Shifted marks are those behind the base. -/
theorem Shifted.eq {base : List (Option Nat)} {before : Nat} {c c' : Captures}
    (h : Shifted base before c c') : c' = c.behind base before :=
  congrArg Captures.mk h

/-- The marks when the group `g` has just been opened, as the first one, at `s`. -/
def opened (g s : Nat) : List (Option Nat) := List.replicate (2 * g - 2) none ++ [some s]

/-- Opening a group first sets one mark. -/
theorem openAt_nil (g s : Nat) : (({} : Captures).openAt g s).marks = opened g s := by
  simp [openAt, set, opened]

theorem length_opened {g : Nat} (hg : 1 ≤ g) (s : Nat) : (opened g s).length = 2 * g - 1 := by
  simp [opened]
  omega

/-- The marks when a group has been closed around a part with its own marks. -/
theorem closeAt_behind {g before : Nat} (hg : 1 ≤ g) (hbefore : g ≤ before) (s stop : Nat)
    (c : Captures) :
    ((c.behind (opened g s) before).closeAt g stop).marks =
      List.replicate (2 * g - 2) none ++ some s :: some stop ::
        if c.marks = [] then [] else List.replicate (2 * (before - g)) none ++ c.marks := by
  have hlength := length_opened hg s
  unfold closeAt set behind
  dsimp only
  by_cases hc : c.marks = []
  · rw [if_pos hc, if_pos hc, hlength, if_neg (Nat.lt_irrefl _), Nat.sub_self]
    simp [opened]
  · have hpad : 2 * before - (2 * g - 1) = 2 * (before - g) + 1 := by omega
    rw [if_neg hc, if_neg hc, hlength, hpad, List.append_assoc,
      if_pos (by simp only [List.length_append, List.length_replicate, hlength]; omega),
      List.set_append_right _ _ (by omega), hlength,
      Nat.sub_self, List.replicate_succ, List.cons_append, List.set_cons_zero]
    simp [opened]

/-- The group starts where it was opened. -/
theorem mark?_closeAt_behind {g before : Nat} (hg : 1 ≤ g) (hbefore : g ≤ before) (s stop : Nat)
    (c : Captures) :
    ((c.behind (opened g s) before).closeAt g stop).mark? (2 * g - 2) = some s := by
  rw [mark?, closeAt_behind hg hbefore, List.getElem?_append_right (by simp)]
  simp

/-- The groups before a part that stands behind them have no marks. -/
theorem mark?_behind_nil {before i : Nat} (hi : i < 2 * before) (c : Captures) :
    (c.behind [] before).mark? i = none := by
  unfold mark? behind
  dsimp only
  split
  · rfl
  · rw [List.nil_append, List.length_nil, Nat.sub_zero,
      List.getElem?_append_left (by simpa using hi), List.getElem?_replicate_of_lt hi]
    rfl

/-- Groups cross in either part. -/
private theorem crossed_append {xs : List (Option Nat)} {n : Nat} (h : xs.length = 2 * n)
    (ys : List (Option Nat)) : crossed (xs ++ ys) = (crossed xs || crossed ys) := by
  induction n generalizing xs with
  | zero =>
    rw [List.length_eq_zero_iff.mp h]
    rfl
  | succ n ih =>
    obtain ⟨a, b, marks, rfl⟩ : ∃ a b marks, xs = a :: b :: marks := by
      match xs, h with
      | a :: b :: marks, _ => exact ⟨a, b, marks, rfl⟩
    have hlength : marks.length = 2 * n := by
      rw [List.length_cons, List.length_cons] at h
      omega
    have hmarks := ih hlength
    cases a <;> cases b <;> simp [crossed, hmarks, Bool.or_assoc]

private theorem crossed_replicate (n : Nat) :
    crossed (List.replicate (2 * n) (none : Option Nat)) = false := by
  induction n with
  | zero => rfl
  | succ n ih =>
    rw [Nat.mul_succ, List.replicate_succ, List.replicate_succ]
    exact ih

/-- No group is crossed if and only if each that has both its marks has them in order. -/
theorem isCrossed_eq_false_iff {c : Captures} : c.isCrossed = false ↔
    ∀ g i j, c.mark? (2 * g) = some i → c.mark? (2 * g + 1) = some j → i ≤ j := by
  obtain ⟨marks⟩ := c
  unfold isCrossed
  dsimp only
  -- Behind a pair of marks the groups are those of the rest, numbered one higher.
  have hcons : ∀ (a b : Option Nat) (marks : List (Option Nat)),
      (∀ g i j, (Captures.mk (a :: b :: marks)).mark? (2 * g) = some i →
        (Captures.mk (a :: b :: marks)).mark? (2 * g + 1) = some j → i ≤ j) ↔
      (∀ i j, a = some i → b = some j → i ≤ j) ∧
        ∀ g i j, (Captures.mk marks).mark? (2 * g) = some i →
          (Captures.mk marks).mark? (2 * g + 1) = some j → i ≤ j := by
    intro a b marks
    constructor
    · exact fun h => ⟨h 0, fun g => h (g + 1)⟩
    · rintro ⟨h₀, hrest⟩ g
      cases g with
      | zero => exact h₀
      | succ g => exact hrest g
  fun_induction crossed marks with
  | case1 i j marks ih =>
    rw [hcons, Bool.or_eq_false_iff]
    exact and_congr (by simp) ih
  | case2 a b marks hnone ih =>
    rw [hcons]
    exact ⟨fun h => ⟨fun i j ha hb => (hnone i j ha hb).elim, ih.mp h⟩, fun h => ih.mpr h.2⟩
  | case3 marks _ hshort =>
    refine ⟨fun _ g i j _ hj => ?_, fun _ => rfl⟩
    match marks, hshort with
    | [], _ | [_], _ => cases hj
    | a :: b :: rest, hshort => exact (hshort a b rest rfl).elim

/-- Groups cross if the outer one does or an inner one. -/
theorem isCrossed_closeAt_behind {g before : Nat} (hg : 1 ≤ g) (hbefore : g ≤ before) (s stop : Nat)
    (c : Captures) :
    ((c.behind (opened g s) before).closeAt g stop).isCrossed =
      (decide (stop < s) || c.isCrossed) := by
  unfold isCrossed
  rw [closeAt_behind hg hbefore, show 2 * g - 2 = 2 * (g - 1) by omega,
    crossed_append List.length_replicate, crossed_replicate, Bool.false_or, crossed]
  split <;> rename_i hc
  · rw [hc]
  · rw [crossed_append List.length_replicate, crossed_replicate, Bool.false_or]

theorem isCrossed_behind_nil (before : Nat) (c : Captures) :
    (c.behind [] before).isCrossed = c.isCrossed := by
  unfold isCrossed behind
  dsimp only
  split <;> rename_i hc
  · rw [hc]
  · rw [List.nil_append, List.length_nil, Nat.sub_zero, crossed_append List.length_replicate,
      crossed_replicate, Bool.false_or]

/-- Marks of the base are kept. -/
theorem mark?_of_isPrefix {base : List (Option Nat)} {c : Captures} (h : base <+: c.marks)
    {i : Nat} (hi : i < base.length) : c.mark? i = (base[i]?).join := by
  obtain ⟨more, hmore⟩ := h
  rw [mark?, ← hmore, List.getElem?_append_left hi]

/-- A group with both marks has a span. -/
theorem span?_of_marks {c : Captures} {g i j : Nat} (hi : c.mark? (2 * g - 2) = some i)
    (hj : c.mark? (2 * g - 1) = some j) (hle : i ≤ j) : c.span? g = some (i, j) := by
  simp [span?, hi, hj, hle]

/-- A group that was not opened has none. -/
theorem span?_of_not_opened {c : Captures} {g : Nat} (h : c.mark? (2 * g - 2) = none) :
    c.span? g = none := by
  simp [span?, h]

/-! ## Marks that no group sets -/

/-- Both runs have the same marks, and the first `limit` of them are not set. -/
private def Clear (limit : Nat) (c c' : Captures) : Prop :=
  c' = c ∧ ∀ i < limit, c.mark? i = none

/-- Groups beyond the limit leave the marks before it clear. -/
private theorem clear_correspondence (text : Array Char) (limit : Nat) :
    Correspondence text id (fun g => limit ≤ 2 * g - 2) (fun _ => True) (Clear limit) where
  opened hg _ h := by
    refine ⟨congrArg (openAt · _ _) h.1, fun i hi => ?_⟩
    rw [openAt, mark?_set_of_ne _ _ (by omega)]
    exact h.2 i hi
  closed hg _ h := by
    refine ⟨congrArg (closeAt · _ _) h.1, fun i hi => ?_⟩
    rw [closeAt, mark?_set_of_ne _ _ (by omega)]
    exact h.2 i hi
  span _ h := congrArg (span? · _) h.1
  cut {c c' e e'} h he := by
    obtain ⟨rfl, hc⟩ := h
    obtain ⟨rfl, -⟩ := he
    refine ⟨rfl, fun i hi => ?_⟩
    have hnone := hc i hi
    unfold mark? cutTo at *
    rw [List.getElem?_take]
    split
    · exact hnone
    · rfl

end Captures

/-! ## Runs of a part -/

section

variable {text : Array Char} {n : Node} {f : Flags} {s : Nat} {m : Memory}

/-- What a run keeps of the marks, told from the run beside itself. -/
private theorem Node.found?_kept {groups references : Nat → Prop}
    {same : Captures → Captures → Prop} {strict : Bool} {Q : Memory → Memory → Prop} {k : Step}
    {m₀ : Memory} (hc : Correspondence text id groups references same)
    (hn : n.Indexed groups references) (hk : Step.Alike text same strict Q k k)
    (hs : s ≤ text.size) (hm₀ : m₀.Alike text same strict m₀)
    (h : (n.run text f false none k s m₀).found? = some m) : Q m m := by
  have hrun := run_alike hc hn f false none hk s m₀ m₀ hs hm₀
  rw [renumber_id] at hrun
  obtain ⟨r, r', e, e', hQ⟩ | ⟨r, r', e, -, -⟩ := hrun.cases
  · rw [e] at h e'
    cases h
    cases e'
    exact hQ
  · rw [e] at h
    cases h

/-- A match ends in the text. -/
theorem stop_le_of_matchAt {p : Pattern} (hs : s ≤ text.size) {r : Match}
    (h : p.matchAt text s = some r) : r.stop ≤ text.size := by
  rw [matchAt_eq] at h
  obtain ⟨m, hm, rfl⟩ := Option.map_eq_some_iff.mp h
  have hn : p.root.LiesBeyond [] :=
    Node.indexed_of_forall (fun g => Nat.zero_le _) (fun _ => trivial) _
  have hstart : Memory.Alike text (Captures.Keeps []) true { reached := s } { reached := s } :=
    ⟨⟨rfl, List.nil_prefix⟩, fun _ => ⟨rfl, hs⟩⟩
  have halike := Node.found?_kept (Captures.keeps_correspondence text []) hn Step.Alike.done hs
    hstart hm
  exact (halike.reached rfl).2

/-- A part whose groups come behind the first `before` ones sets no mark of those. -/
theorem Node.found?_clear {before : Nat} (hn : n.Indexed (before < ·) fun _ => True)
    (hs : s ≤ text.size)
    (h : (n.run text f false none Step.done s { reached := s }).found? = some m) :
    ∀ i < 2 * before, m.captures.mark? i = none := by
  have hn' : n.Indexed (fun g => 2 * before ≤ 2 * g - 2) fun _ => True :=
    hn.mono (fun g hg => by omega) fun _ => id
  have hstart : Memory.Alike text (Captures.Clear (2 * before)) true { reached := s }
      { reached := s } :=
    ⟨⟨rfl, fun i _ => rfl⟩, fun _ => ⟨rfl, hs⟩⟩
  have halike := Node.found?_kept (Captures.clear_correspondence text (2 * before)) hn'
    Step.Alike.done hs hstart h
  exact halike.captures.2

/-- A group that matches first has its marks around what the body matched, and the groups before it
have none. -/
theorem Node.found?_group {g : Nat} {body : Node} (hg : 1 ≤ g)
    (hbody : body.Indexed (g < ·) fun _ => True) (hs : s ≤ text.size)
    (h : ((Node.group g body).run text f false none Step.done s { reached := s }).found? = some m) :
    m.captures.mark? (2 * g - 2) = some s ∧ m.captures.mark? (2 * g - 1) = some m.reached ∧
      ∀ i < 2 * g - 2, m.captures.mark? i = none := by
  have hlength := Captures.length_opened hg s
  have hbeyond : body.LiesBeyond (Captures.opened g s) := by
    refine hbody.mono (fun x hx => ?_) fun _ => id
    unfold Captures.Beyond
    omega
  -- The marks that opening sets are kept until the group is closed.
  let Q : Memory → Memory → Prop := fun m _ => ∃ c : Captures,
    Captures.opened g s <+: c.marks ∧ m = ⟨m.reached, c.closeAt g m.reached⟩
  have hk : Step.Alike text (Captures.Keeps (Captures.opened g s)) false Q
      (fun j m => Step.done j { m with captures := m.captures.closeAt g j })
      (fun j m => Step.done j { m with captures := m.captures.closeAt g j }) :=
    fun j m m' _ hm => .matched ⟨m.captures, hm.captures.2, rfl⟩
  have hopen : (({} : Captures).openAt g s) = ⟨Captures.opened g s⟩ :=
    congrArg Captures.mk (Captures.openAt_nil g s)
  have hstart : Memory.Alike text (Captures.Keeps (Captures.opened g s)) false
      { reached := s, captures := ({} : Captures).openAt g s }
      { reached := s, captures := ({} : Captures).openAt g s } :=
    ⟨⟨rfl, hopen ▸ List.prefix_rfl⟩, nofun⟩
  obtain ⟨c, hc, hm⟩ :=
    Node.found?_kept (Captures.keeps_correspondence text _) hbeyond hk hs hstart h
  rw [hm]
  refine ⟨?_, Captures.mark?_set_self _ _ _, fun i hi => ?_⟩
  · rw [Captures.closeAt, Captures.mark?_set_of_ne _ _ (by omega),
      Captures.mark?_of_isPrefix hc (by omega)]
    simp [Captures.opened]
  · rw [Captures.closeAt, Captures.mark?_set_of_ne _ _ (by omega),
      Captures.mark?_of_isPrefix hc (by omega), Captures.opened,
      List.getElem?_append_left (by simpa using hi), List.getElem?_replicate_of_lt hi]
    rfl

/-- Behind other groups a part matches what it matches on its own, with its marks moved up; `finish`
is what is done to the marks in the end. -/
theorem Node.found?_renumber {base : List (Option Nat)} {before : Nat}
    (hn : n.Indexed (1 ≤ ·) (1 ≤ ·)) (hbase : base.length ≤ 2 * before) (hs : s ≤ text.size)
    {m₀ : Memory} (hm₀ : m₀.captures = ⟨base⟩) (finish : Nat → Captures → Captures) :
    ((n.renumber (· + before)).run text f false none
        (fun j m => .matched ⟨j, finish j m.captures⟩) s m₀).found? =
      (n.run text f false none Step.done s { reached := s }).found?.map fun m =>
        ⟨m.reached, finish m.reached (m.captures.behind base before)⟩ := by
  let Q : Memory → Memory → Prop := fun m m' =>
    m' = ⟨m.reached, finish m.reached (m.captures.behind base before)⟩
  have hk : Step.Alike text (Captures.Shifted base before) false Q Step.done
      fun j m => .matched ⟨j, finish j m.captures⟩ :=
    fun j m m' _ hm => .matched (congrArg (fun c => Memory.mk j (finish j c)) hm.captures.eq)
  have hstart : Memory.Alike text (Captures.Shifted base before) false { reached := s } m₀ :=
    ⟨congrArg Captures.marks hm₀, nofun⟩
  have hrun := run_alike (Captures.shifted_correspondence text hbase) hn f false none hk s _ _ hs
    hstart
  obtain ⟨r, r', e, e', hQ⟩ | ⟨r, r', e, e', -⟩ := hrun.cases
  · rw [e, e', hQ]
    rfl
  · rw [e, e']
    rfl

/-! ## Parts that need a group -/

/-- Does every way through the pattern lead over a reference to the group, as far as it is told by
sequences and alternatives? -/
def Node.needs (g : Nat) : Node → Bool
  | .backref g' => g' == g
  | .group _ body => body.needs g
  | .scoped _ _ body => body.needs g
  | .either first second => first.needs g && second.needs g
  | .both first second => first.needs g || second.needs g
  | _ => false

/-- A pattern that is renumbered needs the renumbered group. -/
theorem Node.needs_renumber {σ : Nat → Nat} {g : Nat} (h : n.needs g = true) :
    (n.renumber σ).needs (σ g) = true := by
  induction n with
  | backref g' =>
    rw [needs, beq_iff_eq] at h
    simp [needs, h]
  | group _ body ih => exact ih h
  | «scoped» _ _ body ih => exact ih h
  | either first second ihFirst ihSecond =>
    rw [needs, Bool.and_eq_true] at h
    simp [needs, ihFirst h.1, ihSecond h.2]
  | both first second ihFirst ihSecond =>
    rw [needs, Bool.or_eq_true] at h
    rcases h with h | h
    · simp [needs, ihFirst h]
    · simp [needs, ihSecond h]
  | empty | single _ | anchor _ | atomic _ | rounds _ _ _ _ | ahead _ _ | behind _ _ _
  | conditional _ _ _ => cases h

/-- Where a group is not set, and the part does not set it, a part that needs it fails, whatever
would come after it. -/
private theorem Node.run_of_needs {before g : Nat} (hg : 1 ≤ g) (hle : g ≤ before)
    (hn : n.Indexed (fun g => 2 * before ≤ 2 * g - 2) fun _ => True) (hneeds : n.needs g = true)
    (f : Flags) (inRepeat : Bool) (next : Option Nat) (k : Step) :
    Step.Alike text (Captures.Clear (2 * before)) false (fun _ _ => False)
      (n.run text f inRepeat next k) (n.run text f inRepeat next k) := by
  have hc := Captures.clear_correspondence text (2 * before)
  induction n generalizing f inRepeat next k with
  | backref g' =>
    -- The group was never opened, so a reference to it fails.
    obtain rfl := beq_iff_eq.mp hneeds
    intro i m m' hi hm
    have hspan : m.captures.span? g' = none :=
      Captures.span?_of_not_opened (hm.captures.2 _ (by omega))
    have hspan' : m'.captures.span? g' = none := by rw [hm.captures.1, hspan]
    simp only [Node.run, hspan, hspan']
    exact .failed hm
  | group g' body ih =>
    intro i m m' hi hm
    exact ih hn.2 hneeds f inRepeat none _ i _ _ hi (hm.setCaptures (hc.opened hn.1 hi hm.captures))
  | «scoped» on off body ih => exact ih hn hneeds _ inRepeat next k
  | either first second ihFirst ihSecond =>
    -- Both alternatives need the group, so one fails after the other.
    rw [needs, Bool.and_eq_true] at hneeds
    intro i m m' hi hm
    simp only [Node.run]
    obtain ⟨r, r', -, -, hfalse⟩ | ⟨r, r', e, e', h⟩ :=
      (tryAlternative_alike (ihFirst hn.1 hneeds.1 f inRepeat none k) (first.lead? f) i _ _ hi
        hm).cases
    · exact hfalse.elim
    · simp only [e, e']
      have hu := h.undo hc hm.captures inRepeat
      split
      · exact ihSecond hn.2 hneeds.2 f inRepeat next k i _ _ hi hu
      · obtain ⟨r, r', -, -, hfalse⟩ | ⟨r, r', d, d', h⟩ :=
          (tryAlternative_alike (ihSecond hn.2 hneeds.2 f inRepeat none k) (second.lead? f) i _ _ hi
            hu).cases
        · exact hfalse.elim
        · rw [d, d']
          exact .failed (h.undo hc hm.captures inRepeat)
  | both first second ihFirst ihSecond =>
    rw [needs, Bool.or_eq_true] at hneeds
    rcases hneeds with hneeds | hneeds
    · exact ihFirst hn.1 hneeds f inRepeat _ _
    · -- The first part runs into a second part that always fails.
      have hrun := run_alike hc hn.1 f inRepeat (second.leadLiteral? f next)
        (ihSecond hn.2 hneeds f inRepeat next k)
      rwa [renumber_id] at hrun
  | empty | single _ | anchor _ | atomic _ | rounds _ _ _ _ | ahead _ _ | behind _ _ _
  | conditional _ _ _ => cases hneeds

/-- A part that needs one of the groups before it does not match. -/
theorem Node.found?_of_needs {before g : Nat} (hg : 1 ≤ g) (hle : g ≤ before)
    (hn : n.Indexed (before < ·) fun _ => True) (hneeds : n.needs g = true) (hs : s ≤ text.size)
    (k : Step) : (n.run text f false none k s { reached := s }).found? = none := by
  have hn' : n.Indexed (fun g => 2 * before ≤ 2 * g - 2) fun _ => True :=
    hn.mono (fun g hg => by omega) fun _ => id
  have hstart : Memory.Alike text (Captures.Clear (2 * before)) false { reached := s }
      { reached := s } := ⟨⟨rfl, fun i _ => rfl⟩, nofun⟩
  obtain ⟨r, r', -, -, hfalse⟩ | ⟨r, r', e, -, -⟩ :=
    (Node.run_of_needs hg hle hn' hneeds f false none k s _ _ hs hstart).cases
  · exact hfalse.elim
  · rw [e]
    rfl

end

end Marginalia.Pattern
