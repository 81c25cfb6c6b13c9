import Marginalia.Proofs.Pattern.Marks

/-!
# A choice takes the first alternative that matches

Reading a choice rearranges it: steps with which all alternatives begin are taken out, single
characters become a class, and an alternative is skipped where its first character already refuses.
None of this is seen in the outcome: a choice comes to what the first of its alternatives comes to
that matches, each of them run from the same place with the same marks (`Node.found?_choice`).

The marks are the delicate point.  A failed alternative gives its marks back by cutting them off,
which restores them only if the alternative has left the earlier ones alone; `Captures.Keeps` is
that condition.
-/

namespace Marginalia.Pattern

/-- What a match leaves behind. -/
def Verdict.found? : Verdict → Option Memory
  | .matched m => some m
  | .failed _ => none

@[simp] theorem Verdict.found?_matched (m : Memory) : (Verdict.matched m).found? = some m := rfl

@[simp] theorem Verdict.found?_failed (m : Memory) : (Verdict.failed m).found? = none := rfl

/-- A match is found if the verdict says so. -/
theorem Verdict.found?_eq_some {v : Verdict} {m : Memory} :
    v.found? = some m ↔ v = .matched m := by
  cases v <;> simp

/-- The first that is found. -/
private theorem findSome?_cons_or {α β : Type} (p : α → Option β) (a : α) (l : List α) :
    (a :: l).findSome? p = (p a).or (l.findSome? p) := by
  rw [List.findSome?_cons]
  cases p a <;> rfl

@[simp] theorem Flags.scoped_nil (f : Flags) : f.scoped [] [] = f := by
  simp [Flags.scoped]

namespace Node

/-! ## How a part begins -/

/-- A part without a beginning does nothing. -/
theorem run_of_lead?_eq_none {text : Array Char} {n : Node} {f : Flags} (h : n.lead? f = none)
    (inRepeat : Bool) (next : Option Nat) (k : Step) : n.run text f inRepeat next k = k := by
  induction n generalizing f next k with
  | empty => rfl
  | «scoped» on off body ih => exact ih h next k
  | both first second ih₁ ih₂ =>
    obtain ⟨h₁, h₂⟩ := Option.or_eq_none_iff.mp h
    unfold run
    rw [ih₂ h₂, ih₁ h₁]
  | single _ | anchor _ | group _ _ | atomic _ | rounds _ _ _ _ | ahead _ _ | behind _ _ _
  | backref _ | conditional _ _ _ | either _ _ => cases h

/-- A part whose beginning refuses the place does not match there. -/
theorem found?_of_refuses {text : Array Char} {n : Node} {f : Flags} {i : Nat}
    (h : (n.lead? f).any (·.refuses text i) = true) (inRepeat : Bool) (next : Option Nat) (k : Step)
    (m : Memory) : (n.run text f inRepeat next k i m).found? = none := by
  induction n generalizing f next k with
  | single s =>
    have hs : s.acceptsAt text f i = false := by
      unfold lead? at h
      split at h
      · simpa [Lead.refuses] using h
      · simp [Lead.refuses] at h
    simp [run, hs]
  | «scoped» on off body ih => exact ih h next k
  | both first second ih₁ ih₂ =>
    unfold run
    cases h₁ : first.lead? f with
    | none =>
      rw [run_of_lead?_eq_none h₁]
      refine ih₂ ?_ next k
      simpa [lead?, h₁] using h
    | some l =>
      refine ih₁ ?_ _ _
      simpa [lead?, h₁] using h
  | empty => simp [lead?] at h
  | anchor _ | group _ _ | atomic _ | rounds _ _ _ _ | ahead _ _ | behind _ _ _
  | backref _ | conditional _ _ _ | either _ _ => simp [lead?, Lead.refuses] at h

/-! ## Sequences -/

/-- A sequence is its first part followed by the others. -/
theorem run_sequence_cons (text : Array Char) (n : Node) (ns : List Node) (f : Flags)
    (inRepeat : Bool) (next : Option Nat) (k : Step) :
    (sequence (n :: ns)).run text f inRepeat next k
      = n.run text f inRepeat ((sequence ns).leadLiteral? f next)
          ((sequence ns).run text f inRepeat next k) := by
  cases ns with
  | nil => rfl
  | cons n' ns => rfl

@[simp] theorem run_setApart (text : Array Char) (n : Node) (f : Flags) (inRepeat : Bool)
    (next : Option Nat) (k : Step) :
    n.setApart.run text f inRepeat next k = n.run text f inRepeat next k := by
  unfold setApart
  split
  · rw [run, Flags.scoped_nil]
  · rfl

/-! ## Alternatives that keep the earlier marks -/

section

variable {text : Array Char} {base : List (Option Nat)} {f : Flags} {k : Step} {i : Nat}
  {m m' : Memory}

/-- The groups of a pattern have their marks beyond `base`. -/
abbrev LiesBeyond (base : List (Option Nat)) (n : Node) : Prop :=
  n.Indexed (Captures.Beyond base) fun _ => True

/-- Memories with the same marks are alike. -/
private theorem alike_of_captures (hm : m.captures = ⟨base⟩) (hm' : m'.captures = ⟨base⟩) :
    m.Alike text (Captures.Keeps base) false m' :=
  ⟨⟨hm'.trans hm.symm, hm ▸ List.prefix_rfl⟩, fun h => by cases h⟩

/-- With the same marks, a run comes to the same match whatever place was reached before it. -/
theorem found?_run_congr {n : Node} (hn : n.LiesBeyond base)
    (hk : Step.Alike text (Captures.Keeps base) false Eq k k) (hi : i ≤ text.size)
    (hm : m.captures = ⟨base⟩) (hm' : m'.captures = ⟨base⟩) (inRepeat : Bool) (next : Option Nat) :
    (n.run text f inRepeat next k i m).found? = (n.run text f inRepeat next k i m').found? := by
  have h := run_alike (Captures.keeps_correspondence text base) hn f inRepeat next hk i m m' hi
    (alike_of_captures hm hm')
  rw [renumber_id] at h
  obtain ⟨r, r', e, e', rfl⟩ | ⟨r, r', e, e', -⟩ := h.cases
  · rw [e, e']
  · rw [e, e']
    rfl

/-- What one alternative of a choice comes to: the same as the alternative without a look at its
beginning, and where it fails the first marks are still there. -/
private theorem tryAlternative_spec {n : Node} (hn : n.LiesBeyond base)
    (hk : Step.Alike text (Captures.Keeps base) false Eq k k) (hi : i ≤ text.size)
    (hm : m.captures = ⟨base⟩) :
    (∃ r, tryAlternative text (n.lead? f) (n.run text f false none k) i m = .matched r ∧
        (n.run text f false none k i m).found? = some r) ∨
      ∃ r, tryAlternative text (n.lead? f) (n.run text f false none k) i m = .failed r ∧
        (n.run text f false none k i m).found? = none ∧ r.captures.cutTo ⟨base⟩ = ⟨base⟩ := by
  have hfound : (tryAlternative text (n.lead? f) (n.run text f false none k) i m).found?
      = (n.run text f false none k i m).found? := by
    unfold tryAlternative
    split
    · rename_i hrefuses
      exact (found?_of_refuses hrefuses false none k m).symm
    · exact found?_run_congr (m := m.goTo i) hn hk hi hm hm false none
  have halike := tryAlternative_alike
    (run_alike (Captures.keeps_correspondence text base) hn f false none hk) (n.lead? f) i m m hi
    (alike_of_captures hm hm)
  rw [renumber_id] at halike
  obtain ⟨r, r', e, -, -⟩ | ⟨r, r', e, -, h⟩ := halike.cases <;> rw [e] at hfound
  · exact .inl ⟨r, e, hfound.symm⟩
  · exact .inr ⟨r, e, hfound.symm, h.captures.cutTo_eq⟩

/-- A choice between two comes to what the first comes to, or else to what the second comes to. -/
theorem found?_either {first second : Node} (h₁ : first.LiesBeyond base)
    (h₂ : second.LiesBeyond base) (hk : Step.Alike text (Captures.Keeps base) false Eq k k)
    (hi : i ≤ text.size) (hm : m.captures = ⟨base⟩) :
    ((either first second).run text f false none k i m).found?
      = (first.run text f false none k i m).found?.or
          (second.run text f false none k i m).found? := by
  rw [run]
  obtain ⟨r, e, hr⟩ | ⟨r, e, hr, hcut⟩ := tryAlternative_spec (f := f) h₁ hk hi hm
  · simp only [e, hr, Verdict.found?_matched, Option.some_or]
  · simp only [e, hr, Option.none_or]
    have hu : (r.undo false m.captures).captures = ⟨base⟩ := by
      rw [hm]
      exact hcut
    rw [← found?_run_congr h₂ hk hi hu hm false none]
    split
    · rfl
    · obtain ⟨s, d, hs⟩ | ⟨s, d, hs, -⟩ := tryAlternative_spec (f := f) h₂ hk hi hu
      · rw [d, hs]
        rfl
      · rw [d, hs]
        rfl

/-- A choice finds what the first alternative that matches finds. -/
theorem found?_firstOf {alts : List (List Node)} (hne : alts ≠ [])
    (h : ∀ ns ∈ alts, ∀ n ∈ ns, n.LiesBeyond base)
    (hk : Step.Alike text (Captures.Keeps base) false Eq k k) (hi : i ≤ text.size)
    (hm : m.captures = ⟨base⟩) :
    ((firstOf alts).run text f false none k i m).found?
      = alts.findSome? fun ns => ((sequence ns).run text f false none k i m).found? := by
  induction alts with
  | nil => exact absurd rfl hne
  | cons ns rest ih =>
    have hrest : ∀ ms ∈ rest, ∀ n ∈ ms, n.LiesBeyond base :=
      fun ms hms => h ms (List.mem_cons_of_mem _ hms)
    cases rest with
    | nil =>
      rw [firstOf, run_setApart, findSome?_cons_or, List.findSome?_nil, Option.or_none]
    | cons ns' rest =>
      have hns := indexed_sequence.mpr (h ns (List.mem_cons_self ..))
      rw [firstOf, found?_either hns (indexed_firstOf hrest) hk hi hm,
        ih (List.cons_ne_nil _ _) hrest, findSome?_cons_or _ ns]
      exact fun heq => List.cons_ne_nil _ _ heq

end

/-! ## Steps taken out of a choice -/

/-- Where a step leads to depends on the marks only, not on what comes after the step. -/
theorem found?_step {text : Array Char} {n : Node} (hn : n.IsStep) (f : Flags) {i : Nat}
    (hi : i ≤ text.size) (m : Memory) :
    ∃ target : Option Nat, (∀ j ∈ target, j ≤ text.size) ∧
      ∀ inRepeat next k, (n.run text f inRepeat next k i m).found?
        = target.bind fun j => (k j m).found? := by
  cases n with
  | single s =>
    refine ⟨if s.acceptsAt text f i then some (i + 1) else none, ?_, ?_⟩
    · intro j hj
      split at hj
      · cases hj
        exact Single.lt_size_of_acceptsAt ‹_›
      · cases hj
    · intro inRepeat next k
      unfold run
      split <;> rfl
  | anchor a =>
    refine ⟨if a.holds text f i then some i else none, ?_, ?_⟩
    · intro j hj
      split at hj <;> cases hj
      exact hi
    · intro inRepeat next k
      unfold run
      split <;> rfl
  | backref g =>
    -- A reference goes on behind what it repeats, if the group is set.
    refine ⟨(m.captures.span? g).bind fun s =>
      if repeatsText text f (s.2 - s.1) s.1 i then some (i + (s.2 - s.1)) else none, ?_, ?_⟩
    · intro j hj
      obtain ⟨s, -, hs⟩ := Option.bind_eq_some_iff.mp hj
      split at hs
      · cases hs
        exact repeatsText_le hi ‹_›
      · cases hs
    · intro inRepeat next k
      unfold run
      cases m.captures.span? g with
      | none => rfl
      | some s =>
        simp only [Option.bind_some]
        split <;> rfl
  | empty | group _ _ | «scoped» _ _ _ | atomic _ | rounds _ _ _ _ | ahead _ _ | behind _ _ _
  | conditional _ _ _ | either _ _ | both _ _ => exact hn.elim

/-- Steps before a choice are steps before each of its alternatives. -/
theorem found?_steps {text : Array Char} {f : Flags} {k : Step} {m : Memory} {steps : List Node}
    (hsteps : ∀ s ∈ steps, s.IsStep) {x : Node} {rests : List (List Node)}
    (hx : ∀ j ≤ text.size, (x.run text f false none k j m).found?
      = rests.findSome? fun ns => ((sequence ns).run text f false none k j m).found?)
    {i : Nat} (hi : i ≤ text.size) :
    ((sequence (steps ++ [x])).run text f false none k i m).found?
      = (rests.map (steps ++ ·)).findSome? fun ns =>
          ((sequence ns).run text f false none k i m).found? := by
  induction steps generalizing i with
  | nil => simpa [sequence] using hx i hi
  | cons s steps ih =>
    obtain ⟨hs, hsteps⟩ := List.forall_mem_cons.mp hsteps
    obtain ⟨target, htarget, hrun⟩ := found?_step hs f hi m
    have hrests : (rests.map (s :: steps ++ ·)).findSome?
        (fun ns => ((sequence ns).run text f false none k i m).found?)
        = rests.findSome? fun ns => target.bind fun j =>
            ((sequence (steps ++ ns)).run text f false none k j m).found? := by
      rw [List.findSome?_map]
      congr
      funext ns
      exact (congrArg (fun step : Step => (step i m).found?)
        (run_sequence_cons text s (steps ++ ns) f false none k)).trans (hrun _ _ _)
    rw [hrests, List.cons_append, run_sequence_cons, hrun]
    cases target with
    | none => exact (List.findSome?_eq_none_iff.mpr fun _ _ => rfl).symm
    | some j =>
      simp only [Option.bind_some]
      rw [ih hsteps (htarget j rfl), List.findSome?_map]
      rfl

/-! ## Characters that become a class -/

/-- An alternative of one character accepts what its members accept. -/
theorem classItems?_spec {f : Flags} (hf : f.ignoreCase = false) {ns : List Node}
    {items : List ClassItem} (h : classItems? ns = some items) :
    ∃ s, ns = [.single s] ∧ ∀ c, s.accepts f c = items.any (·.contains f c) := by
  unfold classItems? at h
  split at h
  · cases h
    refine ⟨_, rfl, fun c => ?_⟩
    simp [Single.accepts, Flags.sameLiteral, hf, ClassItem.contains]
  · cases h
    refine ⟨_, rfl, fun c => ?_⟩
    simp [Single.accepts, Flags.memberOf, Flags.foldsClass, hf]
  · cases h

/-- A class accepts what one of its items has. -/
theorem accepts_oneOf_eraseDups {f : Flags} (hf : f.ignoreCase = false) (items : List ClassItem)
    (c : Nat) : (Single.oneOf false items.eraseDups).accepts f c = items.any (·.contains f c) := by
  simp only [Single.accepts, Flags.memberOf, Flags.foldsClass, hf, Bool.false_and, Bool.bne_false]
  rw [Bool.eq_iff_iff]
  simp [List.any_eq_true]

/-- Alternatives of one character each come to what the class of their members comes to. -/
theorem found?_classes {text : Array Char} {f : Flags} (hf : f.ignoreCase = false) (k : Step)
    (i : Nat) (m : Memory) {rests : List (List Node)} {items : List (List ClassItem)}
    (h : rests.mapM classItems? = some items) :
    ((Node.single (.oneOf false items.flatten.eraseDups)).run text f false none k i m).found?
      = rests.findSome? fun ns => ((sequence ns).run text f false none k i m).found? := by
  have hclass : ((Node.single (.oneOf false items.flatten.eraseDups)).run text f false none k i
      m).found? = if text[i]?.any (fun c => items.flatten.any (·.contains f c.toNat))
        then (k (i + 1) m).found? else none := by
    simp only [run, Single.acceptsAt_eq, accepts_oneOf_eraseDups hf]
    split <;> rfl
  rw [hclass]
  clear hclass
  induction rests generalizing items with
  | nil =>
    cases h
    cases text[i]? <;> rfl
  | cons ns rests ih =>
    rw [List.mapM_cons] at h
    obtain ⟨first, hfirst, h⟩ := Option.bind_eq_some_iff.mp h
    obtain ⟨others, hothers, h⟩ := Option.bind_eq_some_iff.mp h
    cases h
    obtain ⟨s, rfl, hs⟩ := classItems?_spec hf hfirst
    rw [findSome?_cons_or, ← ih hothers]
    simp only [sequence, run, Single.acceptsAt_eq, hs, List.flatten_cons, List.any_append]
    cases text[i]? with
    | none => rfl
    | some c =>
      by_cases h₁ : first.any (·.contains f c.toNat) = true <;>
        by_cases h₂ : others.flatten.any (·.contains f c.toNat) = true <;>
          simp only [Option.any_some, h₁, h₂, Bool.or_true, Bool.or_false, Bool.or_self, if_true,
            if_false, Bool.false_eq_true, Verdict.found?_failed, Option.or_self, Option.or_none,
            Option.none_or]

/-! ## Choices as they are read -/

/-- A choice comes to what the first of its alternatives comes to that matches. -/
theorem found?_choice {text : Array Char} {base : List (Option Nat)} {f : Flags}
    (hf : f.ignoreCase = false) {k : Step} {alts : List (List Node)} (hne : alts ≠ [])
    (h : ∀ ns ∈ alts, ∀ n ∈ ns, n.LiesBeyond base)
    (hk : Step.Alike text (Captures.Keeps base) false Eq k k) {i : Nat} (hi : i ≤ text.size)
    {m : Memory} (hm : m.captures = ⟨base⟩) :
    ((sequence (choice alts)).run text f false none k i m).found?
      = alts.findSome? fun ns => ((sequence ns).run text f false none k i m).found? := by
  match alts, hne with
  | [ns], _ => rw [choice, findSome?_cons_or, List.findSome?_nil, Option.or_none]
  | ns :: o :: others, _ =>
    obtain ⟨hsteps, halts⟩ := commonSteps_spec ns (o :: others) (List.cons_ne_nil o others)
    unfold choice
    dsimp only
    rw [halts] at h ⊢
    generalize commonSteps ns (o :: others) = common at hsteps h halts
    obtain ⟨steps, rests⟩ := common
    have hrests : rests ≠ [] := by
      rintro rfl
      cases halts
    have hbeyond : ∀ ms ∈ rests, ∀ n ∈ ms, n.LiesBeyond base := fun ms hms n hn =>
      h _ (List.mem_map_of_mem hms) n (List.mem_append_right _ hn)
    cases hclass : rests.mapM classItems? with
    | some items => exact found?_steps hsteps (fun j _ => found?_classes hf k j m hclass) hi
    | none => exact found?_steps hsteps (fun j hj => found?_firstOf hrests hbeyond hk hj hm) hi

end Node

end Marginalia.Pattern
