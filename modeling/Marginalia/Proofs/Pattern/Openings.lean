import Marginalia.Proofs.Pattern.Placement
import Marginalia.Proofs.Pattern.Reader.Fragments
import Marginalia.Proofs.Pattern.Search
import Marginalia.Proofs.Pattern.Widths

/-!
# Where a match can begin

A search passes over the positions that are ruled out by what is known of how a match begins.  For a
plain pattern it misses nothing by that: a position with a match leaves room for the least width, and
the text has there the literals, or a member of the class, with which the pattern begins
(`tries_of_matchAt`).  The match does not end before it starts, and neither does one of its groups
(`forward_of_matchAt`).

What is not plain: a possessive repeat of more than one character, whose match may be narrower than
its width (`Node.keepsPlace`), and a class at the very beginning that is compared in another way than
under the flags of the whole pattern (`Node.opensExactly`).
-/

namespace Marginalia.Pattern

variable {text : Array Char} {f g : Flags} {inRepeat : Bool} {next : Option Nat} {k : Step}
  {i : Nat} {m r : Memory}

namespace Node

/-! ## Literals -/

theorem literalsAt_append (cs ds : List Nat) (i : Nat) :
    literalsAt text (cs ++ ds) i =
      (literalsAt text cs i && literalsAt text ds (i + cs.length)) := by
  induction cs generalizing i with
  | nil => simp [literalsAt]
  | cons c cs ih =>
    simp only [List.cons_append, literalsAt, ih, Bool.and_assoc, List.length_cons]
    congr 3
    omega

/-- A literal without another case form is compared exactly. -/
private theorem literal_of_acceptsAt {c : Nat} (hc : ¬(f.ignoreCase && f.isCased c) = true)
    (h : (Single.literal c).acceptsAt text f i = true) : text[i]?.any (·.toNat == c) = true := by
  rw [Single.acceptsAt_eq] at h
  simpa only [Single.accepts, Flags.sameLiteral, if_neg hc] using h

/-- The run of a step that matches. -/
private theorem acceptsAt_of_matched {s : Single}
    (h : (single s).run text f inRepeat next k i m = .matched r) :
    s.acceptsAt text f i = true ∧ k (i + 1) m = .matched r := by
  unfold run at h
  split at h
  · rename_i haccepts
    exact ⟨haccepts, h⟩
  · cases h

/-- Where a pattern matches the text has its first literals, and if there may be more after them, the
match goes on behind them. -/
theorem literalsAt_of_matched {n : Node}
    (h : n.run text f inRepeat next k i m = .matched r) :
    literalsAt text (n.openingLiterals f).1 i = true ∧
      ((n.openingLiterals f).2 = true →
        ∃ m', k (i + (n.openingLiterals f).1.length) m' = .matched r) := by
  induction n generalizing f inRepeat next k i m with
  | empty => exact ⟨rfl, fun _ => ⟨m, h⟩⟩
  | single s =>
    obtain ⟨haccepts, hnext⟩ := acceptsAt_of_matched h
    cases s with
    | literal c =>
      unfold openingLiterals
      split
      · exact ⟨rfl, nofun⟩
      · rename_i hc
        refine ⟨?_, fun _ => ⟨m, hnext⟩⟩
        rw [literalsAt, literal_of_acceptsAt hc haccepts]
        rfl
    | notLiteral _ | any | oneOf _ _ => exact ⟨rfl, nofun⟩
  | group g body ih =>
    obtain ⟨hliterals, hmore⟩ := ih h
    refine ⟨hliterals, fun hgoesOn => ?_⟩
    obtain ⟨m', h'⟩ := hmore hgoesOn
    exact ⟨_, h'⟩
  | «scoped» on off body ih => exact ih h
  | both first second ih₁ ih₂ =>
    -- Literals of the second part follow if the first part is literals only.
    obtain ⟨hfirst, hmore⟩ := ih₁ h
    unfold openingLiterals
    dsimp only
    split
    · rename_i hgoesOn
      obtain ⟨m', h'⟩ := hmore hgoesOn
      obtain ⟨hsecond, hmore'⟩ := ih₂ h'
      refine ⟨?_, fun hgoesOn' => ?_⟩
      · rw [literalsAt_append, hfirst, hsecond]
        rfl
      · rw [List.length_append, ← Nat.add_assoc]
        exact hmore' hgoesOn'
    · exact ⟨hfirst, nofun⟩
  | anchor _ | atomic _ _ | rounds _ _ _ _ _ | ahead _ _ _ | behind _ _ _ _ | backref _
  | conditional _ _ _ _ _ | either _ _ _ _ => exact ⟨rfl, nofun⟩

/-! ## Classes -/

/-- A choice that matches does so by one of its alternatives. -/
theorem alternative_of_matched {first second : Node}
    (h : (either first second).run text f inRepeat next k i m = .matched r) :
    (∃ m', first.run text f inRepeat none k i m' = .matched r) ∨
      ∃ next' m', (next' = next ∨ next' = none) ∧
        second.run text f inRepeat next' k i m' = .matched r := by
  have htry : ∀ {lead alternative m'}, tryAlternative text lead alternative i m' = .matched r →
      alternative i (m'.goTo i) = .matched r := by
    intro lead alternative m' h
    unfold tryAlternative at h
    split at h
    · cases h
    · exact h
  unfold run at h
  split at h
  · rename_i hfirst
    cases h
    exact .inl ⟨_, htry hfirst⟩
  · dsimp only at h
    split at h
    · exact .inr ⟨next, _, .inl rfl, h⟩
    · split at h
      · rename_i hsecond
        cases h
        exact .inr ⟨none, _, .inr rfl, htry hsecond⟩
      · cases h

theorem firstLiteral_of_matched {n : Node} {c : Nat} (hc : n.firstLiteral? f = some c)
    (h : n.run text f inRepeat next k i m = .matched r) :
    ∃ x, text[i]? = some x ∧ x.toNat = c := by
  induction n generalizing inRepeat next k i m with
  | single s =>
    obtain ⟨haccepts, -⟩ := acceptsAt_of_matched h
    cases s with
    | literal l =>
      unfold firstLiteral? at hc
      split at hc
      · cases hc
      · rename_i hcased
        cases hc
        simpa [Option.any_eq_true] using literal_of_acceptsAt hcased haccepts
    | notLiteral _ | any | oneOf _ _ => cases hc
  | both first second ih₁ _ => exact ih₁ hc h
  | empty | anchor _ | group _ _ _ | «scoped» _ _ _ _ | atomic _ _ | rounds _ _ _ _ _ | ahead _ _ _
  | behind _ _ _ _ | backref _ | conditional _ _ _ _ _ | either _ _ _ _ => cases hc

/-- Where a choice between literals matches, the text has one of them. -/
theorem firstLiterals_of_matched (g : Flags) {n : Node} {items : List ClassItem}
    (hitems : n.firstLiterals? f = some items)
    (h : n.run text f inRepeat next k i m = .matched r) :
    ∃ x, text[i]? = some x ∧ items.any (·.contains g x.toNat) = true := by
  induction n generalizing inRepeat next k m items with
  | either first second ih₁ ih₂ =>
    obtain ⟨c, hc, hsecond⟩ := Option.bind_eq_some_iff.mp hitems
    obtain ⟨rest, hrest, heq⟩ := Option.bind_eq_some_iff.mp hsecond
    cases heq
    obtain ⟨m', h'⟩ | ⟨next', m', -, h'⟩ := alternative_of_matched h
    · obtain ⟨x, hx, rfl⟩ := firstLiteral_of_matched hc h'
      exact ⟨x, hx, by simp [ClassItem.contains]⟩
    · obtain ⟨x, hx, hany⟩ := ih₂ hrest h'
      exact ⟨x, hx, by rw [List.any_cons, hany, Bool.or_true]⟩
  | empty | single _ | anchor _ | group _ _ _ | «scoped» _ _ _ _ | atomic _ _ | rounds _ _ _ _ _
  | ahead _ _ _ | behind _ _ _ _ | backref _ | conditional _ _ _ _ _ | both _ _ _ _ =>
    obtain ⟨c, hc, rfl⟩ := Option.map_eq_some_iff.mp hitems
    obtain ⟨x, hx, rfl⟩ := firstLiteral_of_matched hc h
    exact ⟨x, hx, by simp [ClassItem.contains]⟩

/-- Is the class with which the pattern begins, if it counts, compared as it would be under the flags
`g`?  It is not in a scope that has another alphabet, or where its members have to be lowered. -/
def opensExactly (g : Flags) : Node → Flags → Bool
  | .single (.oneOf _ items), f =>
    (f.ignoreCase && items.any (·.mayFold f)) || (f.ascii == g.ascii && !f.foldsClass items)
  | .group _ body, f => body.opensExactly g f
  | .scoped on off body, f => body.opensExactly g (f.scoped on off)
  | .both first _, f => first.opensExactly g f
  | _, _ => true

private theorem contains_congr (h : f.ascii = g.ascii) (item : ClassItem) (c : Nat) :
    item.contains f c = item.contains g c := by
  cases item <;> simp only [ClassItem.contains, h]

/-- Where a pattern matches the text has a member of the class with which the pattern begins. -/
theorem class_of_matched {n : Node} {negated : Bool} {items : List ClassItem}
    (hexact : n.opensExactly g f = true) (hclass : n.openingClass? f = some (negated, items))
    (h : n.run text f inRepeat next k i m = .matched r) :
    ∃ x, text[i]? = some x ∧ (items.any (·.contains g x.toNat) != negated) = true := by
  induction n generalizing f inRepeat next k m with
  | single s =>
    obtain ⟨haccepts, -⟩ := acceptsAt_of_matched h
    cases s with
    | oneOf negated' items' =>
      unfold openingClass? at hclass
      split at hclass
      · cases hclass
      · rename_i hfold
        cases hclass
        obtain hfold' | hexact := Bool.or_eq_true_iff.mp hexact
        · exact absurd hfold' hfold
        obtain ⟨hascii, hfolds⟩ := Bool.and_eq_true_iff.mp hexact
        have hsame : ∀ c, f.memberOf items c = items.any (·.contains g c) := by
          intro c
          unfold Flags.memberOf
          rw [if_neg (by simpa using hfolds)]
          congr 1
          funext item
          exact contains_congr (by simpa using hascii) item c
        rw [Single.acceptsAt_eq] at haccepts
        simpa only [Single.accepts, hsame, Option.any_eq_true] using haccepts
    | literal _ | notLiteral _ | any => cases hclass
  | group _ body ih => exact ih hexact hclass h
  | «scoped» on off body ih => exact ih hexact hclass h
  | both first second ih₁ _ => exact ih₁ hexact hclass h
  | either first second _ _ =>
    obtain ⟨items', hitems, heq⟩ := Option.map_eq_some_iff.mp hclass
    cases heq
    obtain ⟨x, hx, hany⟩ := firstLiterals_of_matched g hitems h
    exact ⟨x, hx, by rw [hany]; rfl⟩
  | empty | anchor _ | atomic _ _ | rounds _ _ _ _ _ | ahead _ _ _ | behind _ _ _ _ | backref _
  | conditional _ _ _ _ _ => cases hclass

/-- Where a pattern matches nothing that is known of its beginning rules it out. -/
theorem admits_of_matched {n : Node} (hexact : n.opensExactly f f = true)
    (h : n.run text f inRepeat next k i m = .matched r) :
    (n.prospect f).admits text f i = true := by
  unfold prospect
  split
  · rename_i c cs hliterals
    have hat := (literalsAt_of_matched h).1
    rwa [hliterals] at hat
  · rename_i negated items _ hclass
    obtain ⟨x, hx, hmember⟩ := class_of_matched hexact hclass h
    rw [Prospect.admits, hx]
    exact hmember
  · rfl

end Node

/-! ## Whole patterns -/

/-- Does a search for the pattern find a match wherever there is one? -/
def isPlain (p : Pattern) : Bool := p.root.keepsPlace && p.root.opensExactly p.flags p.flags

variable {p : Pattern} {source : String} {s : Nat} {found : Match}

/-- A match consumes at least the least width of the pattern, within the text, and none of its groups
starts behind its end. -/
theorem forward_of_matchAt (hp : compile source = .ok p) (hplace : p.root.keepsPlace = true)
    (hs : s ≤ text.size) (h : p.matchAt text s = some found) :
    s + p.least ≤ found.stop ∧ found.stop ≤ text.size ∧ found.captures.isCrossed = false := by
  obtain ⟨ns, r, hcompiled⟩ := compile_ok hp
  have hnumbered := (Reader.readAlternatives_grows hcompiled.read).numbered_widthOf
  rw [← Node.numbered_sequence, ← hcompiled.root] at hnumbered
  have hopen : ∀ g, ¬Reader.isOpen (.behind source.toList []) g := fun g hg => nomatch hg.2
  have hstart : ({} : Captures).Standing r.widthOf (Reader.isOpen (.behind source.toList []))
      .outside 1 := ⟨nofun, Nat.le_refl 0⟩
  have hcovers : Zone.outside.Covers 1 r.nextGroup := trivial
  have hrun := Node.consumes text _ _ hnumbered hplace hcovers (Nat.le_refl 1) p.flags none hs
    (m := { reached := s }) hstart Step.settles_done
  rw [matchAt_eq] at h
  obtain ⟨m, hm, rfl⟩ := Option.map_eq_some_iff.mp h
  have hmatched : p.root.run text p.flags Zone.outside.inRepeat none Step.done s
      { reached := s } = .matched m := Verdict.found?_eq_some.mp hm
  rw [hmatched] at hrun
  obtain ⟨hplace, hsize, hstanding, -⟩ := hrun
  refine ⟨?_, hsize, Captures.isCrossed_eq_false_iff.mpr fun g i j hi hj => ?_⟩
  · have hcut : p.least ≤ (p.root.width r.widthOf).least := by
      rw [hcompiled.least]
      exact Nat.min_le_left _ _
    exact Nat.le_trans (Nat.add_le_add_left hcut s) hplace
  · have := hstanding.spans g i j (hopen _) hi hj
    omega

/-- A search that starts at or before a match of a plain pattern tries the match's position. -/
theorem tries_of_matchAt (hp : compile source = .ok p) (hplain : p.isPlain = true)
    (hs : s ≤ text.size) (h : p.matchAt text s = some found) {position : Nat}
    (hposition : position ≤ s) : p.Tries text position s := by
  obtain ⟨hplace, hexact⟩ := Bool.and_eq_true_iff.mp hplain
  obtain ⟨hwide, hstop, -⟩ := forward_of_matchAt hp hplace hs h
  obtain ⟨ns, r, hcompiled⟩ := compile_ok hp
  rw [matchAt_eq] at h
  obtain ⟨m, hm, -⟩ := Option.map_eq_some_iff.mp h
  refine ⟨hposition, ?_, by omega, ?_⟩
  · unfold Prospect.reach
    split <;> omega
  · rw [hcompiled.prospect]
    split
    · rfl
    · exact Node.admits_of_matched hexact (Verdict.found?_eq_some.mp hm)

/-- A search finds a match of a plain pattern wherever there is one. -/
theorem findsAt_of_isPlain (hp : compile source = .ok p) (hplain : p.isPlain = true)
    (hs : s ≤ text.size) (h : p.matchAt text s ≠ none) : p.FindsAt text s := by
  obtain ⟨r, hr⟩ := Option.ne_none_iff_exists'.mp h
  exact (findsAt_iff hs).mpr ⟨tries_of_matchAt hp hplain hs hr (Nat.le_refl s), h⟩

end Marginalia.Pattern
