import Marginalia.Proofs.Pattern.Renumbering

/-!
# Groups in the order of the text

Groups get their numbers in the order in which they open.  `Node.Numbered` is what that leaves behind
in a tree: the groups of a part fill an interval of numbers from left to right, each group has the
width that is on record for it, and a reference is to a group with a smaller number that is closed
where the reference stands.  Taking common steps out of alternatives keeps all of this, because a
step opens no group.
-/

namespace Marginalia.Pattern

namespace Node

/-- The groups of the pattern are numbered from `lo` on in the order of the text, and the next number
is `hi`.  `W` has the widths of the groups, and the groups with the property `isOpen` are open around
the pattern. -/
def Numbered (W : Nat → Width) : Node → (Nat → Prop) → Nat → Nat → Prop
  | .empty, _, lo, hi => hi = lo
  | .single _, _, lo, hi => hi = lo
  | .anchor _, _, lo, hi => hi = lo
  | .group g body, isOpen, lo, hi =>
    g = lo ∧ body.Numbered W (fun x => x = g ∨ isOpen x) (lo + 1) hi ∧ body.width W = W g
  | .scoped _ _ body, isOpen, lo, hi => body.Numbered W isOpen lo hi
  | .atomic body, isOpen, lo, hi => body.Numbered W isOpen lo hi
  | .rounds _ _ _ body, isOpen, lo, hi => body.Numbered W isOpen lo hi
  | .ahead _ body, isOpen, lo, hi => body.Numbered W isOpen lo hi
  | .behind _ _ body, isOpen, lo, hi => body.Numbered W isOpen lo hi
  | .backref g, isOpen, lo, hi => hi = lo ∧ 0 < g ∧ g < lo ∧ ¬isOpen g
  | .conditional _ yes no, isOpen, lo, hi =>
    ∃ mid, yes.Numbered W isOpen lo mid ∧ no.Numbered W isOpen mid hi
  | .either first second, isOpen, lo, hi =>
    ∃ mid, first.Numbered W isOpen lo mid ∧ second.Numbered W isOpen mid hi
  | .both first second, isOpen, lo, hi =>
    ∃ mid, first.Numbered W isOpen lo mid ∧ second.Numbered W isOpen mid hi

/-- The patterns are numbered one after the other. -/
def AllNumbered (W : Nat → Width) (isOpen : Nat → Prop) : List Node → Nat → Nat → Prop
  | [], lo, hi => hi = lo
  | n :: ns, lo, hi => ∃ mid, n.Numbered W isOpen lo mid ∧ AllNumbered W isOpen ns mid hi

variable {W : Nat → Width} {isOpen : Nat → Prop} {lo hi : Nat}

/-- Numbers do not go down. -/
theorem Numbered.le {n : Node} (h : n.Numbered W isOpen lo hi) : lo ≤ hi := by
  induction n generalizing isOpen lo hi with
  | empty | single _ | anchor _ => exact Nat.le_of_eq h.symm
  | group g body ih => exact Nat.le_of_succ_le (ih h.2.1)
  | «scoped» _ _ body ih => exact ih h
  | atomic body ih => exact ih h
  | rounds _ _ _ body ih => exact ih h
  | ahead _ body ih => exact ih h
  | behind _ _ body ih => exact ih h
  | backref g => exact Nat.le_of_eq h.1.symm
  | conditional g yes no ih₁ ih₂ | either first second ih₁ ih₂ | both first second ih₁ ih₂ =>
    obtain ⟨mid, h₁, h₂⟩ := h
    exact Nat.le_trans (ih₁ h₁) (ih₂ h₂)

/-- The numbers of the groups lie in the interval. -/
theorem Numbered.indexed {n : Node} (h : n.Numbered W isOpen lo hi) :
    n.Indexed (fun g => lo ≤ g ∧ g < hi) fun _ => True := by
  induction n generalizing isOpen lo hi with
  | empty | single _ | anchor _ | backref _ => trivial
  | group g body ih =>
    obtain ⟨rfl, hbody, -⟩ := h
    have hle := hbody.le
    exact ⟨⟨Nat.le_refl _, by omega⟩, (ih hbody).mono (fun x hx => by omega) fun _ => id⟩
  | «scoped» _ _ body ih => exact ih h
  | atomic body ih => exact ih h
  | rounds _ _ _ body ih => exact ih h
  | ahead _ body ih => exact ih h
  | behind _ _ body ih => exact ih h
  | conditional g yes no ih₁ ih₂ =>
    obtain ⟨mid, h₁, h₂⟩ := h
    have := h₁.le
    have := h₂.le
    exact ⟨trivial, (ih₁ h₁).mono (fun x hx => by omega) fun _ => id,
      (ih₂ h₂).mono (fun x hx => by omega) fun _ => id⟩
  | either first second ih₁ ih₂ | both first second ih₁ ih₂ =>
    obtain ⟨mid, h₁, h₂⟩ := h
    have := h₁.le
    have := h₂.le
    exact ⟨(ih₁ h₁).mono (fun x hx => by omega) fun _ => id,
      (ih₂ h₂).mono (fun x hx => by omega) fun _ => id⟩

/-- The width of a part depends on the widths of the groups that are closed around it. -/
theorem Numbered.width_congr {W' : Nat → Width} {n : Node} (h : n.Numbered W isOpen lo hi)
    (hW : ∀ g, 0 < g → g < hi → ¬isOpen g → W' g = W g) : n.width W' = n.width W := by
  induction n generalizing isOpen lo hi with
  | empty | single _ | anchor _ | ahead _ _ _ | behind _ _ _ _ => rfl
  | group g body ih =>
    exact ih h.2.1 fun x h0 hx hopen => hW x h0 hx fun hx' => hopen (.inr hx')
  | «scoped» _ _ body ih => exact ih h hW
  | atomic body ih => exact ih h hW
  | rounds _ _ _ body ih => simp only [width, ih h hW]
  | backref g =>
    obtain ⟨rfl, h0, hlt, hopen⟩ := h
    exact hW g h0 hlt hopen
  | conditional g yes no ih₁ ih₂ | either first second ih₁ ih₂ | both first second ih₁ ih₂ =>
    obtain ⟨mid, h₁, h₂⟩ := h
    have hle := h₂.le
    simp only [width, ih₂ h₂ hW, ih₁ h₁ fun x h0 hx => hW x h0 (by omega)]

/-! ## Lists -/

/-- Nodes one after the other are numbered so. -/
theorem allNumbered_append {ns ms : List Node} :
    AllNumbered W isOpen (ns ++ ms) lo hi ↔
      ∃ mid, AllNumbered W isOpen ns lo mid ∧ AllNumbered W isOpen ms mid hi := by
  induction ns generalizing lo with
  | nil => simp [AllNumbered]
  | cons n ns ih =>
    simp only [List.cons_append, AllNumbered, ih]
    constructor
    · rintro ⟨mid, hn, mid', hns, hms⟩
      exact ⟨mid', ⟨mid, hn, hns⟩, hms⟩
    · rintro ⟨mid', ⟨mid, hn, hns⟩, hms⟩
      exact ⟨mid, hn, mid', hns, hms⟩

/-- One node. -/
theorem allNumbered_singleton {n : Node} :
    AllNumbered W isOpen [n] lo hi ↔ n.Numbered W isOpen lo hi := by
  simp [AllNumbered]

/-- A sequence is numbered as its nodes are. -/
theorem numbered_sequence {ns : List Node} :
    (sequence ns).Numbered W isOpen lo hi ↔ AllNumbered W isOpen ns lo hi := by
  induction ns generalizing lo with
  | nil => rfl
  | cons n ns ih =>
    cases ns with
    | nil => exact allNumbered_singleton.symm
    | cons n' ns => simp only [sequence, Numbered, ih, AllNumbered]

/-- The groups of nodes lie between the bounds. -/
theorem AllNumbered.indexed {ns : List Node} (h : AllNumbered W isOpen ns lo hi) :
    ∀ n ∈ ns, n.Indexed (fun g => lo ≤ g ∧ g < hi) fun _ => True :=
  indexed_sequence.mp (numbered_sequence.mpr h).indexed

/-! ## Choices -/

/-- Steps open no group. -/
theorem AllNumbered.eq_of_steps {ns : List Node} (hns : ∀ n ∈ ns, n.IsStep)
    (h : AllNumbered W isOpen ns lo hi) : hi = lo := by
  induction ns generalizing lo with
  | nil => exact h
  | cons n ns ih =>
    obtain ⟨hn, hns⟩ := List.forall_mem_cons.mp hns
    obtain ⟨mid, hfirst, hrest⟩ := h
    have hmid : mid = lo := by
      cases n with
      | single _ | anchor _ => exact hfirst
      | backref _ => exact hfirst.1
      | empty | group _ _ | «scoped» _ _ _ | atomic _ | rounds _ _ _ _ | ahead _ _ | behind _ _ _
      | conditional _ _ _ | either _ _ | both _ _ => exact hn.elim
    exact (ih hns hrest).trans hmid

/-- Setting apart keeps numbers. -/
theorem numbered_setApart {n : Node} :
    n.setApart.Numbered W isOpen lo hi ↔ n.Numbered W isOpen lo hi := by
  unfold setApart
  split <;> rfl

/-- A choice is numbered as its alternatives are. -/
theorem numbered_firstOf {alts : List (List Node)} (hne : alts ≠ [])
    (h : AllNumbered W isOpen alts.flatten lo hi) : (firstOf alts).Numbered W isOpen lo hi := by
  induction alts generalizing lo with
  | nil => exact absurd rfl hne
  | cons ns rest ih =>
    rw [List.flatten_cons] at h
    obtain ⟨mid, hns, hrest⟩ := allNumbered_append.mp h
    cases rest with
    | nil =>
      cases hrest
      exact numbered_setApart.mpr (numbered_sequence.mpr hns)
    | cons ns' rest => exact ⟨mid, numbered_sequence.mpr hns, ih (List.cons_ne_nil _ _) hrest⟩

/-- Without the steps that they all begin with, alternatives are numbered as before. -/
private theorem AllNumbered.dropSteps {steps : List Node} (hsteps : ∀ s ∈ steps, s.IsStep)
    {rests : List (List Node)}
    (h : AllNumbered W isOpen (rests.map (steps ++ ·)).flatten lo hi) :
    AllNumbered W isOpen rests.flatten lo hi := by
  induction rests generalizing lo with
  | nil => exact h
  | cons ns rests ih =>
    rw [List.map_cons, List.flatten_cons, List.append_assoc] at h
    obtain ⟨mid, hfirst, hothers⟩ := allNumbered_append.mp h
    obtain rfl := hfirst.eq_of_steps hsteps
    obtain ⟨mid', hns, hrests⟩ := allNumbered_append.mp hothers
    exact allNumbered_append.mpr ⟨mid', hns, ih hrests⟩

/-- Alternatives that make up a class are steps. -/
private theorem steps_of_classItems? {rests : List (List Node)} {items : List (List ClassItem)}
    (h : rests.mapM classItems? = some items) : ∀ n ∈ rests.flatten, n.IsStep := by
  induction rests generalizing items with
  | nil => simp
  | cons ns rests ih =>
    rw [List.mapM_cons] at h
    obtain ⟨first, hfirst, h⟩ := Option.bind_eq_some_iff.mp h
    obtain ⟨others, hothers, -⟩ := Option.bind_eq_some_iff.mp h
    rw [List.flatten_cons]
    refine List.forall_mem_append.mpr ⟨?_, ih hothers⟩
    unfold classItems? at hfirst
    split at hfirst
    · simp [IsStep]
    · simp [IsStep]
    · cases hfirst

/-- Taking out what alternatives share keeps numbers. -/
theorem numbered_choice {alts : List (List Node)} (h : AllNumbered W isOpen alts.flatten lo hi) :
    AllNumbered W isOpen (choice alts) lo hi := by
  match alts with
  | [] => exact h
  | [ns] => rwa [List.flatten_singleton] at h
  | ns :: o :: others =>
    obtain ⟨hsteps, halts⟩ := commonSteps_spec ns (o :: others) (List.cons_ne_nil o others)
    unfold choice
    dsimp only
    rw [halts] at h
    generalize commonSteps ns (o :: others) = common at hsteps h halts
    obtain ⟨steps, rests⟩ := common
    have hrests : rests ≠ [] := by
      rintro rfl
      cases halts
    have hdropped := AllNumbered.dropSteps hsteps h
    have hfirst : AllNumbered W isOpen steps lo lo := by
      obtain ⟨r, rs, rfl⟩ := List.exists_cons_of_ne_nil hrests
      rw [List.map_cons, List.flatten_cons, List.append_assoc] at h
      obtain ⟨mid, hfirst, -⟩ := allNumbered_append.mp h
      exact hfirst.eq_of_steps hsteps ▸ hfirst
    cases hclass : rests.mapM classItems? with
    | some items =>
      refine allNumbered_append.mpr ⟨lo, hfirst, allNumbered_singleton.mpr ?_⟩
      exact hdropped.eq_of_steps (steps_of_classItems? hclass)
    | none =>
      refine allNumbered_append.mpr ⟨lo, hfirst, allNumbered_singleton.mpr ?_⟩
      exact numbered_firstOf hrests hdropped

end Node

end Marginalia.Pattern
