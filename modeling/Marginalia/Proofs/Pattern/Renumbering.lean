import Marginalia.Pattern.Matching

/-!
# Numbering groups anew

Reading a fragment behind other groups gives its groups higher numbers.  `Node.renumber` is that
change, and `Node.Indexed` says which numbers a pattern uses for its groups and in its references.
Everything that reading does with nodes goes along with it: sequences, choices with their common
first steps taken out, and widths.
-/

namespace Marginalia.Pattern

namespace Node

/-! ## Numbers and how a pattern begins -/

/-- The pattern with its groups numbered anew. -/
@[simp] def renumber (σ : Nat → Nat) : Node → Node
  | .empty => .empty
  | .single s => .single s
  | .anchor a => .anchor a
  | .group g body => .group (σ g) (body.renumber σ)
  | .scoped on off body => .scoped on off (body.renumber σ)
  | .atomic body => .atomic (body.renumber σ)
  | .rounds greed least most body => .rounds greed least most (body.renumber σ)
  | .ahead negated body => .ahead negated (body.renumber σ)
  | .behind negated width body => .behind negated width (body.renumber σ)
  | .backref g => .backref (σ g)
  | .conditional g yes no => .conditional (σ g) (yes.renumber σ) (no.renumber σ)
  | .either first second => .either (first.renumber σ) (second.renumber σ)
  | .both first second => .both (first.renumber σ) (second.renumber σ)

/-- All groups of the pattern have a number with the first property, and all references one with the
second. -/
@[simp] def Indexed (groups references : Nat → Prop) : Node → Prop
  | .empty => True
  | .single _ => True
  | .anchor _ => True
  | .group g body => groups g ∧ body.Indexed groups references
  | .scoped _ _ body => body.Indexed groups references
  | .atomic body => body.Indexed groups references
  | .rounds _ _ _ body => body.Indexed groups references
  | .ahead _ body => body.Indexed groups references
  | .behind _ _ body => body.Indexed groups references
  | .backref g => references g
  | .conditional g yes no =>
    references g ∧ yes.Indexed groups references ∧ no.Indexed groups references
  | .either first second => first.Indexed groups references ∧ second.Indexed groups references
  | .both first second => first.Indexed groups references ∧ second.Indexed groups references

@[simp] theorem renumber_id (n : Node) : n.renumber id = n := by
  induction n <;> simp_all [renumber]

/-- Renumbering twice is renumbering once. -/
theorem renumber_renumber (σ τ : Nat → Nat) (n : Node) :
    (n.renumber σ).renumber τ = n.renumber (τ ∘ σ) := by
  induction n <;> simp_all [renumber]

/-- Groups with a property have what follows from it. -/
theorem Indexed.mono {P P' R R' : Nat → Prop} {n : Node} (h : n.Indexed P R)
    (hP : ∀ g, P g → P' g) (hR : ∀ g, R g → R' g) : n.Indexed P' R' := by
  induction n with
  | empty | single _ | anchor _ => trivial
  | group g body ih => exact ⟨hP g h.1, ih h.2⟩
  | «scoped» _ _ body ih => exact ih h
  | atomic body ih => exact ih h
  | rounds _ _ _ body ih => exact ih h
  | ahead _ body ih => exact ih h
  | behind _ _ body ih => exact ih h
  | backref g => exact hR g h
  | conditional g yes no ih₁ ih₂ => exact ⟨hR g h.1, ih₁ h.2.1, ih₂ h.2.2⟩
  | either first second ih₁ ih₂ => exact ⟨ih₁ h.1, ih₂ h.2⟩
  | both first second ih₁ ih₂ => exact ⟨ih₁ h.1, ih₂ h.2⟩

/-- Only the numbers that occur matter. -/
theorem renumber_congr {P R : Nat → Prop} {σ τ : Nat → Nat} {n : Node} (h : n.Indexed P R)
    (hP : ∀ g, P g → σ g = τ g) (hR : ∀ g, R g → σ g = τ g) : n.renumber σ = n.renumber τ := by
  induction n with
  | empty | single _ | anchor _ => rfl
  | group g body ih => simp [hP g h.1, ih h.2]
  | «scoped» _ _ body ih => simp [ih h]
  | atomic body ih => simp [ih h]
  | rounds _ _ _ body ih => simp [ih h]
  | ahead _ body ih => simp [ih h]
  | behind _ _ body ih => simp [ih h]
  | backref g => simp [hR g h]
  | conditional g yes no ihYes ihNo => simp [hR g h.1, ihYes h.2.1, ihNo h.2.2]
  | either first second ihFirst ihSecond => simp [ihFirst h.1, ihSecond h.2]
  | both first second ihFirst ihSecond => simp [ihFirst h.1, ihSecond h.2]

@[simp] theorem isChoice_renumber (σ : Nat → Nat) (n : Node) :
    (n.renumber σ).isChoice = n.isChoice := by
  cases n <;> rfl

@[simp] theorem lead?_renumber (σ : Nat → Nat) (n : Node) (f : Flags) :
    (n.renumber σ).lead? f = n.lead? f := by
  induction n generalizing f <;> simp_all [renumber, lead?]

@[simp] theorem leadLiteral?_renumber (σ : Nat → Nat) (n : Node) (f : Flags) (next : Option Nat) :
    (n.renumber σ).leadLiteral? f next = n.leadLiteral? f next := by
  simp [leadLiteral?]

@[simp] theorem soleStep?_renumber (σ : Nat → Nat) (n : Node) (f : Flags) :
    (n.renumber σ).soleStep? f = n.soleStep? f := by
  induction n generalizing f <;> simp_all [renumber, soleStep?]

@[simp] theorem renumber_eq_empty (σ : Nat → Nat) (n : Node) :
    n.renumber σ = .empty ↔ n = .empty := by
  cases n <;> simp [renumber]

/-- All numbers are allowed. -/
theorem indexed_of_forall {P R : Nat → Prop} (hP : ∀ g, P g) (hR : ∀ g, R g) (n : Node) :
    n.Indexed P R := by
  induction n <;> simp_all [Indexed]

/-- The new numbers have a property if the old ones go to such numbers. -/
theorem indexed_renumber {P R : Nat → Prop} {σ : Nat → Nat} {n : Node} :
    (n.renumber σ).Indexed P R ↔ n.Indexed (P ∘ σ) (R ∘ σ) := by
  induction n <;> simp_all [renumber, Indexed]

/-! ## Sequences -/

/-- A sequence has the groups of its nodes. -/
theorem indexed_sequence {P R : Nat → Prop} {ns : List Node} :
    (sequence ns).Indexed P R ↔ ∀ n ∈ ns, n.Indexed P R := by
  induction ns with
  | nil => simp [sequence, Indexed]
  | cons n ns ih =>
    cases ns with
    | nil => simp [sequence]
    | cons n' ns => simp only [sequence, Indexed, ih, List.forall_mem_cons]

/-- A sequence is renumbered node by node. -/
theorem renumber_sequence (σ : Nat → Nat) (ns : List Node) :
    (sequence ns).renumber σ = sequence (ns.map (renumber σ)) := by
  induction ns with
  | nil => rfl
  | cons n ns ih =>
    cases ns with
    | nil => rfl
    | cons n' ns => simp only [sequence, renumber, ih, List.map_cons]

/-- The width of a pattern depends on the widths of the groups that it refers to. -/
theorem width_renumber {P R : Nat → Prop} {σ : Nat → Nat} {W W' : Nat → Width}
    (hW : ∀ g, R g → W' (σ g) = W g) {n : Node} (hn : n.Indexed P R) :
    (n.renumber σ).width W' = n.width W := by
  induction n with
  | empty | single _ | anchor _ | ahead _ _ _ | behind _ _ _ _ => rfl
  | group g body ih => exact ih hn.2
  | «scoped» _ _ body ih => exact ih hn
  | atomic body ih => exact ih hn
  | rounds _ _ _ body ih => simp only [renumber, width, ih hn]
  | backref g => exact hW g hn
  | conditional g yes no ih₁ ih₂ => simp only [renumber, width, ih₁ hn.2.1, ih₂ hn.2.2]
  | either first second ih₁ ih₂ => simp only [renumber, width, ih₁ hn.1, ih₂ hn.2]
  | both first second ih₁ ih₂ => simp only [renumber, width, ih₁ hn.1, ih₂ hn.2]

/-! ## Choices -/

/-- A node that is set apart has the same groups. -/
theorem indexed_setApart {P R : Nat → Prop} {n : Node} :
    n.setApart.Indexed P R ↔ n.Indexed P R := by
  unfold setApart
  split <;> rfl

/-- A choice has the groups of its alternatives. -/
theorem indexed_firstOf {P R : Nat → Prop} {alts : List (List Node)}
    (h : ∀ ns ∈ alts, ∀ n ∈ ns, n.Indexed P R) : (firstOf alts).Indexed P R := by
  induction alts with
  | nil => trivial
  | cons ns rest ih =>
    have hns := indexed_sequence.mpr (h ns (List.mem_cons_self ..))
    cases rest with
    | nil => exact indexed_setApart.mpr hns
    | cons ns' rest => exact ⟨hns, ih fun ms hms => h ms (List.mem_cons_of_mem _ hms)⟩

/-- The steps that may be taken out of a choice. -/
def IsStep : Node → Prop
  | .single _ => True
  | .anchor _ => True
  | .backref _ => True
  | _ => False

/-- Steps are the same if they are equal. -/
theorem sameStep_iff {n o : Node} : sameStep n o = true ↔ n.IsStep ∧ n = o := by
  cases n <;> cases o <;> simp [sameStep, IsStep]

/-- All alternatives begin with the steps that are taken out of them. -/
theorem commonSteps_spec (ns : List Node) (others : List (List Node)) (hne : others ≠ []) :
    (∀ s ∈ (commonSteps ns others).1, s.IsStep) ∧
      ns :: others = (commonSteps ns others).2.map ((commonSteps ns others).1 ++ ·) := by
  induction ns generalizing others with
  | nil => simp [commonSteps]
  | cons n ns ih =>
    unfold commonSteps
    split
    · rename_i hall
      have hhead : ∀ o ∈ others, n.IsStep ∧ n :: o.tail = o := by
        intro o ho
        have hstep := List.all_eq_true.mp hall o ho
        cases o with
        | nil => simp at hstep
        | cons a o =>
          obtain ⟨hn, rfl⟩ := sameStep_iff.mp (by simpa using hstep)
          exact ⟨hn, rfl⟩
      obtain ⟨hsteps, hrests⟩ := ih (others.map List.tail) (by simpa using hne)
      refine ⟨List.forall_mem_cons.mpr ⟨?_, hsteps⟩, ?_⟩
      · obtain ⟨o, ho⟩ := List.exists_mem_of_ne_nil others hne
        exact (hhead o ho).1
      · calc (n :: ns) :: others
            = (ns :: others.map List.tail).map (n :: ·) := by
              have hid : others.map ((n :: ·) ∘ List.tail) = others :=
                (List.map_congr_left fun o ho => (hhead o ho).2).trans (List.map_id' others)
              rw [List.map_cons, List.map_map, hid]
          _ = _ := by
              rw [hrests, List.map_map]
              rfl
    · simp

/-- Taking out what alternatives share adds no groups. -/
theorem indexed_choice {P R : Nat → Prop} {alts : List (List Node)}
    (h : ∀ ns ∈ alts, ∀ n ∈ ns, n.Indexed P R) : ∀ n ∈ choice alts, n.Indexed P R := by
  match alts with
  | [] => simp [choice]
  | [ns] => exact h ns (List.mem_singleton_self ns)
  | ns :: o :: others =>
    obtain ⟨-, halts⟩ := commonSteps_spec ns (o :: others) (List.cons_ne_nil o others)
    unfold choice
    dsimp only
    rw [halts] at h
    generalize commonSteps ns (o :: others) = common at h halts
    obtain ⟨steps, rests⟩ := common
    have hrests : ∀ ms ∈ rests, ∀ n ∈ ms, n.Indexed P R := fun ms hms n hn =>
      h _ (List.mem_map_of_mem hms) n (List.mem_append_right _ hn)
    have hsteps : ∀ n ∈ steps, n.Indexed P R := by
      cases rests with
      | nil => cases halts
      | cons r rs => exact fun n hn => h _ (List.mem_cons_self ..) n (List.mem_append_left _ hn)
    cases rests.mapM classItems? with
    | some items =>
      exact List.forall_mem_append.mpr ⟨hsteps, List.forall_mem_singleton.mpr trivial⟩
    | none =>
      exact List.forall_mem_append.mpr
        ⟨hsteps, List.forall_mem_singleton.mpr (indexed_firstOf hrests)⟩

/-- Setting apart does not depend on numbers. -/
theorem renumber_setApart (σ : Nat → Nat) (n : Node) :
    n.setApart.renumber σ = (n.renumber σ).setApart := by
  unfold setApart
  rw [isChoice_renumber]
  split <;> rfl

/-- A choice is renumbered alternative by alternative. -/
theorem renumber_firstOf (σ : Nat → Nat) (alts : List (List Node)) :
    (firstOf alts).renumber σ = firstOf (alts.map (List.map (renumber σ))) := by
  induction alts with
  | nil => rfl
  | cons ns rest ih =>
    cases rest with
    | nil => simp only [firstOf, List.map_cons, List.map_nil, renumber_setApart, renumber_sequence]
    | cons ns' rest => simp only [firstOf, renumber, ih, renumber_sequence, List.map_cons]

@[simp] theorem classItems?_renumber (σ : Nat → Nat) (ns : List Node) :
    classItems? (ns.map (renumber σ)) = classItems? ns := by
  match ns with
  | [] => rfl
  | [n] => cases n <;> rfl
  | n :: n' :: ns => simp [classItems?]

section

variable {P R : Nat → Prop} {σ : Nat → Nat} (hσ : ∀ g g', R g → R g' → σ g = σ g' → g = g')
include hσ

/-- Numbers that stay apart keep references apart. -/
theorem sameStep_renumber {n o : Node} (hn : n.Indexed P R) (ho : o.Indexed P R) :
    sameStep (n.renumber σ) (o.renumber σ) = sameStep n o := by
  cases n <;> cases o <;> try rfl
  rename_i g g'
  by_cases h : g = g'
  · subst h
    simp [renumber, sameStep]
  · have hne : σ g ≠ σ g' := fun heq => h (hσ g g' hn ho heq)
    exact (beq_false_of_ne hne).trans (beq_false_of_ne h).symm

/-- What alternatives share does not depend on numbers. -/
theorem commonSteps_renumber {ns : List Node} {others : List (List Node)}
    (hns : ∀ n ∈ ns, n.Indexed P R) (hothers : ∀ o ∈ others, ∀ n ∈ o, n.Indexed P R) :
    commonSteps (ns.map (renumber σ)) (others.map (List.map (renumber σ)))
      = ((commonSteps ns others).1.map (renumber σ),
          (commonSteps ns others).2.map (List.map (renumber σ))) := by
  induction ns generalizing others with
  | nil => rfl
  | cons n ns ih =>
    obtain ⟨hn, hns⟩ := List.forall_mem_cons.mp hns
    -- Steps that are the same stay so, and others do not become the same.
    have hall : (others.map (List.map (renumber σ))).all
          (fun o => o.head?.any (sameStep (n.renumber σ) ·))
        = others.all fun o => o.head?.any (sameStep n ·) := by
      rw [List.all_map, Bool.eq_iff_iff, List.all_eq_true, List.all_eq_true]
      refine forall₂_congr fun o ho => ?_
      cases o with
      | nil => rfl
      | cons a o =>
        have hstep := sameStep_renumber hσ hn (hothers _ ho a (List.mem_cons_self ..))
        exact Bool.eq_iff_iff.mp hstep
    have htails : (others.map (List.map (renumber σ))).map List.tail
        = (others.map List.tail).map (List.map (renumber σ)) := by
      simp [List.map_map, Function.comp_def]
    have htail : ∀ o ∈ others.map List.tail, ∀ n ∈ o, n.Indexed P R := by
      intro o ho m hm
      obtain ⟨o', ho', rfl⟩ := List.mem_map.mp ho
      exact hothers o' ho' m (List.mem_of_mem_tail hm)
    rw [List.map_cons, commonSteps, commonSteps, hall]
    split
    · rw [htails, ih hns htail]
      rfl
    · rfl

/-- Reading alternatives goes along with numbering groups anew. -/
theorem renumber_choice {alts : List (List Node)} (h : ∀ ns ∈ alts, ∀ n ∈ ns, n.Indexed P R) :
    choice (alts.map (List.map (renumber σ))) = (choice alts).map (renumber σ) := by
  match alts with
  | [] => rfl
  | [ns] => rfl
  | ns :: o :: others =>
    obtain ⟨hns, hothers⟩ := List.forall_mem_cons.mp h
    have hcommon := commonSteps_renumber hσ hns hothers
    rw [List.map_cons] at hcommon
    have hclasses : ((commonSteps ns (o :: others)).2.map (List.map (renumber σ))).mapM classItems?
        = (commonSteps ns (o :: others)).2.mapM classItems? := by
      rw [List.mapM_map]
      exact congrArg (List.mapM · _) (funext (classItems?_renumber σ))
    simp only [List.map_cons, choice, hcommon, hclasses]
    split
    · simp [renumber]
    · simp [renumber_firstOf]

end

end Node

end Marginalia.Pattern
