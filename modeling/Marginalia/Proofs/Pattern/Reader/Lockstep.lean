import Marginalia.Proofs.Pattern.Reader.Numbering

/-!
# A fragment read in two places

The left reader reads a fragment on its own, the right one the same fragment inside a longer text.
If both succeed they go in lockstep: the right reader comes to the end of the fragment just where the
left one does, so that nothing in a fragment can reach beyond it.

What the two trees have in common depends on the references in the fragment.  A reference by name
goes along with the fragment; one by number does not.  A left reader that starts behind ninety-nine
open groups refuses every reference by number, because a number has at most two digits and then is
that of an open group.  In such an `exact` setting the right tree is the left one with its groups
numbered anew.  The first of the groups may be closed, if the first group on the right is closed too
and has the same width; then references to the number one are allowed, and stay as they are.
-/

namespace Marginalia.Pattern.Reader

/-- Where the right reader finds the fragment: what follows it, and the groups and names before it.
An exact setting has the left reader start behind as many groups as a reference by number can reach,
all of them open except the first, which may have the width of the first group on the right. -/
structure Setting where
  tail : List (Char × Bool)
  delimits : Delimits tail
  first : Option Width
  groups : List (Option Width)
  names : List (String × Nat)
  exact : Bool
  closed : ∀ w, first = some w → groups.head? = some (some w)

namespace Setting

/-- The number of groups before the left reader. -/
def opened : Nat := 99

/-- The groups before the left reader. -/
def ahead (first : Option Width) : List (Option Width) := first :: List.replicate (opened - 1) none

/-- There are as many groups before the left reader as references reach. -/
theorem length_ahead (first : Option Width) : (ahead first).length = opened := by
  rw [ahead, List.length_cons, List.length_replicate]
  rfl

/-- A number behind other groups: numbers of groups before the fragment stay, and those of its own
groups come behind `before` groups. -/
def renumbering (before g : Nat) : Nat := if g ≤ opened then g else g - opened + before

/-- The number on the right of a group that the left reader numbers. -/
def shift (S : Setting) : Nat → Nat := renumbering S.groups.length

/-- Groups that the left reader has numbered itself. -/
abbrev Own (g : Nat) : Prop := opened < g

/-- Groups to which the left reader can refer: its own, and the first one if that is closed. -/
def Refers (S : Setting) (g : Nat) : Prop := Own g ∨ (g = 1 ∧ S.first.isSome = true)

/-- A group of the fragment comes behind those on the right. -/
theorem shift_own (S : Setting) {g : Nat} (hg : Own g) :
    S.shift g = g - opened + S.groups.length := if_neg (Nat.not_le.mpr hg)

/-- The first group stays the first. -/
theorem renumbering_one (before : Nat) : renumbering before 1 = 1 := if_pos (by decide)

/-- It does so in every setting. -/
theorem shift_one (S : Setting) : S.shift 1 = 1 := renumbering_one _

/-- With a width for the first group there is a first group. -/
theorem length_pos (S : Setting) (h : S.first.isSome = true) : 0 < S.groups.length := by
  obtain ⟨w, hw⟩ := Option.isSome_iff_exists.mp h
  have hhead := S.closed w hw
  cases hgroups : S.groups with
  | nil =>
    rw [hgroups] at hhead
    cases hhead
  | cons _ _ => exact Nat.succ_pos _

/-- No two groups get the same number. -/
theorem shift_injective (S : Setting) {g g' : Nat} (hg : S.Refers g) (hg' : S.Refers g')
    (h : S.shift g = S.shift g') : g = g' := by
  rcases hg with hg | ⟨rfl, hfirst⟩ <;> rcases hg' with hg' | ⟨rfl, hfirst'⟩
  · rw [S.shift_own hg, S.shift_own hg'] at h
    unfold Own at hg hg'
    omega
  · have hpos := S.length_pos hfirst'
    rw [S.shift_own hg, S.shift_one] at h
    unfold Own at hg
    omega
  · have hpos := S.length_pos hfirst
    rw [S.shift_own hg', S.shift_one] at h
    unfold Own at hg'
    omega
  · rfl

/-- The right nodes are the left ones, numbered anew. -/
def Nodes (S : Setting) (ns ns' : List Node) : Prop :=
  S.exact = true → ns' = ns.map (Node.renumber S.shift) ∧ ∀ n ∈ ns, n.Indexed Own S.Refers

/-- The right alternatives are the left ones, numbered anew. -/
def Alternatives (S : Setting) (alts alts' : List (List Node)) : Prop :=
  S.exact = true → alts' = alts.map (List.map (Node.renumber S.shift)) ∧
    ∀ ns ∈ alts, ∀ n ∈ ns, n.Indexed Own S.Refers

end Setting

/-- The readers stand at the same token of the fragment. -/
structure Twin (S : Setting) (A B : Reader) : Prop where
  rest : B.rest.map Token.face = A.rest.map Token.face ++ S.tail
  left : A.globals = []
  right : B.globals = []
  groups : S.exact = true → ∃ gs, A.groups = Setting.ahead S.first ++ gs ∧
    B.groups = S.groups ++ gs
  names : S.exact = true → B.names = S.names ++ A.names.map (fun e => (e.1, S.shift e.2)) ∧
    ∀ e ∈ A.names, Setting.Own e.2 ∧ S.names.lookup e.1 = none

variable {S : Setting} {A B : Reader}

namespace Twin

/-- Twins are side by side. -/
theorem beside (h : Twin S A B) : Beside S.tail A B A B := ⟨h.rest, .refl A, .refl B⟩

/-- Moving on side by side keeps twins. -/
theorem of_beside {A' B' : Reader} (h : Twin S A B) (h' : Beside S.tail A B A' B') :
    Twin S A' B' where
  rest := h'.rest
  left := h'.left.globals.trans h.left
  right := h'.right.globals.trans h.right
  groups he := by
    rw [h'.left.groups, h'.right.groups]
    exact h.groups he
  names he := by
    rw [h'.left.names, h'.right.names]
    exact h.names he

/-- Of the groups before the fragment only the first can be closed on the left. -/
theorem refers_of_isClosed (h : Twin S A B) (he : S.exact = true) {g : Nat}
    (hg : g ≤ Setting.opened) (hclosed : A.isClosed g = true) :
    S.shift g = g ∧ S.Refers g := by
  obtain ⟨gs, hA, -⟩ := h.groups he
  match g with
  | 0 => cases hclosed
  | 1 =>
    unfold isClosed at hclosed
    rw [hA] at hclosed
    exact ⟨S.shift_one, .inr ⟨rfl, hclosed⟩⟩
  | g + 2 =>
    unfold isClosed at hclosed
    dsimp only at hclosed
    have hlt : g + 1 < (Setting.ahead S.first).length := by
      rw [Setting.length_ahead]
      omega
    have hnone : (Setting.ahead S.first)[g + 1]? = some none := by
      unfold Setting.opened at hg
      rw [Setting.ahead, List.getElem?_cons_succ,
        List.getElem?_replicate_of_lt (by unfold Setting.opened; omega)]
    rw [hA, List.getElem?_append_left hlt, hnone] at hclosed
    cases hclosed

/-- A group has the same width on both sides. -/
theorem widthOf_shift (h : Twin S A B) (he : S.exact = true) {g : Nat} (hg : S.Refers g) :
    B.widthOf (S.shift g) = A.widthOf g := by
  obtain ⟨gs, hA, hB⟩ := h.groups he
  rcases hg with hg | ⟨rfl, hfirst⟩
  · have hlength := Setting.length_ahead S.first
    have hshift := S.shift_own hg
    unfold Setting.Own at hg
    obtain ⟨i, rfl⟩ : ∃ i, g = Setting.opened + i + 1 := ⟨g - Setting.opened - 1, by omega⟩
    have hshift : S.shift (Setting.opened + i + 1) = S.groups.length + i + 1 := by omega
    have hi : Setting.opened + i - (Setting.ahead S.first).length = i := by omega
    rw [hshift]
    unfold widthOf
    dsimp only
    rw [hA, hB, List.getElem?_append_right (by omega), Nat.add_sub_cancel_left,
      List.getElem?_append_right (by omega), hi]
  · obtain ⟨w, hw⟩ := Option.isSome_iff_exists.mp hfirst
    have hhead := S.closed w hw
    cases hgroups : S.groups with
    | nil =>
      rw [hgroups] at hhead
      cases hhead
    | cons first groups =>
      rw [hgroups] at hhead hB
      cases hhead
      rw [S.shift_one]
      unfold widthOf
      dsimp only
      rw [hA, hB, Setting.ahead, hw]
      rfl

/-- Nodes that differ in their numbers only have the same width. -/
theorem width_eq (h : Twin S A B) (he : S.exact = true) {n : Node}
    (hn : n.Indexed Setting.Own S.Refers) :
    (n.renumber S.shift).width B.widthOf = n.width A.widthOf :=
  Node.width_renumber (fun _ hg => h.widthOf_shift he hg) hn

/-- Twins stay so in a lookbehind. -/
theorem withFloor (h : Twin S A B) (floor floor' : Option Nat) :
    Twin S { A with floor } { B with floor := floor' } :=
  ⟨h.rest, h.left, h.right, h.groups, h.names⟩

end Twin

/-! ## Parts of a sequence -/

/-- A part of a sequence with its groups numbered anew. -/
def Piece.renumber (σ : Nat → Nat) : Piece → Piece
  | .node n => .node (n.renumber σ)
  | .plain ns => .plain (ns.map (Node.renumber σ))

/-- Pieces are renumbered node by node. -/
theorem Piece.nodes_renumber (σ : Nat → Nat) (ps : List Piece) :
    Piece.nodes (ps.map (Piece.renumber σ)) = (Piece.nodes ps).map (Node.renumber σ) := by
  induction ps with
  | nil => rfl
  | cons p ps ih => cases p <;> simp [Piece.nodes, Piece.renumber, ih]

/-- The right parts are the left ones, numbered anew. -/
def Setting.Pieces (S : Setting) (ps ps' : List Piece) : Prop :=
  S.exact = true → ps' = ps.map (Piece.renumber S.shift) ∧
    ∀ n ∈ Piece.nodes ps, n.Indexed Setting.Own S.Refers

namespace Setting

/-- Pieces that are alike have nodes that are alike. -/
theorem Pieces.nodes {ps ps' : List Piece} (h : S.Pieces ps ps') :
    S.Nodes (Piece.nodes ps) (Piece.nodes ps') := by
  intro he
  obtain ⟨rfl, hindexed⟩ := h he
  exact ⟨Piece.nodes_renumber _ _, hindexed⟩

theorem Pieces.nil (S : Setting) : S.Pieces [] [] := fun _ => ⟨rfl, by simp [Piece.nodes]⟩

/-- Pieces one after the other. -/
theorem Pieces.append {ps ps' qs qs' : List Piece} (h : S.Pieces ps ps')
    (h' : S.Pieces qs qs') : S.Pieces (ps ++ qs) (ps' ++ qs') := by
  intro he
  obtain ⟨rfl, hps⟩ := h he
  obtain ⟨rfl, hqs⟩ := h' he
  rw [Piece.nodes_append]
  exact ⟨List.map_append.symm, List.forall_mem_append.mpr ⟨hps, hqs⟩⟩

/-- A single node as a piece. -/
theorem Pieces.node {n n' : Node}
    (h : S.exact = true → n' = n.renumber S.shift ∧ n.Indexed Own S.Refers) :
    S.Pieces [.node n] [.node n'] := by
  intro he
  obtain ⟨rfl, hn⟩ := h he
  exact ⟨rfl, List.forall_mem_singleton.mpr hn⟩

/-- Nodes without groups, and with no references but to the first one, are the same on both sides. -/
theorem Pieces.same {n : Node} (hn : n.IsStep)
    (hrefers : S.exact = true → ∀ g, n = .backref g → S.shift g = g ∧ S.Refers g) :
    S.Pieces [.node n] [.node n] := by
  refine .node fun he => ?_
  cases n with
  | single _ | anchor _ => exact ⟨rfl, trivial⟩
  | backref g =>
    obtain ⟨hshift, hg⟩ := hrefers he g rfl
    exact ⟨congrArg Node.backref hshift.symm, hg⟩
  | empty | group _ _ | «scoped» _ _ _ | atomic _ | rounds _ _ _ _ | ahead _ _ | behind _ _ _
  | conditional _ _ _ | either _ _ | both _ _ => exact hn.elim

theorem Alternatives.nil (S : Setting) : S.Alternatives [] [] := fun _ => ⟨rfl, by simp⟩

/-- One alternative. -/
theorem Alternatives.single {ns ns' : List Node} (h : S.Nodes ns ns') :
    S.Alternatives [ns] [ns'] := by
  intro he
  obtain ⟨rfl, hns⟩ := h he
  exact ⟨rfl, List.forall_mem_singleton.mpr hns⟩

/-- Alternatives one after the other. -/
theorem Alternatives.append {alts alts' more more' : List (List Node)}
    (h : S.Alternatives alts alts') (h' : S.Alternatives more more') :
    S.Alternatives (alts ++ more) (alts' ++ more') := by
  intro he
  obtain ⟨rfl, halts⟩ := h he
  obtain ⟨rfl, hmore⟩ := h' he
  exact ⟨List.map_append.symm, List.forall_mem_append.mpr ⟨halts, hmore⟩⟩

/-- The choice between alternatives that are alike. -/
theorem Alternatives.choice {alts alts' : List (List Node)} (h : S.Alternatives alts alts') :
    S.Nodes (Node.choice alts) (Node.choice alts') := by
  intro he
  obtain ⟨rfl, hindexed⟩ := h he
  rw [Node.renumber_choice (fun _ _ => S.shift_injective) hindexed]
  exact ⟨rfl, Node.indexed_choice hindexed⟩

/-- Nodes that are alike as one node. -/
theorem Nodes.sequence {ns ns' : List Node} (h : S.Nodes ns ns') (he : S.exact = true) :
    Node.sequence ns' = (Node.sequence ns).renumber S.shift ∧
      (Node.sequence ns).Indexed Own S.Refers := by
  obtain ⟨rfl, hindexed⟩ := h he
  exact ⟨(Node.renumber_sequence _ _).symm, Node.indexed_sequence.mpr hindexed⟩

end Setting

/-- What can be repeated does not depend on numbers. -/
private theorem body?_renumber (σ : Nat → Nat) (p : Option Piece) :
    Piece.body? (p.map (Piece.renumber σ)) = (Piece.body? p).map (Node.renumber σ) := by
  cases p with
  | none => rfl
  | some p =>
    cases p with
    | node n => cases n <;> rfl
    | plain ns => simp [Piece.renumber, Piece.body?, Except.map, Node.renumber_sequence]

/-- The groups in a body are those of its piece. -/
private theorem indexed_body? {P R : Nat → Prop} {p : Piece} {body : Node}
    (hbody : Piece.body? (some p) = .ok body) (h : ∀ n ∈ Piece.nodes [p], n.Indexed P R) :
    body.Indexed P R := by
  unfold Piece.body? at hbody
  split at hbody
  · cases hbody
  · cases hbody
  · cases hbody
  · rename_i n _ _ heq
    cases heq
    cases hbody
    exact List.forall_mem_singleton.mp h
  · rename_i ns heq
    cases heq
    cases hbody
    rw [Piece.nodes, Piece.nodes, List.append_nil] at h
    exact Node.indexed_sequence.mpr h

/-- Both readers repeat the last node, or one of them fails. -/
theorem repeated_twin (h : Twin S A B) (t : Token) (p : Nat) {done done' : List Piece}
    (hdone : S.Pieces done done') :
    Both (repeated t done A) (repeated { t with position := p } done' B) fun x y =>
      S.Pieces x.1 y.1 ∧ Twin S x.2 y.2 := by
  simp only [repeated]
  refine (repeatBounds_both S.delimits t.char h.beside).bind ?_
  rintro ⟨found, A₁⟩ ⟨_, B₁⟩ ⟨rfl, h₁⟩
  cases found with
  | none =>
    refine .pure ⟨hdone.append (.same trivial fun _ _ h => by cases h), h.of_beside h₁⟩
  | some bounds =>
    dsimp only
    cases hbody : Piece.body? done.getLast? with
    | error f => exact .throw_left
    | ok body =>
      cases hbody' : Piece.body? done'.getLast? with
      | error f => exact .throw_right
      | ok body' =>
        refine (greed_both S.delimits h₁).bind ?_
        rintro ⟨greed, A₂⟩ ⟨_, B₂⟩ ⟨rfl, h₂⟩
        refine .pure ⟨fun he => ?_, h.of_beside h₂⟩
        obtain ⟨rfl, hindexed⟩ := hdone he
        obtain ⟨before, last, rfl⟩ : ∃ before last, done = before ++ [last] := by
          cases hlast : done.getLast? with
          | none =>
            rw [hlast] at hbody
            cases hbody
          | some last =>
            obtain ⟨before, rfl⟩ := List.getLast?_eq_some_iff.mp hlast
            exact ⟨before, last, rfl⟩
        -- Both readers repeat the same body, renumbered.
        rw [List.getLast?_map, body?_renumber, hbody] at hbody'
        cases hbody'
        rw [Piece.nodes_append] at hindexed
        obtain ⟨hbefore, hlast⟩ := List.forall_mem_append.mp hindexed
        rw [List.getLast?_concat] at hbody
        rw [List.map_append, List.map_singleton, List.dropLast_concat, List.dropLast_concat,
          Piece.nodes_append]
        refine ⟨by simp [Piece.renumber, Node.renumber],
          List.forall_mem_append.mpr ⟨hbefore, ?_⟩⟩
        have hbody : body.Indexed Setting.Own S.Refers := indexed_body? hbody hlast
        exact List.forall_mem_singleton.mpr hbody

/-- An escape is the same on both sides, and in an exact setting no reference but to the first
group. -/
theorem escape_twin (h : Twin S A B) (t : Token) (p : Nat) :
    Both (escape t A) (escape { t with position := p } B) fun x y =>
      S.Pieces [.node x.1] [.node y.1] ∧ Twin S x.2 y.2 := by
  rintro ⟨n, A'⟩ ⟨n', B'⟩ hA hB
  obtain ⟨hn, hbeside⟩ := escape_both S.delimits h.beside t p _ _ hA hB
  dsimp only at hn
  subst hn
  obtain ⟨-, hescaped⟩ := escape_ok hA
  refine ⟨.same hescaped.step fun he g hg => ?_, h.of_beside hbeside⟩
  obtain ⟨hle, hclosed⟩ := hescaped.closed hg
  exact h.refers_of_isClosed he hle hclosed

/-! ## References by name -/

/-- Looking up a name among renumbered groups. -/
private theorem lookup_map_snd (σ : Nat → Nat) (names : List (String × Nat)) (n : String) :
    (names.map fun e => (e.1, σ e.2)).lookup n = (names.lookup n).map σ := by
  induction names with
  | nil => rfl
  | cons e names ih =>
    obtain ⟨name, g⟩ := e
    cases h : n == name <;> simp [List.lookup_cons, h, ih]

/-- Both readers find the same group by its name. -/
theorem groupNamed_twin (h : Twin S A B) (cs : List Char) :
    Both (groupNamed cs A) (groupNamed cs B) fun g g' =>
      S.exact = true → g' = S.shift g ∧ Setting.Own g := by
  intro g g' hA hB he
  obtain ⟨hnames, hown⟩ := h.names he
  have hlookup : ∀ {r : Reader} {g : Nat}, groupNamed cs r = .ok g →
      r.names.lookup (String.ofList cs) = some g := by
    intro r g hr
    unfold groupNamed at hr
    split at hr
    · cases hr
      assumption
    · cases hr
  have hleft := hlookup hA
  have hright := hlookup hB
  obtain ⟨before, after, hsplit, -⟩ := List.lookup_eq_some_iff.mp hleft
  obtain ⟨hg, hfree⟩ := hown (String.ofList cs, g) (by rw [hsplit]; simp)
  rw [hnames, List.lookup_append, hfree, Option.none_or, lookup_map_snd, hleft] at hright
  cases hright
  exact ⟨rfl, hg⟩

/-! ## Openings of groups -/

/-- An opening with the group that it refers to numbered anew. -/
def Opening.renumber (σ : Nat → Nat) : Opening → Opening
  | .conditional g => .conditional (σ g)
  | .reference g => .reference (σ g)
  | o => o

/-- The group that an opening refers to. -/
def Opening.group? : Opening → Option Nat
  | .conditional g => some g
  | .reference g => some g
  | _ => none

/-- The openings are of the same kind, and the right one refers to what the left one refers to. -/
structure Setting.Opened (S : Setting) (o o' : Opening) : Prop where
  kind : o'.renumber (fun _ => 0) = o.renumber fun _ => 0
  exact : S.exact = true → o' = o.renumber S.shift ∧ ∀ g ∈ o.group?, Setting.Own g

/-- An opening without a group is the same on both sides. -/
theorem Setting.Opened.same (S : Setting) {o : Opening} (h : o.group? = none) : S.Opened o o := by
  refine ⟨rfl, fun _ => ⟨?_, fun g hg => ?_⟩⟩
  · cases o with
    | conditional g => cases h
    | reference g => cases h
    | capture _ | plain | atomic | «scoped» _ _ | ahead _ | behind _ | comment | globals => rfl
  · rw [h] at hg
    cases hg

/-- An opening that refers to no group is the same on both sides. -/
private theorem Setting.Opened.eq {o o' : Opening} (h : S.Opened o o') (ho : o.group? = none) :
    o' = o := by
  have hkind := h.kind
  cases o <;> cases ho <;> cases o' <;> cases hkind <;> rfl

/-- Both readers refer to the same group. -/
private theorem namedReference_twin (h : Twin S A B) :
    Both A.namedReference B.namedReference fun x y => S.Opened x.1 y.1 ∧ Twin S x.2 y.2 := by
  simp only [namedReference, throw_bind]
  refine (name_both ')' "group name" h.beside).bind ?_
  rintro ⟨cs, A₁⟩ ⟨_, B₁⟩ ⟨rfl, h₁⟩
  have htwin := h.of_beside h₁
  have hcheck : ∀ {r r' : Reader}, Both (checkName cs r) (checkName cs r') fun _ _ => True :=
    fun _ _ _ _ => trivial
  refine hcheck.bind fun _ _ _ => ?_
  refine (groupNamed_twin htwin cs).bind fun g g' hg => ?_
  intro x y hx hy
  obtain ⟨-, hx⟩ | ⟨-, hx⟩ := ite_eq_iff.mp hx
  · cases hx
  obtain ⟨-, hy⟩ | ⟨-, hy⟩ := ite_eq_iff.mp hy
  · cases hy
  obtain ⟨_, -, hx⟩ := bind_eq_ok.mp hx
  obtain ⟨_, -, hy⟩ := bind_eq_ok.mp hy
  cases hx
  cases hy
  refine ⟨⟨rfl, fun he => ?_⟩, htwin⟩
  obtain ⟨rfl, hown⟩ := hg he
  refine ⟨rfl, ?_⟩
  rintro g₁ ⟨⟩
  exact hown

/-- A condition by name tests the same group on both sides; one by number is noted on the left. -/
private theorem condition_twin (h : Twin S A B) :
    Both A.condition B.condition fun x y =>
      (S.exact = true → x.2.tested = []) → S.Opened x.1 y.1 ∧ Twin S x.2 y.2 := by
  simp only [condition]
  refine (name_both ')' "group name" h.beside).bind ?_
  rintro ⟨cs, A₁⟩ ⟨_, B₁⟩ ⟨rfl, h₁⟩
  have htwin := h.of_beside h₁
  have hgroup : Both (conditionGroup cs A₁) (conditionGroup cs B₁) fun x y =>
      (S.exact = true → x.2.tested = []) →
        (S.exact = true → y.1 = S.shift x.1 ∧ Setting.Own x.1) ∧ Twin S x.2 y.2 := by
    unfold conditionGroup
    refine Both.ite Iff.rfl (fun _ => ?_) fun _ => ?_
    · exact (groupNamed_twin htwin cs).map fun g g' hg _ => ⟨hg, htwin⟩
    · rintro ⟨g, A₂⟩ ⟨g', B₂⟩ hA hB htested
      obtain ⟨tested, warnings, hne, rfl⟩ := conditionNumber_ok hA
      obtain ⟨tested', warnings', -, rfl⟩ := conditionNumber_ok hB
      have hexact : ¬S.exact = true := fun he => hne (htested he)
      exact ⟨fun he => absurd he hexact,
        ⟨htwin.rest, htwin.left, htwin.right, htwin.groups, htwin.names⟩⟩
  refine hgroup.bind ?_
  rintro ⟨g, A₂⟩ ⟨g', B₂⟩ hg x y hx hy htested
  obtain ⟨_, -, hx⟩ := bind_eq_ok.mp hx
  obtain ⟨_, -, hy⟩ := bind_eq_ok.mp hy
  cases hx
  cases hy
  obtain ⟨hg, htwin₂⟩ := hg htested
  refine ⟨⟨rfl, fun he => ?_⟩, htwin₂⟩
  obtain ⟨hshift, hown⟩ := hg he
  refine ⟨congrArg Opening.conditional hshift, ?_⟩
  rintro g₁ ⟨⟩
  exact hown

/-- Both readers read the same form that begins with the letter P. -/
private theorem namedForm_twin (h : Twin S A B) :
    Both A.namedForm B.namedForm fun x y => S.Opened x.1 y.1 ∧ Twin S x.2 y.2 := by
  simp only [namedForm]
  refine (accept_both S.delimits h.beside ⟨rfl, rfl⟩).bind ?_
  rintro ⟨named, A₁⟩ ⟨_, B₁⟩ ⟨rfl, h₁⟩
  refine Both.ite Iff.rfl (fun _ => ?_) fun _ => ?_
  · refine (name_both '>' "group name" h₁).bind ?_
    rintro ⟨cs, A₂⟩ ⟨_, B₂⟩ ⟨rfl, h₂⟩
    intro x y hx hy
    obtain ⟨_, -, hx⟩ := bind_eq_ok.mp hx
    obtain ⟨_, -, hy⟩ := bind_eq_ok.mp hy
    cases hx
    cases hy
    exact ⟨.same S rfl, h.of_beside h₂⟩
  · refine (accept_both S.delimits h₁ ⟨rfl, rfl⟩).bind ?_
    rintro ⟨refers, A₂⟩ ⟨_, B₂⟩ ⟨rfl, h₂⟩
    refine Both.ite Iff.rfl (fun _ => namedReference_twin (h.of_beside h₂)) fun _ => ?_
    exact (take_both h₂).bind fun _ _ _ => .throw_left

/-- The openings of a group on both sides; only global flags set the readers apart. -/
theorem opening_twin (h : Twin S A B) (start start' : Nat) :
    Both (opening start A) (opening start' B) fun x y =>
      (x.1 = .globals ∧ y.1 = .globals) ∨
        ((S.exact = true → x.2.tested = []) → S.Opened x.1 y.1 ∧ Twin S x.2 y.2) := by
  simp only [opening, throw_bind]
  refine (accept_both S.delimits h.beside ⟨rfl, rfl⟩).bind ?_
  rintro ⟨extended, A₁⟩ ⟨_, B₁⟩ ⟨rfl, h₁⟩
  -- An opening that refers to no group.
  have plain : ∀ {o : Opening} {A' B' : Reader}, o.group? = none → Beside S.tail A B A' B' →
      (S.exact = true → A'.tested = []) → S.Opened o o ∧ Twin S A' B' :=
    fun ho hbeside _ => ⟨.same S ho, h.of_beside hbeside⟩
  refine Both.ite Iff.rfl (fun _ => .pure (.inr (plain rfl h₁))) fun _ => ?_
  refine (take_both h₁).bind ?_
  rintro ⟨t, A₂⟩ ⟨_, B₂⟩ ⟨p, rfl, h₂⟩
  refine Both.ite Iff.rfl (fun _ => .throw_left) fun _ => ?_
  dsimp only
  split
  · exact fun x y hx hy => .inr fun _ => namedForm_twin (h.of_beside h₂) x y hx hy
  · exact .pure (.inr (plain rfl h₂))
  · refine (skipComment_both _ _ _ _ h₂).bind fun A₃ B₃ h₃ => ?_
    exact .pure (.inr (plain rfl h₃))
  · exact .pure (.inr (plain rfl h₂))
  · exact .pure (.inr (plain rfl h₂))
  · rintro ⟨o, A₃⟩ ⟨o', B₃⟩ hA hB
    obtain ⟨rfl, h₃⟩ := lookbehind_both h₂ _ _ hA hB
    refine .inr (plain ?_ h₃)
    simp only [lookbehind] at hA
    obtain ⟨⟨u, r⟩, -, hA⟩ := bind_eq_ok.mp hA
    obtain ⟨-, hA⟩ | ⟨-, hA⟩ := ite_eq_iff.mp hA
    · cases hA
      rfl
    obtain ⟨-, hA⟩ | ⟨-, hA⟩ := ite_eq_iff.mp hA
    · cases hA
      rfl
    · cases hA
  · exact fun x y hx hy => .inr (condition_twin (h.of_beside h₂) x y hx hy)
  · exact .pure (.inr (plain rfl h₂))
  · refine Both.ite Iff.rfl (fun _ => ?_) fun _ => .throw_left
    refine (flags_both t.char h₂).bind ?_
    rintro ⟨scope, A₃⟩ ⟨_, B₃⟩ ⟨rfl, -, h₃⟩
    cases scope with
    | none => exact .pure (.inl ⟨rfl, rfl⟩)
    | some scope => exact .pure (.inr (plain rfl (h₃ (Option.some_ne_none _))))

/-! ## Opening and closing a group -/

/-- The next groups are the same. -/
private theorem Twin.nextGroup (h : Twin S A B) (he : S.exact = true) :
    B.nextGroup = S.shift A.nextGroup ∧ Setting.Own A.nextGroup := by
  obtain ⟨gs, hA, hB⟩ := h.groups he
  have hown : Setting.Own A.nextGroup := by
    unfold Reader.nextGroup
    rw [hA, List.length_append, Setting.length_ahead]
    omega
  refine ⟨?_, hown⟩
  rw [S.shift_own hown]
  unfold Reader.nextGroup
  rw [hA, hB, List.length_append, List.length_append, Setting.length_ahead]
  omega

/-- An open group comes behind the others on both sides. -/
private theorem Twin.openGroups (h : Twin S A B) (he : S.exact = true) :
    ∃ gs, A.groups ++ [none] = Setting.ahead S.first ++ gs ∧
      B.groups ++ [none] = S.groups ++ gs := by
  obtain ⟨gs, hA, hB⟩ := h.groups he
  exact ⟨gs ++ [none], by rw [hA, List.append_assoc], by rw [hB, List.append_assoc]⟩

/-- Both readers open the same group. -/
theorem openGroup_twin (h : Twin S A B) (name : Option (List Char)) :
    Both (A.openGroup name) (B.openGroup name) fun x y =>
      (S.exact = true → y.1 = S.shift x.1 ∧ Setting.Own x.1) ∧ Twin S x.2 y.2 := by
  unfold openGroup
  dsimp only
  cases name with
  | none => exact .ok ⟨h.nextGroup, ⟨h.rest, h.left, h.right, h.openGroups, h.names⟩⟩
  | some cs =>
    dsimp only
    cases hA : A.names.lookup (String.ofList cs) with
    | some earlier => exact .error_left
    | none =>
      cases hB : B.names.lookup (String.ofList cs) with
      | some earlier => exact .error_right
      | none =>
        refine .ok ⟨h.nextGroup, ⟨h.rest, h.left, h.right, h.openGroups, fun he => ?_⟩⟩
        obtain ⟨hnames, hown⟩ := h.names he
        obtain ⟨hnumber, hfresh⟩ := h.nextGroup he
        rw [hnames, List.lookup_append, Option.or_eq_none_iff] at hB
        refine ⟨?_, List.forall_mem_append.mpr ⟨hown, ?_⟩⟩
        · rw [hnames, hnumber, List.map_append, List.append_assoc]
          rfl
        · exact List.forall_mem_singleton.mpr ⟨hfresh, hB.1⟩

/-- Both readers close the same group, with the same width. -/
theorem closeGroup_twin (h : Twin S A B) {g g' : Nat} {w w' : Width}
    (hg : S.exact = true → g' = S.shift g ∧ Setting.Own g ∧ w' = w) :
    Twin S (A.closeGroup g w) (B.closeGroup g' w') := by
  refine ⟨h.rest, h.left, h.right, fun he => ?_, h.names⟩
  obtain ⟨rfl, hown, rfl⟩ := hg he
  obtain ⟨gs, hA, hB⟩ := h.groups he
  have hshift := S.shift_own hown
  have hlength := Setting.length_ahead S.first
  unfold Setting.Own at hown
  refine ⟨gs.set (g - 1 - Setting.opened) (some w'), ?_, ?_⟩
  · unfold closeGroup
    rw [hA, List.set_append_right _ _ (by omega), hlength]
  · have hindex : S.shift g - 1 - S.groups.length = g - 1 - Setting.opened := by omega
    unfold closeGroup
    rw [hB, List.set_append_right _ _ (by omega), hindex]

/-! ## The three readers that call each other -/

/-- Alternatives on both sides, unless the left reader has come to the end of the fragment. -/
private def AlternativesTwin (S : Setting) (calls : Nat) : Prop :=
  ∀ ⦃right verbose done done' A B⦄, Twin S A B → S.Alternatives done done' →
    Both (readAlternatives calls verbose false done A) (readAlternatives right verbose false done' B)
      fun x y => (S.exact = true → x.2.tested = []) →
        x.2.rest = [] ∨ S.Nodes x.1 y.1 ∧ Twin S x.2 y.2

/-- Sequences on both sides, one of which sets no global flags.  Where white space is skipped, so is
the rest of a line, and it may be longer on the right. -/
private def SequencesTwin (S : Setting) (calls : Nat) : Prop :=
  ∀ ⦃right verbose first first' done done' A B⦄, Twin S A B → S.Pieces done done' →
    first = false ∨ first' = false →
    Both (readSequence calls verbose first done A) (readSequence right verbose first' done' B)
      fun x y => (S.exact = true → x.2.tested = []) →
        verbose = true ∧ x.2.rest = [] ∨ S.Nodes x.1 y.1 ∧ Twin S x.2 y.2

private def GroupsTwin (S : Setting) (calls : Nat) : Prop :=
  ∀ ⦃right verbose start start' o o' A B⦄, Twin S A B → S.Opened o o' →
    Both (readGroup calls verbose start o A) (readGroup right verbose start' o' B)
      fun x y => (S.exact = true → x.2.tested = []) → S.Pieces [x.1] [y.1] ∧ Twin S x.2 y.2

/-- At the end there is nothing to accept. -/
theorem accept_of_nil {r : Reader} (hr : r.rest = []) (c : Char) :
    r.accept c = .ok (false, r) := by
  have hnext : r.nextIs c = false := by simp [Reader.nextIs, hr]
  simp [accept, hnext]

/-- What is not accepted is not taken. -/
private theorem eq_of_accept_false {r r' : Reader} {c : Char} (h : r.accept c = .ok (false, r')) :
    r' = r := by
  unfold accept at h
  split at h
  · obtain ⟨_, -, h⟩ := bind_eq_ok.mp h
    cases h
  · cases h
    rfl

/-- A group does not close at the end of the fragment. -/
private theorem close_of_nil {start : Nat} {r r' : Reader} (hr : r.rest = []) :
    r.close start ≠ .ok r' := by
  intro h
  simp only [close, accept_of_nil hr] at h
  cases h

/-- Before the end of the fragment even a delimiter is the same on both sides. -/
private theorem accept_twin (h : Twin S A B) {t : Token} {ts : List Token} (hA : A.rest = t :: ts)
    (c : Char) :
    Both (A.accept c) (B.accept c) fun x y => x.1 = y.1 ∧ Twin S x.2 y.2 := by
  unfold accept
  refine Both.ite (by rw [h.beside.nextIs_of_cons hA]) (fun _ => ?_) fun _ => .ok ⟨rfl, h⟩
  exact (advance_both h.beside hA).bind fun A' B' h' => .pure ⟨rfl, h.of_beside h'.2⟩

/-- Both readers find the closing parenthesis. -/
private theorem close_twin (h : Twin S A B) (start start' : Nat) :
    Both (A.close start) (B.close start') (Twin S) :=
  fun _ _ hA hB => h.of_beside (close_both start start' h.beside _ _ hA hB)

/-- One more call of the readers of alternatives. -/
private theorem alternatives_twin {calls : Nat} (halternatives : AlternativesTwin S calls)
    (hsequences : SequencesTwin S calls) : AlternativesTwin S (calls + 1) := by
  intro right verbose done done' A B h hdone
  cases right with
  | zero => exact .error_right
  | succ right =>
    simp only [readAlternatives, Bool.false_and]
    refine (hsequences h (.nil S) (.inl rfl)).bind ?_
    rintro ⟨ns, A₁⟩ ⟨ns', B₁⟩ h₁ x y hx hy htested
    obtain ⟨⟨more, A₂⟩, hmore, hx⟩ := bind_eq_ok.mp hx
    obtain ⟨⟨more', B₂⟩, hmore', hy⟩ := bind_eq_ok.mp hy
    have htested₁ : S.exact = true → A₁.tested = [] := by
      intro he
      refine (accept_moves hmore).reads.tested ?_
      obtain ⟨-, hx⟩ | ⟨-, hx⟩ := ite_eq_iff.mp hx
      · exact (readAlternatives_grows hx).reads.tested (htested he)
      · cases hx
        exact htested he
    cases hA₁ : A₁.rest with
    | nil =>
      rw [accept_of_nil hA₁] at hmore
      cases hmore
      cases hx
      exact .inl hA₁
    | cons t ts =>
      obtain ⟨-, hnil⟩ | ⟨hns, h₁⟩ := h₁ htested₁
      · rw [hA₁] at hnil
        cases hnil
      obtain ⟨rfl, h₂⟩ := accept_twin h₁ hA₁ '|' _ _ hmore hmore'
      cases more with
      | true => exact halternatives h₂ (hdone.append (.single hns)) x y hx hy htested
      | false =>
        cases hx
        cases hy
        exact .inr ⟨(hdone.append (.single hns)).choice, h₂⟩

/-- The body of a group, up to the parenthesis that closes it, and what is made of it. -/
private theorem enclosed_twin {calls right : Nat} {verbose : Bool} {start start' : Nat}
    (floor floor' : Reader → Option Nat) (make make' : List Node → Reader → Piece × Reader)
    (hmade : ∀ ns r, (make ns r).2.tested = r.tested) (halternatives : AlternativesTwin S calls)
    (h : Twin S A B) (hmake : ∀ {ns ns' A B}, S.Nodes ns ns' → Twin S A B →
      S.Pieces [(make ns A).1] [(make' ns' B).1] ∧ Twin S (make ns A).2 (make' ns' B).2) :
    Both
      (readAlternatives calls verbose false [] A >>= fun x =>
        Reader.close start { x.2 with floor := floor x.2 } >>= fun r => pure (make x.1 r))
      (readAlternatives right verbose false [] B >>= fun x =>
        Reader.close start' { x.2 with floor := floor' x.2 } >>= fun r => pure (make' x.1 r))
      fun x y => (S.exact = true → x.2.tested = []) → S.Pieces [x.1] [y.1] ∧ Twin S x.2 y.2 := by
  intro x y hx hy htested
  obtain ⟨⟨ns, A₁⟩, hA₁, hx⟩ := bind_eq_ok.mp hx
  obtain ⟨⟨ns', B₁⟩, hB₁, hy⟩ := bind_eq_ok.mp hy
  obtain ⟨A₂, hA₂, hx⟩ := bind_eq_ok.mp hx
  obtain ⟨B₂, hB₂, hy⟩ := bind_eq_ok.mp hy
  cases hx
  cases hy
  have htested₁ : S.exact = true → A₁.tested = [] := fun he =>
    (close_moves hA₂).reads.tested ((hmade ns A₂).symm.trans (htested he))
  obtain hnil | ⟨hns, h₁⟩ := halternatives h (.nil S) _ _ hA₁ hB₁ htested₁
  · exact absurd hA₂ (close_of_nil hnil)
  · exact hmake hns (close_twin (h₁.withFloor _ _) start start' _ _ hA₂ hB₂)

/-- A group that only wraps its body. -/
private theorem wrapped_twin {calls right : Nat} {verbose : Bool} {start start' : Nat}
    (wrap : Node → Node) (hrenumber : ∀ σ n, (wrap n).renumber σ = wrap (n.renumber σ))
    (hindexed : ∀ {P R : Nat → Prop} {n : Node}, n.Indexed P R → (wrap n).Indexed P R)
    (halternatives : AlternativesTwin S calls) (h : Twin S A B) :
    Both
      (readAlternatives calls verbose false [] A >>= fun x =>
        x.2.close start >>= fun r => pure (Piece.node (wrap (Node.sequence x.1)), r))
      (readAlternatives right verbose false [] B >>= fun x =>
        x.2.close start' >>= fun r => pure (Piece.node (wrap (Node.sequence x.1)), r))
      fun x y => (S.exact = true → x.2.tested = []) → S.Pieces [x.1] [y.1] ∧ Twin S x.2 y.2 := by
  refine enclosed_twin Reader.floor Reader.floor (fun ns r => (.node (wrap (.sequence ns)), r))
    (fun ns r => (.node (wrap (.sequence ns)), r)) (fun _ _ => rfl) halternatives h
    fun hns h₂ => ⟨.node fun he => ?_, h₂⟩
  obtain ⟨hbody, hbodyIndexed⟩ := hns.sequence he
  exact ⟨by rw [hbody, hrenumber], hindexed hbodyIndexed⟩

/-- Both readers read the branches of a condition. -/
private theorem conditional_twin {calls right : Nat} {verbose : Bool} {start start' g g' : Nat}
    (hsequences : SequencesTwin S calls) (h : Twin S A B)
    (hg : S.exact = true → g' = S.shift g ∧ Setting.Own g) :
    Both (readGroup (calls + 1) verbose start (.conditional g) A)
      (readGroup (right + 1) verbose start' (.conditional g') B)
      fun x y => (S.exact = true → x.2.tested = []) → S.Pieces [x.1] [y.1] ∧ Twin S x.2 y.2 := by
  rintro ⟨p, A'⟩ ⟨p', B'⟩ hA hB htested
  obtain ⟨yes, A₁, more, A₂, no, A₃, hyes, hmore, hno, hclose, rfl⟩ := conditional_ok hA
  obtain ⟨yes', B₁, more', B₂, no', B₃, hyes', hmore', hno', hclose', rfl⟩ := conditional_ok hB
  have htested₃ : S.exact = true → A₃.tested = [] := fun he =>
    (close_moves hclose).reads.tested (htested he)
  have htested₂ : S.exact = true → A₂.tested = [] := by
    intro he
    obtain ⟨-, hno⟩ | ⟨-, -, rfl⟩ := hno
    · exact (readSequence_grows hno).reads.tested (htested₃ he)
    · exact htested₃ he
  -- A branch does not end where the fragment does, for the group has to be closed.
  have hne : A₁.rest ≠ [] := by
    intro hnil
    rw [accept_of_nil hnil] at hmore
    cases hmore
    obtain ⟨hfalse, -⟩ | ⟨-, -, rfl⟩ := hno
    · cases hfalse
    · exact close_of_nil hnil hclose
  obtain ⟨t, ts, hcons⟩ := List.exists_cons_of_ne_nil hne
  obtain ⟨-, hnil⟩ | ⟨hyes₁, h₁⟩ := hsequences h (.nil S) (.inl rfl) _ _ hyes hyes' fun he =>
    (accept_moves hmore).reads.tested (htested₂ he)
  · exact absurd hnil hne
  obtain ⟨rfl, h₂⟩ := accept_twin h₁ hcons '|' _ _ hmore hmore'
  have hno₁ : S.Nodes no no' ∧ Twin S A₃ B₃ := by
    obtain ⟨rfl, hno⟩ | ⟨rfl, rfl, rfl⟩ := hno
    · obtain ⟨-, hno'⟩ | ⟨hfalse, -⟩ := hno'
      · obtain ⟨-, hnil⟩ | hno₁ := hsequences h₂ (.nil S) (.inl rfl) _ _ hno hno' htested₃
        · exact absurd hclose (close_of_nil hnil)
        · exact hno₁
      · cases hfalse
    · obtain ⟨hfalse, -⟩ | ⟨-, rfl, rfl⟩ := hno'
      · cases hfalse
      · exact ⟨fun _ => ⟨rfl, by simp⟩, h₂⟩
  refine ⟨.node fun he => ?_, close_twin hno₁.2 start start' _ _ hclose hclose'⟩
  obtain ⟨hyesEq, hyesIndexed⟩ := hyes₁.sequence he
  obtain ⟨hnoEq, hnoIndexed⟩ := hno₁.1.sequence he
  obtain ⟨rfl, hown⟩ := hg he
  rw [hyesEq, hnoEq]
  exact ⟨rfl, .inl hown, hyesIndexed, hnoIndexed⟩

/-- One more call of the readers of groups, with a case for each opening. -/
private theorem groups_twin {calls : Nat} (halternatives : AlternativesTwin S calls)
    (hsequences : SequencesTwin S calls) : GroupsTwin S (calls + 1) := by
  intro right verbose start start' o o' A B h ho
  cases right with
  | zero => exact .error_right
  | succ right =>
    cases o with
    | conditional g =>
      obtain ⟨g', rfl⟩ : ∃ g', o' = .conditional g' := by
        have hkind := ho.kind
        cases o' <;> cases hkind
        exact ⟨_, rfl⟩
      refine conditional_twin hsequences h fun he => ?_
      obtain ⟨heq, hown⟩ := ho.exact he
      cases heq
      exact ⟨rfl, hown g rfl⟩
    | reference g =>
      obtain ⟨g', rfl⟩ : ∃ g', o' = .reference g' := by
        have hkind := ho.kind
        cases o' <;> cases hkind
        exact ⟨_, rfl⟩
      refine .pure fun _ => ⟨.node fun he => ?_, h⟩
      obtain ⟨heq, hown⟩ := ho.exact he
      cases heq
      exact ⟨rfl, .inl (hown g rfl)⟩
    | capture name =>
      obtain rfl := ho.eq rfl
      refine (openGroup_twin h name).bind ?_
      rintro ⟨g, A₁⟩ ⟨g', B₁⟩ ⟨hg, h₁⟩
      -- The group counts as open while its body is read, and gets its width at the end.
      refine enclosed_twin Reader.floor Reader.floor
        (fun ns r => (.node (.group g (.sequence ns)),
          r.closeGroup g ((Node.sequence ns).width r.widthOf)))
        (fun ns r => (.node (.group g' (.sequence ns)),
          r.closeGroup g' ((Node.sequence ns).width r.widthOf)))
        (fun _ _ => rfl) halternatives h₁
        fun hns h₂ => ⟨.node fun he => ?_, closeGroup_twin h₂ fun he => ?_⟩
      · obtain ⟨hbody, hindexed⟩ := hns.sequence he
        obtain ⟨hshift, hown⟩ := hg he
        dsimp only at hshift hown ⊢
        rw [hbody, hshift]
        exact ⟨rfl, hown, hindexed⟩
      · obtain ⟨hbody, hindexed⟩ := hns.sequence he
        obtain ⟨hshift, hown⟩ := hg he
        exact ⟨hshift, hown, by rw [hbody, h₂.width_eq he hindexed]⟩
    | plain =>
      obtain rfl := ho.eq rfl
      refine enclosed_twin Reader.floor Reader.floor (fun ns r => (.plain ns, r))
        (fun ns r => (.plain ns, r)) (fun _ _ => rfl) halternatives h
        fun hns h₂ => ⟨fun he => ?_, h₂⟩
      obtain ⟨rfl, hindexed⟩ := hns he
      exact ⟨rfl, by simpa [Piece.nodes] using hindexed⟩
    | atomic =>
      obtain rfl := ho.eq rfl
      exact wrapped_twin .atomic (fun _ _ => rfl) id halternatives h
    | «scoped» on off =>
      obtain rfl := ho.eq rfl
      exact wrapped_twin (.scoped on off) (fun _ _ => rfl) id halternatives h
    | ahead negated =>
      obtain rfl := ho.eq rfl
      exact wrapped_twin (.ahead negated) (fun _ _ => rfl) id halternatives h
    | behind negated =>
      obtain rfl := ho.eq rfl
      -- Floors may differ, as they only decide which references are refused.
      have hfloor : Twin S (if A.floor.isNone then { A with floor := some A.nextGroup } else A)
          (if B.floor.isNone then { B with floor := some B.nextGroup } else B) := by
        split <;> split <;> exact ⟨h.rest, h.left, h.right, h.groups, h.names⟩
      refine enclosed_twin (fun _ => A.floor) (fun _ => B.floor)
        (fun ns r => (.node (.behind negated ((Node.sequence ns).width r.widthOf) (.sequence ns)), r))
        (fun ns r => (.node (.behind negated ((Node.sequence ns).width r.widthOf) (.sequence ns)), r))
        (fun _ _ => rfl) halternatives hfloor fun hns h₂ => ⟨.node fun he => ?_, h₂⟩
      obtain ⟨hbody, hindexed⟩ := hns.sequence he
      rw [hbody, h₂.width_eq he hindexed]
      exact ⟨rfl, hindexed⟩
    | comment | globals =>
      obtain rfl := ho.eq rfl
      exact .pure fun _ => ⟨fun _ => ⟨rfl, by simp [Piece.nodes]⟩, h⟩

/-- A sequence ends at the end of the tokens and before a delimiter. -/
theorem readSequence_of_ends {calls : Nat} {verbose first : Bool} {done : List Piece}
    {r : Reader} (hr : ∀ t ∈ r.rest.head?, t.is '|' || t.is ')') :
    readSequence (calls + 1) verbose first done r = .ok (Piece.nodes done, r) := by
  cases hrest : r.rest with
  | nil => simp only [readSequence, hrest]
  | cons t ts =>
    have ht := hr t (by rw [hrest]; rfl)
    simp only [readSequence, hrest, ht, if_true]

/-- At the end a sequence is what has been read of it. -/
private theorem readSequence_of_nil {calls : Nat} {verbose first : Bool} {done : List Piece}
    {r : Reader} (hr : r.rest = []) :
    readSequence (calls + 1) verbose first done r = .ok (Piece.nodes done, r) :=
  readSequence_of_ends (by simp [hr])

/-- One more call of the readers of sequences, with a case for each token. -/
private theorem sequences_twin {calls : Nat} (hsequences : SequencesTwin S calls)
    (hgroups : GroupsTwin S calls) : SequencesTwin S (calls + 1) := by
  intro right verbose first first' done done' A B h hdone hfirst
  cases right with
  | zero => exact .error_right
  | succ right =>
    cases hA : A.rest with
    | nil =>
      -- The right reader has come to its end or to a delimiter.
      have hends : ∀ t ∈ B.rest.head?, t.is '|' || t.is ')' := by
        intro t ht
        obtain hB | ⟨u, us, hB, hu, hc⟩ := h.beside.nil S.delimits hA
        · rw [hB] at ht
          cases ht
        · rw [hB] at ht
          cases ht
          rcases hc with hc | hc <;> simp [Token.is, hu, hc]
      rw [readSequence_of_nil hA, readSequence_of_ends hends]
      exact .ok fun _ => .inr ⟨hdone.nodes, h⟩
    | cons t ts =>
      obtain ⟨p, us, hB, -⟩ := h.beside.cons hA
      simp only [readSequence, throw_bind, hA, hB]
      refine Both.ite Iff.rfl (fun _ => .ok fun _ => .inr ⟨hdone.nodes, h⟩) fun _ => ?_
      refine (advance_both h.beside hA).bind ?_
      rintro A₁ B₁ ⟨-, hbeside₁⟩
      have h₁ := h.of_beside hbeside₁
      have step : ∀ {n : Node}, n.IsStep → (∀ g, n ≠ .backref g) →
          Both (readSequence calls verbose first (done ++ [.node n]) A₁)
            (readSequence right verbose first' (done' ++ [.node n]) B₁) fun x y =>
              (S.exact = true → x.2.tested = []) →
                verbose = true ∧ x.2.rest = [] ∨ S.Nodes x.1 y.1 ∧ Twin S x.2 y.2 :=
        fun hn hne => hsequences h₁ (hdone.append (.same hn fun _ g hg => absurd hg (hne g)))
          hfirst
      refine Both.ite Iff.rfl (fun _ => hsequences h₁ hdone hfirst) fun _ => ?_
      refine Both.ite Iff.rfl (fun hline => ?_) fun _ => ?_
      · refine (skipLine_both h₁.beside (Nat.le_refl _) (Nat.le_refl _)).bind ?_
        rintro A₂ B₂ (⟨hnil, -⟩ | h₂)
        · cases calls with
          | zero => exact .error_left
          | succ calls =>
            rw [readSequence_of_nil hnil]
            rintro _ _ ⟨⟩ - -
            exact .inl ⟨(Bool.and_eq_true_iff.mp hline).1, hnil⟩
        · exact hsequences (h₁.of_beside h₂) hdone hfirst
      refine Both.ite Iff.rfl (fun _ => ?_) fun _ => ?_
      · refine (escape_twin h₁ t p).bind ?_
        rintro ⟨n, A₂⟩ ⟨n', B₂⟩ ⟨hn, h₂⟩
        exact hsequences h₂ (hdone.append hn) hfirst
      refine Both.ite Iff.rfl (fun _ => ?_) fun _ => ?_
      · rintro x y hx hy
        obtain ⟨⟨n, A₂⟩, hn, hx⟩ := bind_eq_ok.mp hx
        obtain ⟨⟨n', B₂⟩, hn', hy⟩ := bind_eq_ok.mp hy
        obtain ⟨rfl, h₂⟩ := charClass_both S.delimits t.position p h₁.beside _ _ hn hn'
        obtain ⟨-, s, rfl⟩ := charClass_ok hn
        have hclass : S.Pieces [.node (.single s)] [.node (.single s)] :=
          .same trivial fun _ _ h => by cases h
        exact hsequences (h₁.of_beside h₂) (hdone.append hclass) hfirst x y hx hy
      refine Both.ite Iff.rfl (fun _ => ?_) fun _ => ?_
      · refine (repeated_twin h₁ t p hdone).bind ?_
        rintro ⟨done₂, A₂⟩ ⟨done₂', B₂⟩ ⟨hdone₂, h₂⟩
        exact hsequences h₂ hdone₂ hfirst
      refine Both.ite Iff.rfl (fun _ => ?_) fun _ => ?_
      · exact step trivial fun _ h => by cases h
      refine Both.ite Iff.rfl (fun _ => ?_) fun _ => ?_
      · exact step trivial fun _ h => by cases h
      refine Both.ite Iff.rfl (fun _ => ?_) fun _ => ?_
      · exact step trivial fun _ h => by cases h
      refine Both.ite Iff.rfl (fun _ => ?_) fun _ => ?_
      · intro x y hx hy htested
        obtain ⟨⟨o, A₂⟩, ho, hx⟩ := bind_eq_ok.mp hx
        obtain ⟨⟨o', B₂⟩, ho', hy⟩ := bind_eq_ok.mp hy
        have h₂ := opening_twin h₁ t.position p _ _ ho ho'
        dsimp only at hx hy h₂
        split at hx
        · have htested₂ : S.exact = true → A₂.tested = [] := fun he =>
            (readSequence_grows hx).reads.tested (htested he)
          obtain ⟨hglobals, -⟩ | h₂ := h₂
          · cases hglobals
          obtain ⟨hopened, htwin⟩ := h₂ htested₂
          obtain rfl := hopened.eq rfl
          exact hsequences htwin hdone hfirst x y hx hy htested
        · -- One of the readers refuses global flags.
          obtain ⟨-, hx⟩ | ⟨hset, hx⟩ := ite_eq_iff.mp hx
          · cases hx
          have htested₂ : S.exact = true → A₂.tested = [] := fun he =>
            (readSequence_grows hx).reads.tested (htested he)
          obtain rfl : o' = .globals := by
            obtain ⟨-, hglobals⟩ | h₂ := h₂
            · exact hglobals
            · exact (h₂ htested₂).1.eq rfl
          obtain hfirst | hfirst := hfirst
          · simp [hfirst] at hset
          · simp [hfirst] at hy
        · rename_i hcomment hglobals
          obtain ⟨⟨p, A₃⟩, hp, hx⟩ := bind_eq_ok.mp hx
          have hopens := opening_ok ho
          have hfits := hopens.fits.congr hopens.groups
          have htested₃ : S.exact = true → A₃.tested = [] := fun he =>
            (readSequence_grows hx).reads.tested (htested he)
          have htested₂ : S.exact = true → A₂.tested = [] := fun he =>
            (readGroup_grows hfits hp).reads.tested (htested₃ he)
          obtain ⟨h, -⟩ | h₂ := h₂
          · exact absurd h hglobals
          obtain ⟨hopened, h₂⟩ := h₂ htested₂
          have hkind := hopened.kind
          split at hy
          · cases o <;> cases hkind
            exact absurd rfl hcomment
          · cases o <;> cases hkind
            exact absurd rfl hglobals
          · obtain ⟨⟨p', B₃⟩, hp', hy⟩ := bind_eq_ok.mp hy
            obtain ⟨hpiece, h₃⟩ := hgroups h₂ hopened _ _ hp hp' htested₃
            exact hsequences h₃ (hdone.append hpiece) hfirst x y hx hy htested
      · exact step trivial fun _ h => by cases h

/-- The three readers call one another, so the induction is on the left one's calls together. -/
private theorem all_twin (S : Setting) (calls : Nat) :
    AlternativesTwin S calls ∧ SequencesTwin S calls ∧ GroupsTwin S calls := by
  induction calls with
  | zero =>
    refine ⟨?_, ?_, ?_⟩
    · intro _ _ _ _ _ _ _ _
      exact .error_left
    · intro _ _ _ _ _ _ _ _ _ _ _
      exact .error_left
    · intro _ _ _ _ _ _ _ _ _ _
      exact .error_left
  | succ calls ih =>
    obtain ⟨halternatives, hsequences, hgroups⟩ := ih
    exact ⟨alternatives_twin halternatives hsequences, sequences_twin hsequences hgroups,
      groups_twin halternatives hsequences⟩

/-! ## Whole fragments -/

/-- The right reader reads the alternatives of a fragment and then goes on: with further alternatives
if a bar follows, and otherwise it is done. -/
theorem readAlternatives_twin {calls right : Nat} {top top' : Bool} {done done' : List (List Node)}
    {A' B' : Reader} {ns ns' : List Node} (h : Twin S A B) (htop : top = false ∨ top' = false)
    (hA : readAlternatives calls false top done A = .ok (ns, A')) (hend : A'.rest = [])
    (htested : S.exact = true → A'.tested = [])
    (hB : readAlternatives right false top' done' B = .ok (ns', B')) :
    ∃ alts alts' B₁, alts' ≠ [] ∧ ns = Node.choice (done ++ alts) ∧ S.Alternatives alts alts' ∧
      Twin S A' B₁ ∧ Grows B [] B₁ alts'.flatten ∧ ∃ calls, (B₁.accept '|' >>= fun x =>
        if x.1 then readAlternatives calls false top' (done' ++ alts') x.2
        else pure (Node.choice (done' ++ alts'), x.2)) = .ok (ns', B') := by
  induction calls generalizing right done done' A B with
  | zero => cases hA
  | succ calls ih =>
    cases right with
    | zero => cases hB
    | succ right =>
      simp only [readAlternatives] at hA hB
      obtain ⟨⟨ms, A₁⟩, hms, hA⟩ := bind_eq_ok.mp hA
      obtain ⟨⟨ms', B₁⟩, hms', hB⟩ := bind_eq_ok.mp hB
      -- Numbers that are tested stay noted, so none is in the end if none was.
      have htested₁ : S.exact = true → A₁.tested = [] := by
        intro he
        obtain ⟨⟨more, A₂⟩, hmore, hA⟩ := bind_eq_ok.mp hA
        refine (accept_moves hmore).reads.tested ?_
        obtain ⟨-, hA⟩ | ⟨-, hA⟩ := ite_eq_iff.mp hA
        · exact (readAlternatives_grows hA).reads.tested (htested he)
        · cases hA
          exact htested he
      have hfirst : (top && done.isEmpty) = false ∨ (top' && done'.isEmpty) = false := by
        rcases htop with rfl | rfl
        · exact .inl rfl
        · exact .inr rfl
      obtain ⟨hverbose, -⟩ | ⟨hnodes, h₁⟩ :=
        (all_twin S calls).2.1 h (.nil S) hfirst _ _ hms hms' htested₁
      · cases hverbose
      dsimp only at hnodes h₁
      have hgrows : Grows B [] B₁ ms' := readSequence_grows hms'
      have hverbose : ∀ (top : Bool) {r : Reader}, r.globals = [] →
          (if top then r.globals.contains 'x' else false) = false := by
        intro top r hr
        cases top <;> simp [hr]
      -- Where the left reader is at its end, the right one may have a bar of its own ahead.
      cases hA₁ : A₁.rest with
      | nil =>
        rw [accept_of_nil hA₁] at hA
        cases hA
        obtain ⟨⟨more, B₂⟩, hmore', hB⟩ := bind_eq_ok.mp hB
        dsimp only at hB
        rw [hverbose top' ((accept_moves hmore').globals.trans h₁.right)] at hB
        refine ⟨[ms], [ms'], B₁, List.cons_ne_nil _ _, rfl, .single hnodes, h₁, ?_, right,
          bind_eq_ok.mpr ⟨_, hmore', hB⟩⟩
        rw [List.flatten_singleton]
        exact hgrows
      | cons t ts =>
        obtain ⟨⟨more, A₂⟩, hmore, hA⟩ := bind_eq_ok.mp hA
        obtain ⟨⟨more', B₂⟩, hmore', hB⟩ := bind_eq_ok.mp hB
        obtain ⟨rfl, h₂⟩ := accept_twin h₁ hA₁ '|' _ _ hmore hmore'
        dsimp only at hA hB h₂
        rw [hverbose top h₂.left] at hA
        rw [hverbose top' h₂.right] at hB
        cases more with
        | true =>
          obtain ⟨alts, alts', B₃, -, rfl, halts, h₃, hgrows', calls, hrest⟩ := ih h₂ hA hB
          refine ⟨ms :: alts, ms' :: alts', B₃, List.cons_ne_nil _ _, ?_,
            (Setting.Alternatives.single hnodes).append halts, h₃, ?_, calls, ?_⟩
          · rw [List.append_assoc, List.singleton_append]
          · rw [List.flatten_cons]
            exact (hgrows.moves (accept_moves hmore')).trans hgrows'.append
          · rw [List.append_assoc, List.singleton_append] at hrest
            exact hrest
        | false =>
          have hsame := eq_of_accept_false hmore
          cases hA
          rw [hsame, hA₁] at hend
          cases hend

end Marginalia.Pattern.Reader
