import Marginalia.Proofs.Matcher.Combined
import Marginalia.Proofs.Pattern.Placement

/-!
# What the combined patterns match

At a position, fragments with bars between them match what the first of them matches that matches
there at all.  So the combined pattern of a language matches what the first of its fragments matches,
and its group `body` takes part if that is a comment; the combined pattern of the annotation kinds
matches what the first kind matches, and the group of that kind takes part.

That the groups take part in this way holds for all fragments.  That the match is the fragment's own
one takes fragments that refer to no group by number: the groups before a fragment change what its
numbers mean.
-/

namespace Marginalia

namespace Pattern

/-! ## Fragments with bars between them -/

section

variable {text : Array Char} {base : List (Option Nat)} {s : Nat} {m : Memory}
  {fragments : List (String × Pattern)} {parts : List (List (List Node))} {lower : Nat}
  {first : Option Width}

/-- A step that ends the match may do what it likes to the marks. -/
private theorem finish_alike (finish : Nat → Captures → Captures) :
    Step.Alike text (Captures.Keeps base) false Eq (fun j m => .matched ⟨j, finish j m.captures⟩)
      fun j m => .matched ⟨j, finish j m.captures⟩ :=
  fun j _ _ _ hm => .matched (congrArg (fun c => Memory.mk j (finish j c)) hm.captures.1.symm)

/-- A fragment behind groups does not touch them. -/
private theorem Spliced.liesBeyond {source : String} {p : Pattern} {before : Nat}
    {alts : List (List Node)} (h : Spliced first source p before alts) (hbase : base.length ≤ 2 * before) :
    ∀ ns ∈ alts, ∀ n ∈ ns, n.LiesBeyond base := by
  intro ns hns n hn
  refine (h.indexed ns hns n hn).mono (fun g hg => ?_) fun _ => id
  unfold Captures.Beyond
  omega

private theorem findSome?_flatten {α β : Type} (f : α → Option β) (ls : List (List α)) :
    ls.flatten.findSome? f = ls.findSome? fun l => l.findSome? f := by
  induction ls with
  | nil => rfl
  | cons l ls ih =>
    rw [List.flatten_cons, List.findSome?_append, List.findSome?_cons, ih]
    cases l.findSome? f <;> rfl

private theorem findSome?_congr {α β : Type} {f g : α → Option β} {l : List α}
    (h : ∀ a ∈ l, f a = g a) : l.findSome? f = l.findSome? g := by
  induction l with
  | nil => rfl
  | cons a l ih =>
    obtain ⟨ha, hl⟩ := List.forall_mem_cons.mp h
    rw [List.findSome?_cons, List.findSome?_cons, ha, ih hl]

/-- Each part is that of a fragment. -/
private theorem SplicedAll.exists_of_mem (h : SplicedAll first lower fragments parts) :
    ∀ alts ∈ parts, ∃ f ∈ fragments, ∃ before, lower ≤ before ∧ Spliced first f.1 f.2 before alts := by
  induction h with
  | nil => exact nofun
  | cons halts _ ih =>
    refine List.forall_mem_cons.mpr ⟨⟨_, List.mem_cons_self, halts⟩, fun alts hmem => ?_⟩
    obtain ⟨f, hf, hspliced⟩ := ih alts hmem
    exact ⟨f, List.mem_cons_of_mem _ hf, hspliced⟩

/-- The groups of fragments behind `lower` groups come behind those. -/
theorem SplicedAll.indexed (h : SplicedAll first lower fragments parts) :
    (Node.sequence (Node.choice parts.flatten)).Indexed (lower < ·) fun _ => True := by
  refine Node.indexed_sequence.mpr (Node.indexed_choice fun ns hns n hn => ?_)
  obtain ⟨alts, halts, hns⟩ := List.mem_flatten.mp hns
  obtain ⟨f, -, before, hbefore, hspliced⟩ := h.exists_of_mem alts halts
  exact (hspliced.indexed ns hns n hn).mono (fun g hg => Nat.lt_of_le_of_lt hbefore hg) fun _ => id

/-- Fragments with bars between them match what the first of them matches that matches at all. -/
private theorem SplicedAll.found?_eq (h : SplicedAll first lower fragments parts) (hne : fragments ≠ [])
    (hbase : base.length ≤ 2 * lower) (hs : s ≤ text.size) (hm : m.captures = ⟨base⟩)
    (finish : Nat → Captures → Captures) :
    ((Node.sequence (Node.choice parts.flatten)).run text {} false none
        (fun j m => .matched ⟨j, finish j m.captures⟩) s m).found? =
      parts.findSome? fun alts => ((Node.sequence (Node.choice alts)).run text {} false none
        (fun j m => .matched ⟨j, finish j m.captures⟩) s m).found? := by
  have halts : ∀ alts ∈ parts, alts ≠ [] ∧ ∀ ns ∈ alts, ∀ n ∈ ns, n.LiesBeyond base := by
    intro alts hmem
    obtain ⟨f, -, before, hbefore, hspliced⟩ := h.exists_of_mem alts hmem
    exact ⟨hspliced.ne, hspliced.liesBeyond (by omega)⟩
  have hflatten : parts.flatten ≠ [] := by
    cases h with
    | nil => exact absurd rfl hne
    | cons _ _ =>
      exact List.append_ne_nil_of_left_ne_nil (halts _ List.mem_cons_self).1 _
  have hbeyond : ∀ ns ∈ parts.flatten, ∀ n ∈ ns, n.LiesBeyond base := by
    intro ns hns
    obtain ⟨alts, hmem, hns⟩ := List.mem_flatten.mp hns
    exact (halts alts hmem).2 ns hns
  rw [Node.found?_choice rfl hflatten hbeyond (finish_alike finish) hs hm, findSome?_flatten]
  refine findSome?_congr fun alts hmem => ?_
  obtain ⟨hne, hbeyond⟩ := halts alts hmem
  rw [Node.found?_choice rfl hne hbeyond (finish_alike finish) hs hm]

/-- If the fragments with references by number do not match, fragments with bars between them match
what the first of the others matches on its own. -/
private theorem SplicedAll.found?_numberless (h : SplicedAll first lower fragments parts)
    (hne : fragments ≠ []) (hbase : base.length ≤ 2 * lower) (hs : s ≤ text.size)
    (hm : m.captures = ⟨base⟩) (finish : Nat → Captures → Captures)
    (hnumbered : ∀ f ∈ fragments, isNumberless f.1 = true ∨ ∀ before alts, lower ≤ before →
      Spliced first f.1 f.2 before alts → ((Node.sequence (Node.choice alts)).run text {} false none
        (fun j m => .matched ⟨j, finish j m.captures⟩) s m).found? = none) :
    let found := ((Node.sequence (Node.choice parts.flatten)).run text {} false none
      (fun j m => .matched ⟨j, finish j m.captures⟩) s m).found?
    let own := (fragments.filter (isNumberless ·.1)).findSome? fun f => f.2.matchAt text s
    (own = none ∧ found = none) ∨ ∃ r before, lower ≤ before ∧ own = some r ∧
      found = some ⟨r.stop, finish r.stop (r.captures.behind base before)⟩ := by
  dsimp only
  rw [h.found?_eq hne hbase hs hm finish]
  clear hne
  induction h with
  | nil => exact .inl ⟨rfl, rfl⟩
  | @cons f alts fs parts halts _ ih =>
    obtain ⟨hf, hfs⟩ := List.forall_mem_cons.mp hnumbered
    obtain ⟨before, hbefore, hspliced⟩ := halts
    by_cases hnumberless : isNumberless f.1 = true
    · obtain ⟨hflags, hindexed, hroot⟩ := hspliced.own hnumberless
      have hfirst := Node.found?_renumber (f := {}) hindexed (by omega : base.length ≤ 2 * before) hs
        hm finish
      rw [List.filter_cons, if_pos hnumberless, List.findSome?_cons, List.findSome?_cons, hroot,
        hfirst, matchAt_eq, hflags]
      cases (f.2.root.run text {} false none Step.done s { reached := s }).found? with
      | none => exact ih hfs
      | some own => exact .inr ⟨_, before, hbefore, rfl, rfl⟩
    · rw [List.filter_cons, if_neg hnumberless, List.findSome?_cons,
        hf.resolve_left hnumberless before alts hbefore hspliced]
      exact ih hfs

/-- Fragments without references by number match what the first of them matches on its own. -/
theorem SplicedAll.found?_own (h : SplicedAll first lower fragments parts) (hne : fragments ≠ [])
    (hnumberless : ∀ f ∈ fragments, isNumberless f.1 = true) (hbase : base.length ≤ 2 * lower)
    (hs : s ≤ text.size) (hm : m.captures = ⟨base⟩) (finish : Nat → Captures → Captures) :
    let found := ((Node.sequence (Node.choice parts.flatten)).run text {} false none
      (fun j m => .matched ⟨j, finish j m.captures⟩) s m).found?
    let own := fragments.findSome? fun f => f.2.matchAt text s
    (own = none ∧ found = none) ∨ ∃ r before, lower ≤ before ∧ own = some r ∧
      found = some ⟨r.stop, finish r.stop (r.captures.behind base before)⟩ := by
  have hfound := h.found?_numberless hne hbase hs hm finish fun f hf => .inl (hnumberless f hf)
  rwa [List.filter_eq_self.mpr hnumberless] at hfound

/-- The text refers to a group by its number one, and cannot match unless that group is set, if it is
read behind other groups, whatever width the first of them has. -/
structure NeedsFirst (source : String) : Prop where
  numbered : isNumberless source = false
  needs : ∀ w, ∃ ns, readBehind (some w) source = some ns ∧ (Node.sequence ns).needs 1 = true

/-- A fragment that needs the first group needs it where it stands. -/
private theorem Spliced.needs_of_needsFirst {w : Width} {source : String} {p : Pattern} {before : Nat}
    {alts : List (List Node)} (h : Spliced (some w) source p before alts) (hfirst : NeedsFirst source) :
    (Node.sequence (Node.choice alts)).needs 1 = true := by
  obtain ⟨ns, hns, hneeds⟩ := hfirst.needs w
  rw [h.numbered hfirst.numbered ns hns]
  have hrenumbered := Node.needs_renumber (σ := Reader.Setting.renumbering before) hneeds
  rwa [Reader.Setting.renumbering_one] at hrenumbered

/-- A fragment that needs the first group does not match behind other groups. -/
private theorem Spliced.found?_of_needsFirst {w : Width} {source : String} {p : Pattern} {before : Nat}
    {alts : List (List Node)} (h : Spliced (some w) source p before alts) (hbefore : 1 ≤ before)
    (hfirst : NeedsFirst source) (hs : s ≤ text.size) (k : Step) :
    ((Node.sequence (Node.choice alts)).run text {} false none k s { reached := s }).found? = none := by
  have hindexed : (Node.sequence (Node.choice alts)).Indexed (before < ·) fun _ => True :=
    Node.indexed_sequence.mpr (Node.indexed_choice h.indexed)
  exact Node.found?_of_needs (Nat.le_refl 1) hbefore hindexed (h.needs_of_needsFirst hfirst) hs k

/-- Fragments behind other groups match what the first of them without references by number matches on
its own, if the others need the first group. -/
theorem SplicedAll.found?_of_needsFirst {w : Width} (h : SplicedAll (some w) 1 fragments parts)
    (hne : fragments ≠ []) (hfirst : ∀ f ∈ fragments, isNumberless f.1 = true ∨ NeedsFirst f.1)
    (hs : s ≤ text.size) :
    let found := ((Node.sequence (Node.choice parts.flatten)).run text {} false none Step.done s
      { reached := s }).found?
    let own := (fragments.filter (isNumberless ·.1)).findSome? fun f => f.2.matchAt text s
    (own = none ∧ found = none) ∨ ∃ r before, 1 ≤ before ∧ own = some r ∧
      found = some ⟨r.stop, r.captures.behind [] before⟩ :=
  h.found?_numberless hne (Nat.zero_le _) hs (m := { reached := s }) rfl (fun _ c => c) fun f hf =>
    (hfirst f hf).imp id fun hneeds _ _ hbefore hspliced =>
      hspliced.found?_of_needsFirst hbefore hneeds hs _

/-- What the match `r` of a combined pattern shows of the match `own` of the fragment that wins, if
the fragment stands in a group, and if it does not. -/
structure Shows (grouped : Bool) (own r : Match) : Prop where
  stop : r.stop = own.stop
  crossed : r.captures.isCrossed =
    ((grouped && decide (own.stop < own.start)) || own.captures.isCrossed)

/-- A match of a fragment starts where it is tried. -/
theorem start_of_findSome? {own : Match}
    (h : (fragments.findSome? fun f => f.2.matchAt text s) = some own) : own.start = s := by
  obtain ⟨f, -, hf⟩ := List.exists_of_findSome?_eq_some h
  exact start_of_matchAt hf

/-- A group around fragments without references by number matches what the first of them matches on
its own. -/
theorem SplicedAll.group_own {g : Nat} (h : SplicedAll first g fragments parts) (hg : 1 ≤ g)
    (hne : fragments ≠ []) (hnumberless : ∀ f ∈ fragments, isNumberless f.1 = true)
    (hs : s ≤ text.size) :
    let found := ((Node.sequence [.group g (.sequence (Node.choice parts.flatten))]).run text {}
      false none Step.done s { reached := s }).found?
    let own? := fragments.findSome? fun f => f.2.matchAt text s
    (own? = none ∧ found = none) ∨ ∃ own m, own? = some own ∧ found = some m ∧
      Shows true own ⟨s, m.reached, m.captures⟩ ∧ m.captures.mark? (2 * g - 2) = some s := by
  have hopened : ({ reached := s, captures := ({} : Captures).openAt g s } : Memory).captures =
      ⟨Captures.opened g s⟩ := congrArg Captures.mk (Captures.openAt_nil g s)
  have hlength := Captures.length_opened hg s
  -- The group runs its body from the marks in which it is open, and then closes.
  have hbody := h.found?_own hne hnumberless (by omega) hs hopened fun j c => c.closeAt g j
  obtain ⟨hown, hfound⟩ | ⟨own, before, hbefore, hown, hfound⟩ := hbody
  · exact .inl ⟨hown, hfound⟩
  · refine .inr ⟨own, _, hown, hfound, ⟨rfl, ?_⟩, ?_⟩
    · rw [start_of_findSome? hown]
      exact Captures.isCrossed_closeAt_behind hg hbefore s own.stop own.captures
    · exact Captures.mark?_closeAt_behind hg hbefore s own.stop own.captures

/-- A whole pattern that is a choice matches what its first alternative matches that matches. -/
theorem matchAt_choice {p : Pattern} (hflags : p.flags = {}) {alts : List (List Node)}
    (hne : alts ≠ []) (hroot : p.root = .sequence (Node.choice alts)) (hs : s ≤ text.size) :
    p.matchAt text s = (alts.findSome? fun ns => ((Node.sequence ns).run text {} false none
      Step.done s { reached := s }).found?).map fun m => ⟨s, m.reached, m.captures⟩ := by
  have hbeyond : ∀ ns ∈ alts, ∀ n ∈ ns, n.LiesBeyond [] := fun _ _ n _ =>
    n.indexed_of_forall (fun _ => Nat.zero_le _) fun _ => trivial
  have hdone : Step.Alike text (Captures.Keeps []) false Eq Step.done Step.done :=
    finish_alike fun _ c => c
  rw [matchAt_eq, hflags, hroot, Node.found?_choice rfl hne hbeyond hdone hs rfl]

end

end Pattern

open Pattern

/-! ## Comments -/

section

variable {text : Array Char} {s : Nat} {p : Pattern} {comments skipped : List (String × Pattern)}

/-- The combined pattern of comments and skipped blocks. -/
structure CommentPattern (comments skipped : List (String × Pattern)) (p : Pattern) : Prop where
  commentsCompile : ∀ f ∈ comments, Pattern.compile f.1 = .ok f.2
  skippedCompile : ∀ f ∈ skipped, Pattern.compile f.1 = .ok f.2
  compiles : Pattern.compile (combinedComments (comments.map Prod.fst) (skipped.map Prod.fst)) =
    .ok p

/-- A match of the combined pattern is one of the group `body`, whose marks it then has, or one of
the skipped blocks, and then the group has none. -/
theorem CommentPattern.marks (h : CommentPattern comments skipped p) (hs : s ≤ text.size)
    {r : Match} (hr : p.matchAt text s = some r) :
    (r.captures.mark? 0 = some s ∧ r.captures.mark? 1 = some r.stop) ∨
      ∀ i < 2, r.captures.mark? i = none := by
  obtain ⟨_, bodies, blocks, hflags, hbodies, hblocks, hroot⟩ :=
    compile_combinedComments h.commentsCompile h.skippedCompile h.compiles
  rw [matchAt_choice hflags (List.cons_ne_nil _ _) hroot hs] at hr
  obtain ⟨m, hm, rfl⟩ := Option.map_eq_some_iff.mp hr
  rw [List.findSome?_cons] at hm
  split at hm
  · rename_i hbody
    cases hm
    obtain ⟨h₀, h₁, -⟩ := Node.found?_group (Nat.le_refl 1) hbodies.indexed hs hbody
    exact .inl ⟨h₀, h₁⟩
  · split at hm
    · cases hm
    · rw [List.findSome?_singleton] at hm
      exact .inr (Node.found?_clear hblocks.indexed hs hm)

/-- If every skipped block needs the first group, which is `body`, no match is one of a skipped
block. -/
theorem CommentPattern.mark?_of_needsFirst (h : CommentPattern comments skipped p)
    (hfirst : ∀ f ∈ skipped, NeedsFirst f.1) (hs : s ≤ text.size) {r : Match}
    (hr : p.matchAt text s = some r) : r.captures.mark? 0 = some s := by
  obtain ⟨w, bodies, blocks, hflags, hbodies, hblocks, hroot⟩ :=
    compile_combinedComments h.commentsCompile h.skippedCompile h.compiles
  rw [matchAt_choice hflags (List.cons_ne_nil _ _) hroot hs] at hr
  obtain ⟨m, hm, rfl⟩ := Option.map_eq_some_iff.mp hr
  rw [List.findSome?_cons] at hm
  split at hm
  · rename_i hbody
    cases hm
    exact (Node.found?_group (Nat.le_refl 1) hbodies.indexed hs hbody).1
  · cases skipped with
    | nil => cases hm
    | cons f fs =>
      rw [if_neg (by simp), List.findSome?_singleton] at hm
      have hnil : (f :: fs).filter (isNumberless ·.1) = [] :=
        List.filter_eq_nil_iff.mpr fun e he => by simp [(hfirst e he).numbered]
      obtain ⟨-, hnone⟩ | ⟨own, before, -, hown, -⟩ := hblocks.found?_of_needsFirst
        (List.cons_ne_nil f fs) (fun e he => .inr (hfirst e he)) hs
      · cases hm.symm.trans hnone
      · rw [hnil] at hown
        cases hown

/-- The hit of a match whose groups do not cross has the place of the match. -/
theorem CommentPattern.hitOf_cases (h : CommentPattern comments skipped p) {r : Match}
    (hs : r.start ≤ text.size) (hr : p.matchAt text r.start = some r)
    (hcrossed : r.captures.isCrossed = false) :
    (r.captures.mark? 0 = none ∧ CommentMatcher.hitOf text r = ⟨r.start, r.stop, none⟩) ∨
      (r.captures.mark? 0 = some r.start ∧ r.start ≤ r.stop ∧
        CommentMatcher.hitOf text r =
          ⟨r.start, r.stop, some (Text.slice text r.start r.stop)⟩) := by
  unfold CommentMatcher.hitOf CommentMatcher.bodyGroup
  obtain ⟨hopened, hclosed⟩ | hclear := h.marks hs hr
  · have hle := Captures.isCrossed_eq_false_iff.mp hcrossed 0 _ _ hopened hclosed
    rw [Captures.span?_of_marks hopened hclosed hle]
    exact .inr ⟨hopened, hle, rfl⟩
  · have hclear := hclear 0 (by omega)
    rw [Captures.span?_of_not_opened hclear]
    exact .inl ⟨hclear, rfl⟩

/-- What never matches changes nothing. -/
private theorem findSome?_orNever (fragments : List (String × Pattern)) (text : Array Char)
    (s : Nat) : ((orNever fragments).findSome? fun f => f.2.matchAt text s) =
      fragments.findSome? fun f => f.2.matchAt text s := by
  unfold orNever
  split
  · rename_i h
    rw [List.isEmpty_iff.mp h, List.findSome?_singleton]
    rfl
  · rfl

/-- It has no numbers either. -/
private theorem isNumberless_orNever (h : ∀ f ∈ comments, isNumberless f.1 = true) :
    ∀ f ∈ orNever comments, isNumberless f.1 = true := by
  unfold orNever
  split
  · exact List.forall_mem_singleton.mpr (by decide +kernel)
  · exact h

/-- Without references by number the combined pattern matches what the first fragment matches.  Blocks
that need the first group are as good as left out. -/
theorem CommentPattern.matchAt_own (h : CommentPattern comments skipped p)
    (hcomments : ∀ f ∈ comments, isNumberless f.1 = true)
    (hskipped : ∀ f ∈ skipped, isNumberless f.1 = true ∨ NeedsFirst f.1) (hs : s ≤ text.size) :
    let comment? := comments.findSome? fun f => f.2.matchAt text s
    let block? := (skipped.filter (isNumberless ·.1)).findSome? fun f => f.2.matchAt text s
    (comment? = none ∧ block? = none ∧ p.matchAt text s = none) ∨
      (∃ own r, comment? = some own ∧ p.matchAt text s = some r ∧ Shows true own r ∧
        r.captures.mark? 0 = some s) ∨
      ∃ own r, comment? = none ∧ block? = some own ∧ p.matchAt text s = some r ∧
        Shows false own r ∧ r.captures.mark? 0 = none := by
  obtain ⟨_, bodies, blocks, hflags, hbodies, hblocks, hroot⟩ :=
    compile_combinedComments h.commentsCompile h.skippedCompile h.compiles
  dsimp only
  rw [matchAt_choice hflags (List.cons_ne_nil _ _) hroot hs, List.findSome?_cons,
    ← findSome?_orNever comments]
  obtain ⟨hown, hbody⟩ | ⟨own, m, hown, hbody, hshows, hmark⟩ := hbodies.group_own (Nat.le_refl 1)
    (orNever_ne_nil comments) (isNumberless_orNever hcomments) hs
  · rw [CommentMatcher.bodyGroup, hbody, hown]
    cases skipped with
    | nil => exact .inl ⟨rfl, rfl, rfl⟩
    | cons f fs =>
      rw [if_neg (by simp), List.findSome?_singleton]
      obtain ⟨hown', hblock⟩ | ⟨own, before, hbefore, hown', hblock⟩ :=
        hblocks.found?_of_needsFirst (List.cons_ne_nil f fs) hskipped hs
      · exact .inl ⟨rfl, hown', congrArg _ hblock⟩
      · refine .inr (.inr ⟨own, _, rfl, hown', congrArg _ hblock, ⟨rfl, ?_⟩, ?_⟩)
        · exact Captures.isCrossed_behind_nil before own.captures
        · exact Captures.mark?_behind_nil (by omega) own.captures
  · rw [CommentMatcher.bodyGroup, hbody, hown]
    exact .inr (.inl ⟨own, _, rfl, rfl, hshows, hmark⟩)

end

/-! ## Annotation kinds -/

section

variable {text : Array Char} {s : Nat} {names : List (String × Nat)}

/-- The names of the kinds with the numbers of their groups. -/
def groupsOfParts (kinds : List KindFragment) (parts : List (Nat × List (List Node))) :
    List (String × Nat) :=
  (kinds.zip parts).map fun e => (e.1.name, e.2.1)

/-- The match of the first kind that matches at a position on its own. -/
def firstKind? (kinds : List KindFragment) (text : Array Char) (s : Nat) : Option (String × Match) :=
  kinds.findSome? fun k => (k.own.matchAt text s).map fun own => (k.name, own)

/-- What is remembered after a match in which the kind `k` has won: its group `g` has its marks
around the match, the groups before it have none, and if the match does not end before it starts it
is labelled with the kind. -/
structure KindWins (kinds : List KindFragment) (parts : List (Nat × List (List Node))) (s : Nat)
    (m : Memory) (k : KindFragment) (g : Nat) : Prop where
  mem : g ∈ parts.map Prod.fst
  opened : m.captures.mark? (2 * g - 2) = some s
  closed : m.captures.mark? (2 * g - 1) = some m.reached
  clear : ∀ i < 2 * g - 2, m.captures.mark? i = none
  label : s ≤ m.reached →
    AnnotationMatcher.label? m.captures (groupsOfParts kinds parts) = some (k.name, s, m.reached)

/-- The run of one alternative of the combined pattern. -/
private def kindFound? (text : Array Char) (s : Nat) (ns : List Node) : Option Memory :=
  ((Node.sequence ns).run text {} false none Step.done s { reached := s }).found?

/-- The group of one kind: it matches where its fragment does, if that refers to no group by number.
-/
private theorem kind_found {k : KindFragment} {part : Nat × List (List Node)}
    (h : Placed names k part) (hpart : 1 ≤ part.1) (hs : s ≤ text.size) :
    let found := kindFound? text s [.group part.1 (.sequence (Node.choice part.2))]
    let numberless := isNumberless k.source = true
    (found = none ∧ (numberless → k.own.matchAt text s = none)) ∨
      ∃ m, found = some m ∧ m.captures.mark? (2 * part.1 - 2) = some s ∧
        m.captures.mark? (2 * part.1 - 1) = some m.reached ∧
        (∀ i < 2 * part.1 - 2, m.captures.mark? i = none) ∧
        (numberless → ∃ own, k.own.matchAt text s = some own ∧
          Shows true own ⟨s, m.reached, m.captures⟩) := by
  dsimp only
  -- A fragment without numbers matches in its group as it does on its own.
  have hown : isNumberless k.source = true →
      (k.own.matchAt text s = none ∧
        kindFound? text s [.group part.1 (.sequence (Node.choice part.2))] = none) ∨
      ∃ own m, k.own.matchAt text s = some own ∧
        kindFound? text s [.group part.1 (.sequence (Node.choice part.2))] = some m ∧
        Shows true own ⟨s, m.reached, m.captures⟩ := by
    intro hnumberless
    obtain ⟨first, -, hspliced⟩ := h.spliced
    have hgroup := hspliced.group_own hpart (List.cons_ne_nil _ _)
      (List.forall_mem_singleton.mpr hnumberless) hs
    rw [List.findSome?_singleton, List.flatten_singleton] at hgroup
    obtain hnone | ⟨own, m, hown, hfound, hshows, -⟩ := hgroup
    · exact .inl hnone
    · exact .inr ⟨own, m, hown, hfound, hshows⟩
  cases hfound : kindFound? text s [.group part.1 (.sequence (Node.choice part.2))] with
  | none =>
    refine .inl ⟨rfl, fun hnumberless => ?_⟩
    obtain ⟨hnone, -⟩ | ⟨_, _, -, hsome, -⟩ := hown hnumberless
    · exact hnone
    · rw [hfound] at hsome
      cases hsome
  | some m =>
    obtain ⟨first, -, hspliced⟩ := h.spliced
    have hindexed := hspliced.indexed
    rw [List.flatten_singleton] at hindexed
    obtain ⟨hopened, hclosed, hclear⟩ := Node.found?_group hpart hindexed hs hfound
    refine .inr ⟨m, rfl, hopened, hclosed, hclear, fun hnumberless => ?_⟩
    obtain ⟨-, hnone⟩ | ⟨own, m', hown, hsome, hshows⟩ := hown hnumberless
    · rw [hfound] at hnone
      cases hnone
    · rw [hfound] at hsome
      cases hsome
      exact ⟨own, hown, hshows⟩

/-- The group of a kind that needs the first group, and is not the first group itself, does not match.
-/
private theorem kind_lost {k : KindFragment} {part : Nat × List (List Node)}
    (h : Placed names k part) (hpart : 1 < part.1) (hfirst : NeedsFirst k.source)
    (hs : s ≤ text.size) :
    kindFound? text s [.group part.1 (.sequence (Node.choice part.2))] = none := by
  obtain ⟨first, hsome, hspliced⟩ := h.spliced
  obtain ⟨w, rfl⟩ := Option.isSome_iff_exists.mp (hsome hpart)
  obtain ⟨⟨before, hbefore, hspliced⟩, -⟩ := List.forall₂_cons.mp hspliced
  have hindexed : (Node.sequence [.group part.1 (.sequence (Node.choice part.2))]).Indexed (1 < ·)
      fun _ => True := by
    refine Node.indexed_sequence.mpr (List.forall_mem_singleton.mpr ⟨hpart, ?_⟩)
    exact (Node.indexed_sequence.mpr (Node.indexed_choice hspliced.indexed)).mono
      (fun g hg => by omega) fun _ => id
  refine Node.found?_of_needs (Nat.le_refl 1) (Nat.le_refl 1) hindexed ?_ hs _
  exact hspliced.needs_of_needsFirst hfirst

/-- The first kind that matches is found in the combined pattern. -/
private theorem kinds_found {kinds : List KindFragment} {parts : List (Nat × List (List Node))}
    (h : List.Forall₂ (Placed names) kinds parts) (hpos : ∀ part ∈ parts, 1 ≤ part.1)
    (hpairwise : (parts.map Prod.fst).Pairwise (· < ·)) (hs : s ≤ text.size) :
    let found := (kindAlternatives parts).findSome? (kindFound? text s)
    let first? := firstKind? (kinds.filter (isNumberless ·.source)) text s
    let lost := ∀ e ∈ kinds.zip parts,
      isNumberless e.1.source = true ∨ 1 < e.2.1 ∧ NeedsFirst e.1.source
    (found = none ∧ (lost → first? = none)) ∨
      ∃ m k g, found = some m ∧ KindWins kinds parts s m k g ∧
        (lost → ∃ own, first? = some (k.name, own) ∧
          Shows true own ⟨s, m.reached, m.captures⟩) := by
  induction h with
  | nil => exact .inl ⟨rfl, fun _ => rfl⟩
  | @cons k part kinds parts hplaced _ ih =>
    obtain ⟨hpart, hparts⟩ := List.forall_mem_cons.mp hpos
    rw [List.map_cons, List.pairwise_cons] at hpairwise
    obtain ⟨hlt, hpairwise⟩ := hpairwise
    replace ih := ih hparts hpairwise
    dsimp only at ih ⊢
    rw [kindAlternatives, List.map_cons, List.findSome?_cons]
    obtain ⟨hnone, hown⟩ | ⟨m, hsome, hopened, hclosed, hclear, hown⟩ :=
      kind_found hplaced hpart hs
    · rw [hnone]
      -- A kind that does not match here is not the first, with numbers or without.
      have hfirst : firstKind? ((k :: kinds).filter (isNumberless ·.source)) text s =
          firstKind? (kinds.filter (isNumberless ·.source)) text s := by
        rw [List.filter_cons]
        split
        · rename_i hnumberless
          simp [firstKind?, hown hnumberless]
        · rfl
      rw [hfirst]
      obtain ⟨hnone, hkinds⟩ | ⟨m, k', g, hsome, hwins, hkinds⟩ := ih
      · exact .inl ⟨hnone, fun hlost => hkinds (List.forall_mem_cons.mp hlost).2⟩
      · refine .inr ⟨m, k', g, hsome, ⟨List.mem_cons_of_mem _ hwins.mem, hwins.opened, hwins.closed,
          hwins.clear, fun hle => ?_⟩, fun hlost => hkinds (List.forall_mem_cons.mp hlost).2⟩
        · -- The kind that wins comes later, so the group of this one is not opened.
          have hlt := hlt g hwins.mem
          have hspan : m.captures.span? part.1 = none :=
            Captures.span?_of_not_opened (hwins.clear _ (by omega))
          simp only [groupsOfParts, List.zip_cons_cons, List.map_cons, AnnotationMatcher.label?,
            hspan]
          exact hwins.label hle
    · rw [hsome]
      refine .inr ⟨m, k, part.1, rfl, ⟨List.mem_cons_self, hopened, hclosed, hclear, fun hle => ?_⟩,
        fun hlost => ?_⟩
      · simp only [groupsOfParts, List.zip_cons_cons, List.map_cons, AnnotationMatcher.label?,
          Captures.span?_of_marks hopened hclosed hle]
      · obtain hnumberless | ⟨hlt, hneeds⟩ := (List.forall_mem_cons.mp hlost).1
        · obtain ⟨own, hown, hshows⟩ := hown hnumberless
          refine ⟨own, ?_, hshows⟩
          rw [List.filter_cons, if_pos hnumberless]
          simp [firstKind?, hown]
        · cases hsome.symm.trans (kind_lost hplaced hlt hneeds hs)

/-- The combined pattern of the kinds, with the groups that tell them apart. -/
structure KindPattern (kinds : List KindFragment) (groups : List (String × Nat)) (p : Pattern) :
    Prop where
  valid : ∀ k ∈ kinds, k.Valid
  compiles : Pattern.compile (combinedKinds (kinds.map KindFragment.group)) = .ok p
  numbered : List.Forall₂ (fun k e => e.1 = k.name ∧ p.names.lookup k.name = some e.2) kinds groups

/-- How a match is labelled: with a kind and its own place, unless it ends before it starts; then its
groups cannot be told. -/
structure Labelled (groups : List (String × Nat)) (name : String) (r : Match) : Prop where
  label : r.start ≤ r.stop →
    AnnotationMatcher.label? r.captures groups = some (name, r.start, r.stop)
  crossed : r.stop < r.start → r.captures.isCrossed = true

/-- Each kind has the group in which it stands. -/
private theorem groups_eq {p : Pattern} {kinds : List KindFragment} {groups : List (String × Nat)}
    {parts : List (Nat × List (List Node))}
    (hgroups : List.Forall₂ (fun k e => e.1 = k.name ∧ p.names.lookup k.name = some e.2) kinds groups)
    (hparts : List.Forall₂ (Placed p.names) kinds parts) : groups = groupsOfParts kinds parts := by
  induction hgroups generalizing parts with
  | nil =>
    cases hparts
    rfl
  | @cons k e kinds groups he _ ih =>
    cases hparts with
    | @cons _ part _ parts hplaced hrest =>
      obtain ⟨name, g⟩ := e
      obtain ⟨rfl, hlookup⟩ := he
      have hg : some g = some part.1 := hlookup.symm.trans hplaced.lookup
      rw [ih hrest, Option.some.inj hg]
      rfl

/-- A match is labelled with the kind that wins. -/
private theorem KindWins.labelled {kinds : List KindFragment}
    {parts : List (Nat × List (List Node))} {m : Memory} {k : KindFragment} {g : Nat}
    (h : KindWins kinds parts s m k g) (hg : 1 ≤ g) :
    Labelled (groupsOfParts kinds parts) k.name ⟨s, m.reached, m.captures⟩ where
  label hle := h.label hle
  crossed hlt := by
    obtain ⟨g, rfl⟩ := Nat.exists_eq_succ_of_ne_zero (by omega : g ≠ 0)
    by_contra hcrossed
    have hle := Captures.isCrossed_eq_false_iff.mp (Bool.eq_false_iff.mpr hcrossed) g s
      m.reached h.opened h.closed
    exact absurd hle (Nat.not_le_of_lt hlt)

/-- The kinds with references by number need the first group, and the first kind has none. -/
structure NumbersLost (kinds : List KindFragment) : Prop where
  head : ∀ k ∈ kinds.head?, isNumberless k.source = true
  needs : ∀ k ∈ kinds, isNumberless k.source = true ∨ NeedsFirst k.source

/-- Kinds with numbers do not stand first. -/
private theorem NumbersLost.zip {kinds : List KindFragment} (h : NumbersLost kinds)
    {parts : List (Nat × List (List Node))} (hpos : ∀ part ∈ parts, 1 ≤ part.1)
    (hpairwise : (parts.map Prod.fst).Pairwise (· < ·)) :
    ∀ e ∈ kinds.zip parts, isNumberless e.1.source = true ∨ 1 < e.2.1 ∧ NeedsFirst e.1.source := by
  cases kinds with
  | nil => exact nofun
  | cons k ks =>
    cases parts with
    | nil => exact nofun
    | cons part parts =>
      obtain ⟨hpart, -⟩ := List.forall_mem_cons.mp hpos
      obtain ⟨hlt, -⟩ := List.pairwise_cons.mp hpairwise
      refine List.forall_mem_cons.mpr ⟨.inl (h.head k rfl), fun e he => ?_⟩
      obtain ⟨hk, hpart'⟩ := List.of_mem_zip he
      have hlt := hlt e.2.1 (List.mem_map_of_mem hpart')
      exact (h.needs e.1 (List.mem_cons_of_mem _ hk)).imp id fun hneeds => ⟨by omega, hneeds⟩

/-- The combined pattern of the kinds labels its matches.  If kinds with references by number are lost,
it matches what the first of the others matches that matches at all. -/
theorem KindPattern.matchAt_cases {kinds : List KindFragment} {groups : List (String × Nat)}
    {p : Pattern} (h : KindPattern kinds groups p) (hs : s ≤ text.size) :
    let first? := firstKind? (kinds.filter (isNumberless ·.source)) text s
    (p.matchAt text s = none ∧ (NumbersLost kinds → first? = none)) ∨
      ∃ name r, p.matchAt text s = some r ∧ Labelled groups name r ∧
        (NumbersLost kinds → ∃ own, first? = some (name, own) ∧ Shows true own r) := by
  dsimp only
  by_cases hne : kinds = []
  · subst hne
    have hp := h.compiles.symm.trans compile_neverMatch
    cases hp
    exact .inl ⟨rfl, fun _ => rfl⟩
  · obtain ⟨parts, hflags, hroot, hpos, hpairwise, hparts⟩ :=
      compile_combinedKinds hne h.valid h.compiles
    have halts : kindAlternatives parts ≠ [] := by
      rintro hnil
      rw [List.map_eq_nil_iff.mp hnil] at hparts
      cases hparts
      exact hne rfl
    rw [matchAt_choice hflags halts hroot hs, groups_eq h.numbered hparts]
    obtain ⟨hnone, hkinds⟩ | ⟨m, k, g, hsome, hwins, hkinds⟩ :=
      kinds_found hparts hpos hpairwise hs
    · exact .inl ⟨congrArg _ hnone, fun hlost => hkinds (hlost.zip hpos hpairwise)⟩
    · obtain ⟨part, hpart, rfl⟩ := List.mem_map.mp hwins.mem
      exact .inr ⟨k.name, _, congrArg _ hsome, hwins.labelled (hpos part hpart),
        fun hlost => hkinds (hlost.zip hpos hpairwise)⟩

end

end Marginalia
