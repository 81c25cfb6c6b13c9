import Marginalia.Proofs.Matcher.Matching
import Marginalia.Proofs.Pattern.Openings
import Marginalia.Registry.Warnings

/-!
# Which fragment wins

A combined pattern is put together from fragments as a text.  What its search finds can be told from
the fragments alone, each compiled on its own: at a position the first fragment that matches there
wins (`winner?`), and a search finds the winner at the first position that has one (`Leftmost`).

## What a search leaves out

A search does not try every position (`Pattern.Tries`), and it gives no result where a group of the
match starts behind its end.  Neither happens with a plain pattern (`Pattern.isPlain`): there the
winner is the one at the first position of all.  `commentMatcher_misses` is a pattern that is not
plain: its class is compared in ASCII, but the positions are chosen without regard to that.
-/

namespace Marginalia

open Pattern

/-! ## Fragments on their own -/

namespace Fragment

/-- Does the fragment refer to no group by number? -/
def isNumberless (f : Fragment) : Bool := f.source?.any Pattern.isNumberless

/-- The fragment cannot match behind other groups unless the first of them is set. -/
def NeedsFirst (f : Fragment) : Prop := ∃ source, f.source? = some source ∧ Pattern.NeedsFirst source

/-- The match at a position of the fragment that is compiled on its own. -/
def matchAt? (f : Fragment) (text : Array Char) (s : Nat) : Option Match := do
  let source ← f.source?
  let p ← (Pattern.compile source).toOption
  p.matchAt text s

/-- The fragment is the text `e.1`, which compiles to the pattern `e.2`. -/
structure Compiles (f : Fragment) (e : String × Pattern) : Prop where
  source : f.source? = some e.1
  compiles : Pattern.compile e.1 = .ok e.2

/-- A fragment matches as the pattern it compiles to. -/
theorem Compiles.matchAt?_eq {f : Fragment} {e : String × Pattern} (h : f.Compiles e)
    (text : Array Char) (s : Nat) : f.matchAt? text s = e.2.matchAt text s := by
  simp [matchAt?, h.source, h.compiles, Except.toOption]

/-- A fragment refers to groups as its text does. -/
theorem Compiles.isNumberless_eq {f : Fragment} {e : String × Pattern} (h : f.Compiles e) :
    f.isNumberless = Pattern.isNumberless e.1 := by
  rw [isNumberless, h.source, Option.any_some]

theorem Compiles.needsFirst {f : Fragment} {e : String × Pattern} (h : f.Compiles e)
    (hf : f.NeedsFirst) : Pattern.NeedsFirst e.1 := by
  obtain ⟨source, hsource, hneeds⟩ := hf
  cases hsource.symm.trans h.source
  exact hneeds

end Fragment

/-- The first of the fragments that matches at a position on its own: its label and its match. -/
def winner? {α : Type} (fragments : List (α × Fragment)) (text : Array Char) (s : Nat) :
    Option (α × Match) :=
  fragments.findSome? fun e => (e.2.matchAt? text s).map fun own => (e.1, own)

/-- The winner among fragments by the patterns they compile to. -/
theorem winner?_of_compiles {α : Type} {label : α} {fs : List Fragment}
    {es : List (String × Pattern)} (h : List.Forall₂ Fragment.Compiles fs es) (text : Array Char)
    (s : Nat) : winner? (fs.map (label, ·)) text s =
      (es.findSome? fun e => e.2.matchAt text s).map fun own => (label, own) := by
  induction h with
  | nil => rfl
  | @cons f e fs es hf _ ih =>
    unfold winner? at ih ⊢
    rw [List.map_cons, List.findSome?_cons, List.findSome?_cons, hf.matchAt?_eq, ih]
    cases e.2.matchAt text s <;> rfl

/-! ## The fragments of a language and of the annotation kinds -/

/-- The fragments of a language in their order, with whether they are comments. -/
def Language.roles (l : Language) : List (Bool × Fragment) :=
  (l.lineComments ++ l.blockComments).map (true, ·) ++ l.skippedBlocks.map (false, ·)

/-- All fragments of a language have a role. -/
theorem Language.forall_mem_roles {l : Language} (h : ∀ f ∈ l.fragments, f.isNumberless = true) :
    ∀ e ∈ l.roles, e.2.isNumberless = true := by
  obtain ⟨hcomment, hskip⟩ := List.forall_mem_append.mp h
  refine List.forall_mem_append.mpr ⟨fun e he => ?_, fun e he => ?_⟩
  · obtain ⟨f, hf, rfl⟩ := List.mem_map.mp he
    exact hcomment f hf
  · obtain ⟨f, hf, rfl⟩ := List.mem_map.mp he
    exact hskip f hf

/-- The fragments of the annotation kinds in their order, with the names of the kinds. -/
def kindFragments (kinds : List (Value × Fragment)) : List (String × Fragment) :=
  kinds.map fun k => (k.1.text, k.2)

/-- What compiles for an owner compiles. -/
theorem compileFor_ok {owner : PatternOwner} {shown source : String} {p : Pattern}
    (h : compileFor owner shown source = .ok p) : Pattern.compile source = .ok p := by
  unfold compileFor at h
  split at h
  · rename_i hp
    cases h
    exact hp
  · cases h

/-- A fragment that passes compiles on its own. -/
theorem checkFragment_ok {owner : PatternOwner} {f : Fragment} {source : String}
    (h : checkFragment owner f = .ok source) : ∃ p, f.Compiles (source, p) := by
  cases f with
  | other v => cases h
  | text s =>
    obtain ⟨p, hp, h⟩ := bind_eq_ok.mp h
    cases h
    exact ⟨p, rfl, compileFor_ok hp⟩

/-- So do several fragments. -/
theorem checkFragments_ok {owner : PatternOwner} {fs : List Fragment} {sources : List String}
    (h : checkFragments owner fs = .ok sources) :
    ∃ es, sources = es.map Prod.fst ∧ List.Forall₂ Fragment.Compiles fs es := by
  induction fs generalizing sources with
  | nil =>
    cases h
    exact ⟨[], rfl, .nil⟩
  | cons f fs ih =>
    obtain ⟨source, hsource, h⟩ := bind_eq_ok.mp h
    obtain ⟨rest, hrest, h⟩ := bind_eq_ok.mp h
    cases h
    obtain ⟨p, hp⟩ := checkFragment_ok hsource
    obtain ⟨es, rfl, hes⟩ := ih hrest
    exact ⟨(source, p) :: es, rfl, .cons hp hes⟩

/-- What holds of the members of a list holds, carried over, of those of a related one. -/
theorem forall_mem_of_forall₂ {α β : Type} {R : α → β → Prop} {P : α → Prop} {Q : β → Prop}
    {as : List α} {bs : List β} (h : List.Forall₂ R as bs) (has : ∀ a ∈ as, P a)
    (hR : ∀ a b, P a → R a b → Q b) : ∀ b ∈ bs, Q b := by
  induction h with
  | nil => exact nofun
  | cons hab _ ih =>
    obtain ⟨ha, has⟩ := List.forall_mem_cons.mp has
    exact List.forall_mem_cons.mpr ⟨hR _ _ ha hab, ih has⟩

/-- The patterns are those of the texts. -/
private theorem compile_of_compiles {fs : List Fragment} {es : List (String × Pattern)}
    (h : List.Forall₂ Fragment.Compiles fs es) : ∀ e ∈ es, Pattern.compile e.1 = .ok e.2 :=
  forall_mem_of_forall₂ h (fun _ _ => trivial) fun _ _ _ he => he.compiles

/-- Texts of fragments without numbers have none. -/
private theorem numberless_of_compiles {fs : List Fragment} {es : List (String × Pattern)}
    (h : List.Forall₂ Fragment.Compiles fs es) (hfs : ∀ f ∈ fs, f.isNumberless = true) :
    ∀ e ∈ es, Pattern.isNumberless e.1 = true :=
  forall_mem_of_forall₂ h hfs fun _ _ hf he => he.isNumberless_eq ▸ hf

/-- The winner among the fragments of a list that have no references by number. -/
private theorem winner?_numberless {α : Type} (label : α) {fs : List Fragment}
    {es : List (String × Pattern)} (h : List.Forall₂ Fragment.Compiles fs es) (text : Array Char)
    (s : Nat) : winner? ((fs.map (label, ·)).filter (·.2.isNumberless)) text s =
      ((es.filter (Pattern.isNumberless ·.1)).findSome? fun e => e.2.matchAt text s).map
        fun own => (label, own) := by
  have hkept : List.Forall₂ Fragment.Compiles (fs.filter Fragment.isNumberless)
      (es.filter (Pattern.isNumberless ·.1)) :=
    List.rel_filter (fun _ _ hf => Bool.eq_iff_iff.mp hf.isNumberless_eq) h
  rw [List.filter_map]
  exact winner?_of_compiles hkept text s

/-- The matcher of a language has the combined pattern of fragments that each compile. -/
theorem Language.commentMatcher_ok {l : Language} {m : CommentMatcher}
    (h : l.commentMatcher = .ok m) :
    ∃ comments skipped,
      List.Forall₂ Fragment.Compiles (l.lineComments ++ l.blockComments) comments ∧
      List.Forall₂ Fragment.Compiles l.skippedBlocks skipped ∧
      CommentPattern comments skipped m.pattern := by
  obtain ⟨source, hsource, h⟩ := bind_eq_ok.mp h
  obtain ⟨p, hp, h⟩ := bind_eq_ok.mp h
  cases h
  obtain ⟨_, hlines, hsource⟩ := bind_eq_ok.mp hsource
  obtain ⟨_, hblocks, hsource⟩ := bind_eq_ok.mp hsource
  obtain ⟨_, hskips, hsource⟩ := bind_eq_ok.mp hsource
  cases hsource
  obtain ⟨line, rfl, hline⟩ := checkFragments_ok hlines
  obtain ⟨block, rfl, hblock⟩ := checkFragments_ok hblocks
  obtain ⟨skipped, rfl, hskipped⟩ := checkFragments_ok hskips
  have hcomments := List.rel_append hline hblock
  refine ⟨line ++ block, skipped, hcomments, hskipped, compile_of_compiles hcomments,
    compile_of_compiles hskipped, ?_⟩
  rw [List.map_append]
  exact compileFor_ok hp

/-- The kind `k` of a table is the kind `e` of a combined pattern. -/
structure IsKind (k : Value × Fragment) (e : KindFragment) : Prop where
  name : k.1.text = e.name
  fragment : k.2.Compiles (e.source, e.own)

/-- Each kind has a group with its fragment in it. -/
theorem kindGroups_ok {kinds : List (Value × Fragment)} {groups : List String}
    (h : kindGroups kinds = .ok groups) :
    ∃ es : List KindFragment, groups = es.map KindFragment.group ∧ List.Forall₂ IsKind kinds es := by
  induction kinds generalizing groups with
  | nil =>
    cases h
    exact ⟨[], rfl, .nil⟩
  | cons k kinds ih =>
    obtain ⟨source, hsource, h⟩ := bind_eq_ok.mp h
    obtain ⟨rest, hrest, h⟩ := bind_eq_ok.mp h
    cases h
    obtain ⟨p, hp⟩ := checkFragment_ok hsource
    obtain ⟨es, rfl, hes⟩ := ih hrest
    exact ⟨⟨k.1.text, source, p⟩ :: es, rfl, .cons ⟨rfl, hp⟩ hes⟩

/-- Each name is that of a group of the combined pattern. -/
private theorem groupsOf_ok {p : Pattern} {kinds : List (Value × Fragment)}
    {es : List KindFragment} {groups : List (String × Nat)} (hkinds : List.Forall₂ IsKind kinds es)
    (h : AnnotationMatcher.groupsOf p (kinds.map Prod.fst) = .ok groups) :
    List.Forall₂ (fun k e => e.1 = k.name ∧ p.names.lookup k.name = some e.2) es groups := by
  induction hkinds generalizing groups with
  | nil =>
    cases h
    exact .nil
  | @cons k e kinds es hk _ ih =>
    rw [List.map_cons, AnnotationMatcher.groupsOf] at h
    split at h
    · rename_i g hg
      obtain ⟨rest, hrest, h⟩ := bind_eq_ok.mp h
      cases h
      refine .cons ?_ (ih hrest)
      obtain ⟨name, fragment⟩ := k
      cases name with
      | str s =>
        obtain ⟨number, hlookup, rfl⟩ := Option.map_eq_some_iff.mp hg
        have hname : s = e.name := hk.name
        exact ⟨hname, hname ▸ hlookup⟩
      | _ => cases hg
    · cases h

/-- The matcher of the kinds has the combined pattern of fragments that each compile.  Since each
kind has a group of its name, each name is one that a group can have. -/
theorem AnnotationMatcher.ofKinds_ok {kinds : List (Value × Fragment)} {m : AnnotationMatcher}
    (h : AnnotationMatcher.ofKinds kinds = .ok m) :
    ∃ es, List.Forall₂ IsKind kinds es ∧ KindPattern es m.groups m.pattern := by
  obtain ⟨source, hsource, h⟩ := bind_eq_ok.mp h
  obtain ⟨p, hp, h⟩ := bind_eq_ok.mp h
  obtain ⟨groups, hgroups, h⟩ := bind_eq_ok.mp h
  cases h
  obtain ⟨_, hkinds, hsource⟩ := bind_eq_ok.mp hsource
  cases hsource
  obtain ⟨es, rfl, hes⟩ := kindGroups_ok hkinds
  have hnumbered := groupsOf_ok hes hgroups
  have hcompiles := compileFor_ok hp
  have hnames : ∀ e ∈ es, Text.isIdentifier e.name.toList = true := by
    refine forall_mem_of_forall₂ hnumbered.flip (fun _ _ => trivial) fun g e _ he => ?_
    obtain ⟨before, after, hsplit, -⟩ := List.lookup_eq_some_iff.mp he.2
    exact isIdentifier_of_mem_names hcompiles (e.name, g.2) (by rw [hsplit]; simp)
  have hcompile : ∀ e ∈ es, Pattern.compile e.source = .ok e.own :=
    forall_mem_of_forall₂ hes (fun _ _ => trivial) fun _ _ _ he => he.fragment.compiles
  refine ⟨es, hes, fun e he => ⟨?_, ?_, hcompile e he⟩, hcompiles, hnumbered⟩
  · exact Text.not_mem_of_isIdentifier (hnames e he) (by decide) (by decide)
  · exact Text.not_mem_of_isIdentifier (hnames e he) (by decide) (by decide)

/-! ## The first position that has a winner -/

/-- The answer of a search from left to right: the first position that is tried and has a winner, with
the winner there, or nothing if no position that is tried has one. -/
inductive Leftmost {α : Type} (tried : Nat → Prop) (winner : Nat → Option α) :
    Option (Nat × α) → Prop
  | nowhere (h : ∀ s, tried s → winner s = none) : Leftmost tried winner none
  | first {s : Nat} {w : α} (htried : tried s) (hw : winner s = some w)
    (hfirst : ∀ s' < s, tried s' → winner s' = none) : Leftmost tried winner (some (s, w))

section

variable {α β : Type} {tried tried' : Nat → Prop} {w : Nat → Option α} {w' : Nat → Option β}

/-- Positions without a winner may be tried as well. -/
theorem Leftmost.widen {found : Option (Nat × α)} (h : Leftmost tried w found)
    (hsub : ∀ s, tried s → tried' s) (hw : ∀ s, tried' s → w s ≠ none → tried s) :
    Leftmost tried' w found := by
  have hnone : ∀ s, tried' s → (tried s → w s = none) → w s = none := by
    intro s htried hs
    by_contra hne
    exact hne (hs (hw s htried hne))
  cases h with
  | nowhere h => exact .nowhere fun s hs => hnone s hs (h s)
  | first htried hs hfirst =>
    exact .first (hsub _ htried) hs fun s' hlt hs' => hnone s' hs' (hfirst s' hlt)

/-- Two searches whose winners are related at every position find related winners. -/
theorem Leftmost.transfer {R : Nat → α → β → Prop} {found : Option (Nat × α)}
    (h : Leftmost tried w found)
    (hR : ∀ s, tried s → (w s = none ∧ w' s = none) ∨
      ∃ x y, w s = some x ∧ w' s = some y ∧ R s x y) :
    ∃ found', Leftmost tried w' found' ∧ (found = none ∧ found' = none ∨
      ∃ s x y, tried s ∧ found = some (s, x) ∧ found' = some (s, y) ∧ R s x y) := by
  have hnone : ∀ s, tried s → w s = none → w' s = none := by
    intro s htried hs
    obtain ⟨-, hs'⟩ | ⟨x, y, hx, -, -⟩ := hR s htried
    · exact hs'
    · rw [hs] at hx
      cases hx
  cases h with
  | nowhere h => exact ⟨none, .nowhere fun s hs => hnone s hs (h s hs), .inl ⟨rfl, rfl⟩⟩
  | @first s x htried hs hfirst =>
    obtain ⟨hs', -⟩ | ⟨x', y, hx, hy, hxy⟩ := hR s htried
    · rw [hs] at hs'
      cases hs'
    · rw [hs] at hx
      cases hx
      exact ⟨some (s, y), .first htried hy fun s' hlt hs' => hnone s' hs' (hfirst s' hlt hs'),
        .inr ⟨s, x, y, htried, rfl, rfl, hxy⟩⟩

end

/-- A search finds the match at the first position that it tries and that has one. -/
theorem Pattern.leftmost_find? (p : Pattern) {text : Array Char} {position : Nat}
    (hposition : position ≤ text.size) :
    Leftmost (p.Tries text position) (p.matchAt text)
      ((p.find? text position).map fun r => (r.start, r)) := by
  cases hfind : p.find? text position with
  | none => exact .nowhere ((find?_eq_none_iff hposition).mp hfind)
  | some r =>
    obtain ⟨htries, hr, hfirst⟩ := (find?_eq_some_iff hposition).mp hfind
    exact .first htries hr hfirst

/-- What a search comes to, in terms of winners that are related to the pattern's own matches.  With
a plain pattern no position is left out, and no group crosses. -/
theorem Pattern.search_winner {α : Type} {p : Pattern} {source : String} {text : Array Char}
    {w : Nat → Option α} {R : Match → α → Prop} (hp : Pattern.compile source = .ok p)
    (hR : ∀ s ≤ text.size, (p.matchAt text s = none ∧ w s = none) ∨
      ∃ r x, p.matchAt text s = some r ∧ w s = some x ∧ R r x)
    {position : Nat} (hposition : position ≤ text.size) :
    ∃ found, Leftmost (p.Tries text position) w found ∧
      (p.isPlain = true → Leftmost (fun s => position ≤ s ∧ s ≤ text.size) w found) ∧
      (found = none ∧ p.search text position = .ok none ∨
        ∃ r x, found = some (r.start, x) ∧ R r x ∧ r.start ≤ text.size ∧
          p.matchAt text r.start = some r ∧
          (p.isPlain = true → r.captures.isCrossed = false) ∧
          p.search text position = if r.captures.isCrossed then .error ⟨⟩ else .ok (some r)) := by
  obtain ⟨found, hfound, hcases⟩ := (p.leftmost_find? hposition).transfer
    (R := fun _ r x => R r x) fun s hs => hR s (hs.le_size hposition)
  refine ⟨found, hfound, fun hplain => ?_, ?_⟩
  · refine hfound.widen (fun s hs => ⟨hs.le, hs.le_size hposition⟩) ?_
    rintro s ⟨hle, hsize⟩ hs
    obtain ⟨-, hnone⟩ | ⟨r, x, hr, -, -⟩ := hR s hsize
    · exact absurd hnone hs
    · exact tries_of_matchAt hp hplain hsize hr hle
  · unfold Pattern.search
    obtain ⟨hnone, rfl⟩ | ⟨s, r, x, htries, hsome, rfl, hrx⟩ := hcases
    · rw [Option.map_eq_none_iff.mp hnone]
      exact .inl ⟨rfl, rfl⟩
    · obtain ⟨r', hr', heq⟩ := Option.map_eq_some_iff.mp hsome
      cases heq
      obtain ⟨-, hmatch, -⟩ := (find?_eq_some_iff hposition).mp hr'
      have hsize := htries.le_size hposition
      rw [hr']
      refine .inr ⟨r, x, rfl, hrx, hsize, hmatch, fun hplain => ?_, rfl⟩
      exact (forward_of_matchAt hp (Bool.and_eq_true_iff.mp hplain).1 hsize hmatch).2.2

/-! ## Comments -/

/-- Do the groups of a match cross, given the match of the fragment that wins: one of its own groups,
or the group around it if the match ends before it starts? -/
def crosses (grouped : Bool) (s : Nat) (own : Match) : Bool :=
  (grouped && decide (own.stop < s)) || own.captures.isCrossed

/-- The hit of a fragment that wins at a position: a comment has a body, a skipped block has none. -/
def commentHit (text : Array Char) (w : Nat × Bool × Match) : CommentMatch :=
  ⟨w.1, w.2.2.stop, if w.2.1 then some (Text.slice text w.1 w.2.2.stop) else none⟩

/-- The answer to a search for comments, given the fragment that wins. -/
def commentAnswer (text : Array Char) :
    Option (Nat × Bool × Match) → Except CrossedGroup (Option CommentMatch)
  | none => .ok none
  | some w => if crosses w.2.1 w.1 w.2.2 then .error ⟨⟩ else .ok (some (commentHit text w))

/-- How a match of the combined pattern shows the winner. -/
structure ShowsComment (r : Match) (w : Bool × Match) : Prop where
  shows : Shows w.1 w.2 r
  start : w.2.start = r.start
  opened : r.captures.mark? 0 = if w.1 then some r.start else none

/-- The combined pattern of a language matches what the first fragment without references by number
matches, if the other fragments are blocks that need the first group. -/
theorem comment_winner {l : Language} {comments skipped : List (String × Pattern)} {p : Pattern}
    (hcomments : List.Forall₂ Fragment.Compiles (l.lineComments ++ l.blockComments) comments)
    (hskipped : List.Forall₂ Fragment.Compiles l.skippedBlocks skipped)
    (h : CommentPattern comments skipped p)
    (hcomment : ∀ f ∈ l.lineComments ++ l.blockComments, f.isNumberless = true)
    (hskip : ∀ f ∈ l.skippedBlocks, f.isNumberless = true ∨ f.NeedsFirst)
    {text : Array Char} {s : Nat} (hs : s ≤ text.size) :
    let winner := winner? (l.roles.filter (·.2.isNumberless)) text s
    (p.matchAt text s = none ∧ winner = none) ∨
      ∃ r w, p.matchAt text s = some r ∧ winner = some w ∧ ShowsComment r w := by
  dsimp only
  -- Comments come before skipped blocks.
  have hwinner : winner? (l.roles.filter (·.2.isNumberless)) text s =
      ((comments.findSome? fun e => e.2.matchAt text s).map (true, ·)).or
        (((skipped.filter (Pattern.isNumberless ·.1)).findSome? fun e => e.2.matchAt text s).map
          (false, ·)) := by
    have hcomments' := winner?_numberless true hcomments
    rw [List.filter_eq_self.mpr (numberless_of_compiles hcomments hcomment)] at hcomments'
    rw [winner?, Language.roles, List.filter_append, List.findSome?_append]
    exact congrArg₂ Option.or (hcomments' text s) (winner?_numberless false hskipped text s)
  obtain ⟨hcomment, hskip, hnone⟩ | ⟨own, r, hcomment, hr, hshows, hmark⟩ |
      ⟨own, r, hcomment, hskip, hr, hshows, hmark⟩ :=
    h.matchAt_own (numberless_of_compiles hcomments hcomment)
      (forall_mem_of_forall₂ hskipped hskip fun _ _ hf he =>
        hf.imp (he.isNumberless_eq ▸ ·) he.needsFirst) hs
  · rw [hwinner, hcomment, hskip]
    exact .inl ⟨hnone, rfl⟩
  · rw [hwinner, hcomment]
    have hstart := start_of_matchAt hr
    exact .inr ⟨r, _, hr, rfl, hshows, (start_of_findSome? hcomment).trans hstart.symm,
      hstart ▸ hmark⟩
  · rw [hwinner, hcomment, hskip]
    have hstart := start_of_matchAt hr
    exact .inr ⟨r, _, hr, rfl, hshows, (start_of_findSome? hskip).trans hstart.symm, hmark⟩

/-- Groups of the match cross as those of the winner do. -/
private theorem ShowsComment.isCrossed {r : Match} {w : Bool × Match} (h : ShowsComment r w) :
    r.captures.isCrossed = crosses w.1 r.start w.2 := by
  rw [h.shows.crossed, h.start, crosses]

/-- The hit is that of the winner. -/
private theorem ShowsComment.hitOf {comments skipped : List (String × Pattern)} {p : Pattern}
    (hp : CommentPattern comments skipped p) {text : Array Char} {r : Match} {w : Bool × Match}
    (h : ShowsComment r w) (hr : p.matchAt text r.start = some r) (hsize : r.start ≤ text.size)
    (hcrosses : crosses w.1 r.start w.2 = false) :
    CommentMatcher.hitOf text r = commentHit text (r.start, w) := by
  obtain ⟨isComment, own⟩ := w
  have hopened := h.opened
  have hcrossed := h.isCrossed.trans hcrosses
  obtain ⟨hmark, hhit⟩ | ⟨hmark, -, hhit⟩ := hp.hitOf_cases hsize hr hcrossed
  · rw [hhit, h.shows.stop]
    cases isComment with
    | false => rfl
    | true => cases hmark.symm.trans hopened
  · rw [hhit, h.shows.stop]
    cases isComment with
    | false => cases hmark.symm.trans hopened
    | true => rfl

/-- A search for comments finds the first fragment that wins at a position that is tried, and with a
plain pattern the first of all. -/
theorem CommentMatcher.search_leftmost {l : Language} {m : CommentMatcher}
    (h : l.commentMatcher = .ok m) (hnumberless : ∀ f ∈ l.fragments, f.isNumberless = true)
    {text : Array Char} {position : Nat} (hposition : position ≤ text.size) :
    (∃ found, Leftmost (m.pattern.Tries text position) (winner? l.roles text) found ∧
      m.search text position = commentAnswer text found) ∧
    (m.pattern.isPlain = true → ∃ found,
      Leftmost (fun s => position ≤ s ∧ s ≤ text.size) (winner? l.roles text) found ∧
        m.search text position = .ok (found.map (commentHit text))) := by
  obtain ⟨comments, skipped, hcomments, hskipped, hp⟩ := Language.commentMatcher_ok h
  obtain ⟨hcomment, hskip⟩ := List.forall_mem_append.mp hnumberless
  have hroles : l.roles.filter (·.2.isNumberless) = l.roles :=
    List.filter_eq_self.mpr (Language.forall_mem_roles hnumberless)
  have hwinner {s : Nat} (hs : s ≤ text.size) := comment_winner hcomments hskipped hp hcomment
    (fun f hf => .inl (hskip f hf)) hs
  simp only [hroles] at hwinner
  obtain ⟨found, hfound, hplain, ⟨rfl, hsearch⟩ | ⟨r, w, rfl, hshows, hsize, hr, hforward, hsearch⟩⟩ :=
    search_winner hp.compiles (fun s hs => hwinner (s := s) hs) hposition
  · unfold CommentMatcher.search
    rw [hsearch]
    exact ⟨⟨none, hfound, rfl⟩, fun h => ⟨none, hplain h, rfl⟩⟩
  · unfold CommentMatcher.search
    rw [hsearch, hshows.isCrossed]
    refine ⟨⟨some (r.start, w), hfound, ?_⟩, fun h => ⟨some (r.start, w), hplain h, ?_⟩⟩
    · cases hcrosses : crosses w.1 r.start w.2 with
      | true => simp [commentAnswer, hcrosses]
      | false => simp [commentAnswer, hcrosses, hshows.hitOf hp hr hsize hcrosses]
    · have hcrosses : crosses w.1 r.start w.2 = false := hshows.isCrossed ▸ hforward h
      simp [hcrosses, hshows.hitOf hp hr hsize hcrosses]

/-! ## Annotation kinds -/

/-- The hit of a kind that wins at a position. -/
def annotationHit (text : Array Char) (w : Nat × String × Match) : AnnotationMatch :=
  ⟨w.2.1, w.1, w.2.2.stop, Text.slice text w.1 w.2.2.stop⟩

/-- The answer to a search for annotations, given the kind that wins. -/
def annotationAnswer (text : Array Char) :
    Option (Nat × String × Match) → Except ScanError (Option AnnotationMatch)
  | none => .ok none
  | some w =>
    if crosses true w.1 w.2.2 then .error (.crossedGroup ⟨⟩) else .ok (some (annotationHit text w))

/-- The first kind that matches is the winner. -/
private theorem firstKind?_eq {kinds : List (Value × Fragment)} {es : List KindFragment}
    (h : List.Forall₂ IsKind kinds es) (text : Array Char) (s : Nat) :
    firstKind? es text s = winner? (kindFragments kinds) text s := by
  unfold firstKind? winner? kindFragments
  induction h with
  | nil => rfl
  | @cons k e kinds es hk _ ih =>
    rw [List.map_cons, List.findSome?_cons, List.findSome?_cons, hk.fragment.matchAt?_eq, hk.name, ih]

/-- Kinds without numbers are the same on both sides. -/
private theorem filter_isKind {kinds : List (Value × Fragment)} {es : List KindFragment}
    (h : List.Forall₂ IsKind kinds es) :
    List.Forall₂ IsKind (kinds.filter (·.2.isNumberless))
      (es.filter (Pattern.isNumberless ·.source)) :=
  List.rel_filter (fun _ _ hk => Bool.eq_iff_iff.mp hk.fragment.isNumberless_eq) h

/-- The kinds of a table with references by number need the first group, and the first kind has none.
-/
structure KindsLost (kinds : List (Value × Fragment)) : Prop where
  head : ∀ k ∈ kinds.head?, k.2.isNumberless = true
  needs : ∀ k ∈ kinds, k.2.isNumberless = true ∨ k.2.NeedsFirst

/-- Kinds with numbers are lost in the combined pattern too. -/
private theorem KindsLost.numbersLost {kinds : List (Value × Fragment)} {es : List KindFragment}
    (h : KindsLost kinds) (hes : List.Forall₂ IsKind kinds es) : NumbersLost es where
  head := by
    cases hes with
    | nil => exact nofun
    | cons hk _ =>
      rintro e ⟨⟩
      exact hk.fragment.isNumberless_eq ▸ h.head _ rfl
  needs := forall_mem_of_forall₂ hes h.needs fun _ _ hk he =>
    hk.imp (he.fragment.isNumberless_eq ▸ ·) he.fragment.needsFirst

/-- How a match of the combined pattern shows the kind that wins. -/
structure ShowsKind (groups : List (String × Nat)) (r : Match) (w : String × Match) : Prop where
  shows : Shows true w.2 r
  start : w.2.start = r.start
  labelled : Labelled groups w.1 r

namespace ShowsKind

variable {groups : List (String × Nat)} {r : Match} {w : String × Match}

/-- The match ends where the winner's ends. -/
private theorem stop (h : ShowsKind groups r w) : r.stop = w.2.stop := h.shows.stop

/-- Groups of the match cross as those of the winner do. -/
private theorem isCrossed (h : ShowsKind groups r w) :
    r.captures.isCrossed = crosses true r.start w.2 := by
  rw [h.shows.crossed, h.start, crosses]

/-- The label is the winner's name. -/
private theorem label (h : ShowsKind groups r w) (hcrosses : crosses true r.start w.2 = false) :
    AnnotationMatcher.label? r.captures groups = some (w.1, r.start, r.stop) := by
  rw [crosses, Bool.or_eq_false_iff, Bool.true_and, decide_eq_false_iff_not, ← h.stop] at hcrosses
  exact h.labelled.label (Nat.le_of_not_lt hcrosses.1)

end ShowsKind

/-- The combined pattern of the kinds matches what the first kind without references by number matches,
if the other kinds need the first group. -/
theorem kind_winner {kinds : List (Value × Fragment)} {es : List KindFragment}
    {groups : List (String × Nat)} {p : Pattern} (hes : List.Forall₂ IsKind kinds es)
    (hp : KindPattern es groups p) (hlost : KindsLost kinds) {text : Array Char} {s : Nat}
    (hs : s ≤ text.size) :
    let winner := winner? ((kindFragments kinds).filter (·.2.isNumberless)) text s
    (p.matchAt text s = none ∧ winner = none) ∨
      ∃ r w, p.matchAt text s = some r ∧ winner = some w ∧ ShowsKind groups r w := by
  dsimp only
  have hwinner : firstKind? (es.filter (Pattern.isNumberless ·.source)) text s =
      winner? ((kindFragments kinds).filter (·.2.isNumberless)) text s := by
    rw [kindFragments, List.filter_map]
    exact firstKind?_eq (filter_isKind hes) text s
  rw [← hwinner]
  have hlost := hlost.numbersLost hes
  obtain ⟨hnone, hfirst⟩ | ⟨name, r, hr, hlabelled, hfirst⟩ := hp.matchAt_cases hs
  · exact .inl ⟨hnone, hfirst hlost⟩
  · obtain ⟨own, hown, hshows⟩ := hfirst hlost
    refine .inr ⟨r, (name, own), hr, hown, hshows, ?_, hlabelled⟩
    obtain ⟨e, -, he⟩ := List.exists_of_findSome?_eq_some hown
    obtain ⟨own', hown', heq⟩ := Option.map_eq_some_iff.mp he
    cases heq
    rw [start_of_matchAt hown', start_of_matchAt hr]

/-- A search for annotations finds the first kind that wins at a position that is tried, and with a
plain pattern the first of all. -/
theorem AnnotationMatcher.search_leftmost {kinds : List (Value × Fragment)} {m : AnnotationMatcher}
    (h : AnnotationMatcher.ofKinds kinds = .ok m)
    (hnumberless : ∀ k ∈ kinds, k.2.isNumberless = true) {text : Array Char} {position : Nat}
    (hposition : position ≤ text.size) :
    (∃ found, Leftmost (m.pattern.Tries text position) (winner? (kindFragments kinds) text) found ∧
      m.search text position = annotationAnswer text found) ∧
    (m.pattern.isPlain = true → ∃ found,
      Leftmost (fun s => position ≤ s ∧ s ≤ text.size) (winner? (kindFragments kinds) text) found ∧
        m.search text position = .ok (found.map (annotationHit text))) := by
  obtain ⟨es, hes, hp⟩ := AnnotationMatcher.ofKinds_ok h
  have hlost : KindsLost kinds :=
    ⟨fun k hk => hnumberless k (List.mem_of_mem_head? hk), fun k hk => .inl (hnumberless k hk)⟩
  have hkinds : (kindFragments kinds).filter (·.2.isNumberless) = kindFragments kinds := by
    refine List.filter_eq_self.mpr fun e he => ?_
    obtain ⟨k, hk, rfl⟩ := List.mem_map.mp he
    exact hnumberless k hk
  have hwinner {s : Nat} (hs : s ≤ text.size) := kind_winner hes hp hlost hs
  simp only [hkinds] at hwinner
  obtain ⟨found, hfound, hplain, ⟨rfl, hsearch⟩ | ⟨r, w, rfl, hshows, hsize, hr, hforward, hsearch⟩⟩ :=
    search_winner hp.compiles (fun s hs => hwinner (s := s) hs) hposition
  · unfold AnnotationMatcher.search
    rw [hsearch]
    exact ⟨⟨none, hfound, rfl⟩, fun h => ⟨none, hplain h, rfl⟩⟩
  · unfold AnnotationMatcher.search
    rw [hsearch, hshows.isCrossed]
    refine ⟨⟨some (r.start, w), hfound, ?_⟩, fun h => ⟨some (r.start, w), hplain h, ?_⟩⟩
    · cases hcrosses : crosses true r.start w.2 with
      | true => simp [annotationAnswer, hcrosses]
      | false => simp [annotationAnswer, hcrosses, hshows.label hcrosses, annotationHit, hshows.stop]
    · have hcrosses : crosses true r.start w.2 = false := hshows.isCrossed ▸ hforward h
      simp [hcrosses, hshows.label hcrosses, annotationHit, hshows.stop]

/-! ## Both stages -/

/-- A search for annotations and one for comments answer with the winner at the first position that
they try and that has one.  The winner is the first fragment that matches there on its own: of the
kinds in the order of the table; of line comments, block comments and skipped blocks in this order.
With plain patterns that is the first position of all from the given one on that has a winner, and
the answer is the hit of the winner, or that there is none. -/
theorem search_eq_leftmost_winner {kinds : List (Value × Fragment)} {annotations : AnnotationMatcher}
    {language : Language} {comments : CommentMatcher}
    (hannotations : AnnotationMatcher.ofKinds kinds = .ok annotations)
    (hcomments : language.commentMatcher = .ok comments)
    (hkinds : ∀ k ∈ kinds, k.2.isNumberless = true)
    (hfragments : ∀ f ∈ language.fragments, f.isNumberless = true)
    (text : Array Char) (position : Nat) (hposition : position ≤ text.size) :
    ((∃ found,
        Leftmost (annotations.pattern.Tries text position) (winner? (kindFragments kinds) text)
          found ∧
        annotations.search text position = annotationAnswer text found) ∧
      (annotations.pattern.isPlain = true → ∃ found,
        Leftmost (fun s => position ≤ s ∧ s ≤ text.size) (winner? (kindFragments kinds) text)
          found ∧
        annotations.search text position = .ok (found.map (annotationHit text)))) ∧
    (∃ found,
        Leftmost (comments.pattern.Tries text position) (winner? language.roles text) found ∧
        comments.search text position = commentAnswer text found) ∧
      (comments.pattern.isPlain = true → ∃ found,
        Leftmost (fun s => position ≤ s ∧ s ≤ text.size) (winner? language.roles text) found ∧
        comments.search text position = .ok (found.map (commentHit text))) :=
  ⟨AnnotationMatcher.search_leftmost hannotations hkinds hposition,
    CommentMatcher.search_leftmost hcomments hfragments hposition⟩

/-- Two kinds that match at the same letter, the second with a reference by name. -/
def twinKinds : List (Value × Fragment) :=
  [(.str "TODO", .text "TODO"), (.str "TWIN", .text "(?<q>T)\\k<q>?")]

/-- Comments up to the end of a line, and quoted strings in which there are none. -/
def quotingLanguage : Language :=
  { ids := ["t"], lineComments := [.text "//.*"], skippedBlocks := [.text "'[^']*'"] }

/-- The kind that comes first wins over the other that also matches there, and a quoted string over
the comment that seems to be in it. -/
theorem search_eq_leftmost_winner_quoted :
    ∃ annotations comments, AnnotationMatcher.ofKinds twinKinds = .ok annotations ∧
      quotingLanguage.commentMatcher = .ok comments ∧
      (∃ found, Leftmost (fun s => 0 ≤ s ∧ s ≤ (Text.chars "'//' // TODO").size)
          (winner? (kindFragments twinKinds) (Text.chars "'//' // TODO")) found ∧
        found.map (annotationHit (Text.chars "'//' // TODO")) = some ⟨"TODO", 8, 12, "TODO"⟩) ∧
      ∃ found, Leftmost (fun s => 0 ≤ s ∧ s ≤ (Text.chars "'//' // TODO").size)
          (winner? quotingLanguage.roles (Text.chars "'//' // TODO")) found ∧
        found.map (commentHit (Text.chars "'//' // TODO")) = some ⟨0, 4, none⟩ := by
  have hkinds : ((AnnotationMatcher.ofKinds twinKinds).toOption.map fun m =>
      (m.pattern.isPlain, m.search (Text.chars "'//' // TODO") (0 : Nat))) =
        some (true, .ok (some ⟨"TODO", 8, 12, "TODO"⟩)) := by decide +kernel
  have hlanguage : (quotingLanguage.commentMatcher.toOption.map fun m =>
      (m.pattern.isPlain, m.search (Text.chars "'//' // TODO") (0 : Nat))) =
        some (true, .ok (some ⟨0, 4, none⟩)) := by decide +kernel
  obtain ⟨annotations, ha, hsearch⟩ := Option.map_eq_some_iff.mp hkinds
  obtain ⟨comments, hc, hsearch'⟩ := Option.map_eq_some_iff.mp hlanguage
  obtain ⟨hplain, hsearch⟩ := Prod.mk.inj hsearch
  obtain ⟨hplain', hsearch'⟩ := Prod.mk.inj hsearch'
  obtain ⟨⟨-, hannotations⟩, -, hcomments⟩ := search_eq_leftmost_winner (eq_ok_of_toOption ha)
    (eq_ok_of_toOption hc) (by decide +kernel) (by decide +kernel)
    (Text.chars "'//' // TODO") 0 (Nat.zero_le _)
  obtain ⟨found, hfound, heq⟩ := hannotations hplain
  obtain ⟨found', hfound', heq'⟩ := hcomments hplain'
  exact ⟨annotations, comments, eq_ok_of_toOption ha, eq_ok_of_toOption hc,
    ⟨found, hfound, Except.ok.inj (heq.symm.trans hsearch)⟩,
    ⟨found', hfound', Except.ok.inj (heq'.symm.trans hsearch')⟩⟩

/-- A class that is compared in ASCII at the beginning: the positions to try are chosen as if it were
compared in all scripts, and so a letter beyond ASCII that the fragment matches is never found. -/
theorem commentMatcher_misses :
    ∃ m, Language.commentMatcher { ids := ["t"], lineComments := [.text "(?a:\\W)"] } = .ok m ∧
      (Fragment.text "(?a:\\W)").isNumberless = true ∧
      (Fragment.text "(?a:\\W)").matchAt? (Text.chars "é") 0 = some ⟨0, 1, {}⟩ ∧
      m.search (Text.chars "é") 0 = .ok none := by
  have h : ((Language.commentMatcher
      { ids := ["t"], lineComments := [.text "(?a:\\W)"] }).toOption.map
        fun m => m.search (Text.chars "é") 0) = some (.ok none) := by decide +kernel
  obtain ⟨m, hm, hsearch⟩ := Option.map_eq_some_iff.mp h
  exact ⟨m, eq_ok_of_toOption hm, by decide +kernel, by decide +kernel, hsearch⟩

end Marginalia
