import Marginalia.Matcher.Annotations
import Marginalia.Proofs.Pattern.Reader.Fragments

/-!
# How the combined patterns are read

The combined pattern of a language has two alternatives: the group `body` around the fragments of all
comments, and the fragments of the skipped blocks.  The combined pattern of the annotation kinds has
one alternative for each kind, a named group around the kind's fragment.  No fragment that compiles
on its own can change this shape, whatever is written in it.
-/

namespace Marginalia

open Pattern Pattern.Reader

/-! ## Comments -/

/-- The pattern that matches nowhere, compiled. -/
def neverPattern : Pattern where
  source := neverMatch
  root := .ahead true .empty
  flags := {}
  names := []
  least := 0
  prospect := .unknown
  warnings := []

/-- The fragment that never matches compiles. -/
theorem compile_neverMatch : Pattern.compile neverMatch = .ok neverPattern := by
  decide +kernel

/-- The fragments in the group `body`: a language without comments has one that matches nowhere. -/
def orNever (fragments : List (String × Pattern)) : List (String × Pattern) :=
  if fragments.isEmpty then [(neverMatch, neverPattern)] else fragments

/-- There is always a fragment. -/
theorem orNever_ne_nil (fragments : List (String × Pattern)) : orNever fragments ≠ [] := by
  unfold orNever
  split
  · exact List.cons_ne_nil _ _
  · rename_i h
    simpa using h

/-- All of them compile. -/
theorem compile_orNever {fragments : List (String × Pattern)}
    (h : ∀ f ∈ fragments, Pattern.compile f.1 = .ok f.2) :
    ∀ f ∈ orNever fragments, Pattern.compile f.1 = .ok f.2 := by
  unfold orNever
  split
  · exact List.forall_mem_singleton.mpr compile_neverMatch
  · exact h

/-- Fragments with bars between them do not end in a backslash. -/
private theorem intercalate_solid {fragments : List (String × Pattern)}
    (h : ∀ f ∈ fragments, Pattern.compile f.1 = .ok f.2) :
    endsDangling ("|".intercalate (fragments.map Prod.fst)).toList = false := by
  refine endsDangling_intercalate ?_
  intro s hs
  obtain ⟨f, hf, rfl⟩ := List.mem_map.mp hs
  obtain ⟨_, _, hcompiled⟩ := compile_ok (h f hf)
  exact hcompiled.solid

/-- The tokens of the second alternative, if there are skipped blocks. -/
private def skippedFaces (skipped : List (String × Pattern)) : List (Char × Bool) :=
  if skipped.isEmpty then []
  else ('|', false) :: ('(', false) :: ('?', false) :: (':', false) ::
    (faces ("|".intercalate (skipped.map Prod.fst)).toList ++ [(')', false)])

/-- The faces of the combined pattern of a language. -/
private theorem faces_combinedComments {comments skipped : List (String × Pattern)}
    (hcomments : ∀ f ∈ comments, Pattern.compile f.1 = .ok f.2)
    (hskipped : ∀ f ∈ skipped, Pattern.compile f.1 = .ok f.2) :
    faces (combinedComments (comments.map Prod.fst) (skipped.map Prod.fst)).toList =
      ('(', false) :: ('?', false) :: ('P', false) :: ('<', false) ::
        (['b', 'o', 'd', 'y'].map (·, false) ++ ('>', false) ::
          (faces ("|".intercalate ((orNever comments).map Prod.fst)).toList ++
            (')', false) :: skippedFaces skipped)) := by
  have hbody : (if (comments.map Prod.fst).isEmpty then neverMatch
      else alternatives (comments.map Prod.fst)) =
        "|".intercalate ((orNever comments).map Prod.fst) := by
    unfold orNever
    cases comments <;> rfl
  unfold combinedComments
  rw [hbody]
  simp only [String.toList_append, List.append_assoc]
  rw [faces_of_not_mem "(?P<body>".toList (by decide), faces_append
    (intercalate_solid (compile_orNever hcomments)), faces_of_not_mem ")".toList (by decide)]
  have htail : faces (if (skipped.map Prod.fst).isEmpty then ""
      else "|(?:" ++ alternatives (skipped.map Prod.fst) ++ ")").toList = skippedFaces skipped := by
    unfold skippedFaces
    cases skipped with
    | nil => rfl
    | cons f fs =>
      rw [if_neg (by simp), if_neg (by simp), String.toList_append, String.toList_append,
        List.append_assoc, faces_of_not_mem "|(?:".toList (by decide), alternatives,
        faces_append (intercalate_solid hskipped)]
      rfl
  rw [htail]
  rfl

/-- The tree of the combined pattern of comments and skipped blocks. -/
theorem compile_combinedComments {comments skipped : List (String × Pattern)} {p : Pattern}
    (hcomments : ∀ f ∈ comments, Pattern.compile f.1 = .ok f.2)
    (hskipped : ∀ f ∈ skipped, Pattern.compile f.1 = .ok f.2)
    (hp : Pattern.compile (combinedComments (comments.map Prod.fst) (skipped.map Prod.fst)) =
      .ok p) :
    ∃ w bodies blocks, p.flags = {} ∧ SplicedAll none 1 (orNever comments) bodies ∧
      SplicedAll (some w) 1 skipped blocks ∧ p.root = .sequence (Node.choice
        ([.group CommentMatcher.bodyGroup (.sequence (Node.choice bodies.flatten))] ::
          if skipped.isEmpty then [] else [Node.choice blocks.flatten])) := by
  obtain ⟨ns, r, hown⟩ := compile_ok hp
  obtain ⟨calls, first, ms, B₁, hms, hlast, hmore⟩ := readAlternatives_of_top hown.read
  have hbar : ∀ x ∈ (skippedFaces skipped).head?, x = ('|', false) := by
    unfold skippedFaces
    split
    · rintro x ⟨⟩
    · rintro x ⟨⟩
      rfl
  obtain ⟨bodies, rfl, hB₁, hglobals₁, -, hbodies⟩ := named_ok (orNever_ne_nil comments)
    (compile_orNever hcomments) ['b', 'o', 'd', 'y'] (by decide) hms
    (faces_combinedComments hcomments hskipped) hbar rfl
    fun w (hw : none = some w) => nomatch hw
  have hflags : r.globals = [] → p.flags = {} := by
    intro hr
    rw [hown.flags, hr]
    exact Flags.scoped_nil {}
  cases skipped with
  | nil =>
    obtain ⟨rfl, rfl⟩ := hlast (List.map_eq_nil_iff.mp hB₁)
    exact ⟨⟨0, 0⟩, bodies, [], hflags hglobals₁, hbodies, .nil, hown.root⟩
  | cons f fs =>
    obtain ⟨B₂, hmoves, hB₂, hread⟩ := hmore _ hglobals₁ hB₁
    obtain ⟨calls, first, ms', B₃, hms', hlast, -⟩ := readAlternatives_of_top hread
    -- The body is a group, so that the skipped blocks have at least one group before them, and it is
    -- closed by then.
    have hle : 1 ≤ B₂.groups.length := by
      have hlt := (readSequence_grows hms).lt_nextGroup
      unfold nextGroup at hlt
      rw [hmoves.groups]
      omega
    obtain ⟨w, hw⟩ : ∃ w, B₂.groups.head? = some (some w) := by
      obtain ⟨ws, hws⟩ := (readSequence_grows hms).reads.groups
      rw [hmoves.groups, hws] at hle ⊢
      cases ws with
      | nil => exact absurd hle (Nat.not_succ_le_zero 0)
      | cons w ws => exact ⟨w, rfl⟩
    have hfirst : ∀ w', some w = some w' → B₂.groups.head? = some (some w') := by
      rintro w' ⟨⟩
      exact hw
    obtain ⟨blocks, rfl, hB₃, hglobals₃, hblocks⟩ := plain_ok (List.cons_ne_nil f fs) hskipped hms'
      hB₂ nofun (hmoves.globals.trans hglobals₁) hfirst
    obtain ⟨rfl, rfl⟩ := hlast (List.map_eq_nil_iff.mp hB₃)
    exact ⟨w, bodies, blocks, hflags hglobals₃, hbodies, hblocks.mono hle, hown.root⟩

/-! ## Annotation kinds -/

/-- A kind of annotations: its name, its fragment in the notation of patterns, and the pattern that
the fragment is on its own. -/
structure KindFragment where
  name : String
  source : String
  own : Pattern

namespace KindFragment

/-- The named group of the kind. -/
def group (k : KindFragment) : String := kindGroup k.name k.source

/-- The name can be written into a pattern, and the fragment compiles. -/
structure Valid (k : KindFragment) : Prop where
  closes : '>' ∉ k.name.toList
  escapes : '\\' ∉ k.name.toList
  compiles : Pattern.compile k.source = .ok k.own

/-- The tokens of a kind's group, and of what follows it. -/
private theorem faces_group {k : KindFragment} (hk : k.Valid) (ds : List Char) :
    faces (k.group.toList ++ ds) =
      ('(', false) :: ('?', false) :: ('P', false) :: ('<', false) ::
        (k.name.toList.map (·, false) ++ ('>', false) ::
          (faces k.source.toList ++ (')', false) :: faces ds)) := by
  obtain ⟨_, _, hown⟩ := compile_ok hk.compiles
  simp only [group, kindGroup, String.toList_append, List.append_assoc]
  rw [faces_of_not_mem "(?P<".toList (by decide), faces_of_not_mem _ hk.escapes,
    faces_of_not_mem ">".toList (by decide), faces_append hown.solid,
    faces_of_not_mem ")".toList (by decide)]
  rfl

end KindFragment

/-- A kind's group as it stands in the combined pattern: its number and the alternatives in it.  If it
is not the first group, the first group has been closed before it. -/
structure Placed (names : List (String × Nat)) (k : KindFragment) (part : Nat × List (List Node)) :
    Prop where
  lookup : names.lookup k.name = some part.1
  spliced : ∃ first : Option Width, (1 < part.1 → first.isSome = true) ∧
    SplicedAll first part.1 [(k.source, k.own)] [part.2]

/-- The alternatives of the combined pattern of the kinds. -/
def kindAlternatives (parts : List (Nat × List (List Node))) : List (List Node) :=
  parts.map fun part => [.group part.1 (.sequence (Node.choice part.2))]

/-- Names that come later do not move a kind. -/
private theorem Placed.mono {names names' : List (String × Nat)} (hnames : names <+: names')
    {k : KindFragment} {part : Nat × List (List Node)} (h : Placed names k part) :
    Placed names' k part :=
  ⟨lookup_of_isPrefix hnames h.lookup, h.spliced⟩

/-- The group of one kind is read as one group. -/
private theorem kind_ok {k : KindFragment} (hk : k.Valid) {calls : Nat} {first : Bool}
    {ms : List Node} {B B₁ : Reader} (h : readSequence calls false first [] B = .ok (ms, B₁))
    {ds : List Char} (hrest : B.rest.map Token.face = faces (k.group.toList ++ ds))
    (hds : ∀ x ∈ (faces ds).head?, x = ('|', false)) (hglobals : B.globals = [])
    (hclosed : B.groups.head? ≠ some none) :
    ∃ alts, ms = [.group B.nextGroup (.sequence (Node.choice alts))] ∧
      B₁.rest.map Token.face = faces ds ∧ B₁.globals = [] ∧
      Placed B₁.names k (B.nextGroup, alts) := by
  rw [KindFragment.faces_group hk] at hrest
  have hfirst : 1 < B.nextGroup → B.groups.head?.join.isSome = true := by
    intro hlt
    unfold nextGroup at hlt
    cases hgroups : B.groups with
    | nil => simp [hgroups] at hlt
    | cons g gs =>
      rw [hgroups] at hclosed
      cases g with
      | none => exact absurd rfl hclosed
      | some w => rfl
  obtain ⟨parts, rfl, hB₁, hglobals₁, hlookup, hparts⟩ :=
    named_ok (List.cons_ne_nil (k.source, k.own) []) (List.forall_mem_singleton.mpr hk.compiles)
      k.name.toList hk.closes h hrest hds hglobals fun _ => Option.join_eq_some_iff.mp
  cases hparts with
  | cons halts hnil =>
    cases hnil
    rw [String.ofList_toList] at hlookup
    refine ⟨_, ?_, hB₁, hglobals₁, hlookup, _, hfirst, .cons halts .nil⟩
    rw [List.flatten_singleton]

/-- Groups of kinds are read one after the other, by induction on the kinds. -/
theorem kinds_ok {kinds : List KindFragment} (hne : kinds ≠ []) (hvalid : ∀ k ∈ kinds, k.Valid)
    {calls : Nat} {done : List (List Node)} {ns : List Node} {B B' : Reader}
    (h : readAlternatives calls false true done B = .ok (ns, B'))
    (hrest : B.rest.map Token.face = faces ("|".intercalate (kinds.map KindFragment.group)).toList)
    (hglobals : B.globals = []) (hclosed : B.groups.head? ≠ some none) :
    ∃ parts, ns = Node.choice (done ++ kindAlternatives parts) ∧ B'.globals = [] ∧
      (∀ part ∈ parts, B.nextGroup ≤ part.1) ∧ (parts.map Prod.fst).Pairwise (· < ·) ∧
      List.Forall₂ (Placed B'.names) kinds parts := by
  induction kinds generalizing calls done B with
  | nil => exact absurd rfl hne
  | cons k ks ih =>
    obtain ⟨hk, hks⟩ := List.forall_mem_cons.mp hvalid
    obtain ⟨calls, first, ms, B₁, hms, hlast, hmore⟩ := readAlternatives_of_top h
    cases ks with
    | nil =>
      have hrest' : B.rest.map Token.face = faces (k.group.toList ++ []) := by
        rw [List.append_nil]
        exact hrest
      obtain ⟨alts, rfl, hB₁, hglobals₁, hplaced⟩ := kind_ok hk hms hrest' nofun hglobals hclosed
      obtain ⟨rfl, rfl⟩ := hlast (List.map_eq_nil_iff.mp hB₁)
      exact ⟨[(B.nextGroup, alts)], rfl, hglobals₁, List.forall_mem_singleton.mpr (Nat.le_refl _),
        List.pairwise_singleton _ _, .cons hplaced .nil⟩
    | cons k' ks =>
      have hrest' : B.rest.map Token.face = faces (k.group.toList ++
          '|' :: ("|".intercalate ((k' :: ks).map KindFragment.group)).toList) := by
        rw [hrest, List.map_cons, List.map_cons, String.intercalate_cons_cons,
          String.toList_append, String.toList_append, List.append_assoc]
        rfl
      have hbar : ∀ cs, faces ('|' :: cs) = ('|', false) :: faces cs := fun cs =>
        faces_of_not_mem ['|'] (by decide) cs
      obtain ⟨alts, rfl, hB₁, hglobals₁, hplaced⟩ :=
        kind_ok hk hms hrest' (by rw [hbar]; rintro x ⟨⟩; rfl) hglobals hclosed
      rw [hbar] at hB₁
      obtain ⟨B₂, hmoves, hB₂, hread⟩ := hmore _ hglobals₁ hB₁
      -- The first group is closed once the first kind has been read.
      have hclosed₂ : B₂.groups.head? ≠ some none := by
        obtain ⟨ws, hws⟩ := (readSequence_grows hms).reads.groups
        rw [hmoves.groups, hws, List.head?_append]
        cases hgroups : B.groups.head? with
        | none => simp
        | some g => simpa [hgroups] using hclosed
      obtain ⟨parts, rfl, hglobals', hle, hpairwise, hparts⟩ :=
        ih (List.cons_ne_nil _ _) hks hread hB₂ (hmoves.globals.trans hglobals₁) hclosed₂
      -- Every kind has a group, so the numbers of the kinds go up.
      have hlt : B.nextGroup < B₂.nextGroup := by
        have := (readSequence_grows hms).lt_nextGroup
        unfold nextGroup at this ⊢
        rw [hmoves.groups]
        exact this
      have hnames : B₁.names <+: B'.names :=
        hmoves.names ▸ (readAlternatives_grows hread).reads.names
      refine ⟨(B.nextGroup, alts) :: parts, ?_, hglobals', ?_, ?_,
        .cons (hplaced.mono hnames) hparts⟩
      · rw [List.append_assoc]
        rfl
      · exact List.forall_mem_cons.mpr ⟨Nat.le_refl _, fun part hpart =>
          Nat.le_of_lt (Nat.lt_of_lt_of_le hlt (hle part hpart))⟩
      · refine List.pairwise_cons.mpr ⟨fun g hg => ?_, hpairwise⟩
        obtain ⟨part, hpart, rfl⟩ := List.mem_map.mp hg
        exact Nat.lt_of_lt_of_le hlt (hle part hpart)

/-- The tree of the combined pattern of the kinds. -/
theorem compile_combinedKinds {kinds : List KindFragment} (hne : kinds ≠ [])
    (hvalid : ∀ k ∈ kinds, k.Valid) {p : Pattern}
    (hp : Pattern.compile (combinedKinds (kinds.map KindFragment.group)) = .ok p) :
    ∃ parts, p.flags = {} ∧ p.root = .sequence (Node.choice (kindAlternatives parts)) ∧
      (∀ part ∈ parts, 1 ≤ part.1) ∧ (parts.map Prod.fst).Pairwise (· < ·) ∧
      List.Forall₂ (Placed p.names) kinds parts := by
  have hsource : combinedKinds (kinds.map KindFragment.group) =
      "|".intercalate (kinds.map KindFragment.group) := by
    unfold combinedKinds
    rw [if_neg (by simpa using hne)]
    rfl
  obtain ⟨ns, r, hown⟩ := compile_ok hp
  obtain ⟨parts, rfl, hglobals, hpos, hpairwise, hparts⟩ :=
    kinds_ok hne hvalid hown.read (congrArg (fun s : String => faces s.toList) hsource) rfl nofun
  refine ⟨parts, ?_, hown.root, hpos, hpairwise, hown.names ▸ hparts⟩
  rw [hown.flags, hglobals]
  exact Flags.scoped_nil {}

end Marginalia
