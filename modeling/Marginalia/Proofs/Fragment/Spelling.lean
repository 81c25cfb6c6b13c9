import Marginalia.Proofs.Fragment.Brackets
import Marginalia.Proofs.Pattern.Reader.Fragments

/-!
# Fragments that are spelled as patterns are

The spelling of a fragment changes nothing that the reader of patterns accepts as it is written:
look-behinds, named groups and references to them, escapes and classes all stay as they are
(`normalise_of_readAll`).

Two things are outside of this, because the reader skips text there that the machine reads: comments
in a group of their own, and the white space and comments of a pattern that switches the flag `x` on.
The flag is switched on for a whole pattern, which leaves it among the global flags, or for the body
of a group, which leaves it in the tree (`Node.turnsVerboseOn`).
-/

namespace Marginalia.Pattern

open Fragment (Place spell opensNamed)

/-! ## Where the tree has the flag -/

namespace Node

/-- Is the flag that skips white space switched on for a part of the pattern? -/
def turnsVerboseOn : Node → Bool
  | .empty => false
  | .single _ => false
  | .anchor _ => false
  | .group _ body => body.turnsVerboseOn
  | .scoped on _ body => on.contains 'x' || body.turnsVerboseOn
  | .atomic body => body.turnsVerboseOn
  | .rounds _ _ _ body => body.turnsVerboseOn
  | .ahead _ body => body.turnsVerboseOn
  | .behind _ _ body => body.turnsVerboseOn
  | .backref _ => false
  | .conditional _ yes no => yes.turnsVerboseOn || no.turnsVerboseOn
  | .either first second => first.turnsVerboseOn || second.turnsVerboseOn
  | .both first second => first.turnsVerboseOn || second.turnsVerboseOn

/-- A step does not turn verbose mode on. -/
theorem turnsVerboseOn_of_isStep {n : Node} (h : n.IsStep) : n.turnsVerboseOn = false := by
  cases n with
  | single _ | anchor _ | backref _ => rfl
  | empty | group _ _ | «scoped» _ _ _ | atomic _ | rounds _ _ _ _ | ahead _ _ | behind _ _ _
  | conditional _ _ _ | either _ _ | both _ _ => exact h.elim

/-- A sequence does if one of its nodes does. -/
theorem turnsVerboseOn_sequence (ns : List Node) :
    (sequence ns).turnsVerboseOn = ns.any turnsVerboseOn := by
  induction ns with
  | nil => rfl
  | cons n ns ih =>
    cases ns with
    | nil => simp [sequence]
    | cons m ns =>
      show (n.turnsVerboseOn || (sequence (m :: ns)).turnsVerboseOn) = _
      rw [ih]
      rfl

/-- So does a choice. -/
theorem turnsVerboseOn_firstOf (alts : List (List Node)) :
    (firstOf alts).turnsVerboseOn = alts.flatten.any turnsVerboseOn := by
  induction alts with
  | nil => rfl
  | cons ns rest ih =>
    cases rest with
    | nil =>
      have hset : ∀ n : Node, n.setApart.turnsVerboseOn = n.turnsVerboseOn := by
        intro n
        unfold setApart
        split <;> simp [turnsVerboseOn]
      rw [firstOf, hset, turnsVerboseOn_sequence, List.flatten_singleton]
    | cons ms rest =>
      show ((sequence ns).turnsVerboseOn || (firstOf (ms :: rest)).turnsVerboseOn) = _
      rw [turnsVerboseOn_sequence, ih, ← List.any_append]
      rfl

theorem turnsVerboseOn_of_classItems? {alts : List (List Node)} {items : List (List ClassItem)}
    (h : alts.mapM classItems? = some items) : alts.flatten.any turnsVerboseOn = false := by
  induction alts generalizing items with
  | nil => rfl
  | cons ns alts ih =>
    rw [List.mapM_cons] at h
    obtain ⟨item, hitem, h⟩ := Option.bind_eq_some_iff.mp h
    obtain ⟨rest, hrest, -⟩ := Option.bind_eq_some_iff.mp h
    rw [List.flatten_cons, List.any_append, ih hrest, Bool.or_false]
    unfold classItems? at hitem
    split at hitem
    · rfl
    · rfl
    · cases hitem

/-- Putting alternatives together keeps the flag: the steps that are taken out of them do not have
it. -/
theorem turnsVerboseOn_choice (alts : List (List Node)) :
    (choice alts).any turnsVerboseOn = alts.flatten.any turnsVerboseOn := by
  match alts with
  | [] => rfl
  | [ns] => rw [choice, List.flatten_singleton]
  | ns :: o :: others =>
    obtain ⟨hsteps, halts⟩ := commonSteps_spec ns (o :: others) (List.cons_ne_nil o others)
    unfold choice
    dsimp only
    rw [halts]
    generalize commonSteps ns (o :: others) = common at hsteps halts
    obtain ⟨steps, rests⟩ := common
    have hplain : steps.any turnsVerboseOn = false :=
      List.any_eq_false.mpr fun s hs => by simp [turnsVerboseOn_of_isStep (hsteps s hs)]
    have hrests : (rests.map (steps ++ ·)).flatten.any turnsVerboseOn =
        rests.flatten.any turnsVerboseOn := by
      clear halts hsteps
      induction rests with
      | nil => rfl
      | cons r rests ih =>
        simp only [List.map_cons, List.flatten_cons, List.any_append, hplain, ih, Bool.false_or]
    rw [hrests]
    cases hitems : rests.mapM classItems? with
    | some items =>
      rw [turnsVerboseOn_of_classItems? hitems, List.any_append, hplain]
      rfl
    | none =>
      rw [List.any_append, hplain, List.any_cons, turnsVerboseOn_firstOf]
      simp

end Node

namespace Reader

/-! ## Reading and copying side by side -/

/-- The tokens are those of a text, and the text has no comment in a group of its own. -/
structure Uncommented (ts : List Token) : Prop where
  proper : ∀ t ∈ ts, t.IsProper
  comment : ¬['(', '?', '#'] <:+: textOf ts

/-- The end of a text without comments has none. -/
theorem Uncommented.of_suffix {ts us : List Token} (h : Uncommented ts) (hus : us <:+ ts) :
    Uncommented us := by
  refine ⟨fun u hu => h.proper u (hus.subset hu), fun hcomment => h.comment ?_⟩
  obtain ⟨before, rfl⟩ := hus
  rw [textOf_append]
  exact hcomment.trans (List.suffix_append ..).isInfix

/-- Reading went on from one reader to another, and the parts that were read so far switch the flag
on as told, before and after.  If the flag is never on, and the machine copies what is left, then it
copies what was read. -/
structure Copies (verbose : Bool) (r r' : Reader) (before after : Bool) : Prop where
  onward : r.Onward r'
  kept : before = true → after = true
  copied : verbose = false → after = false → 'x' ∉ r'.globals → Uncommented r.rest →
    Copied .outside r'.rest → Copied .outside r.rest

namespace Copies

variable {verbose verbose' : Bool} {r r' r'' : Reader} {before mid after : Bool}

theorem refl (verbose : Bool) (r : Reader) (before : Bool) : Copies verbose r r before before :=
  ⟨.refl r, id, fun _ _ _ _ => id⟩

/-- The rest may be read with another flag, if the flag comes from those that are global. -/
theorem trans (h : Copies verbose r r' before mid) (h' : Copies verbose' r' r'' mid after)
    (hverbose : verbose = false → 'x' ∉ r'.globals → verbose' = false) :
    Copies verbose r r'' before after := by
  refine ⟨h.onward.trans h'.onward, fun hb => h'.kept (h.kept hb), ?_⟩
  intro hv hafter hglobals hfit hend
  have hglobals' : 'x' ∉ r'.globals := fun hx => hglobals (h'.onward.globals _ hx)
  have hmid : mid = false := by
    cases mid with
    | false => rfl
    | true => exact (h'.kept rfl).symm.trans hafter
  have hrest := h'.copied (hverbose hv hglobals') hafter hglobals
    (hfit.of_suffix h.onward.rest) hend
  exact h.copied hv hmid hglobals' hfit hrest

/-- Ordinary characters are copied. -/
theorem of_takes (verbose : Bool) (h : r.Takes r') (hkept : before = true → after = true) :
    Copies verbose r r' before after :=
  ⟨h.toOnward, hkept, fun _ _ _ _ => h.copied (.inl rfl)⟩

/-- Ordinary characters that follow are copied too. -/
theorem takes (h : Copies verbose r r' before mid) (h' : r'.Takes r'') :
    Copies verbose r r'' before mid :=
  h.trans (.of_takes verbose h' id) fun hv _ => hv

/-- Only what is ahead and the flags matter. -/
theorem congr (h : Copies verbose r' r'' before after) (hrest : r'.rest = r.rest)
    (hglobals : r'.globals = r.globals) : Copies verbose r r'' before after :=
  (of_takes verbose (.of_eq hrest hglobals) id).trans h fun hv _ => hv

/-- What the parts that were read are made into may switch the flag on for them. -/
theorem wrap (h : Copies verbose' r r' before mid) (hmid : mid = true → after = true)
    (hverbose : verbose = false → after = false → verbose' = false) :
    Copies verbose r r' before after := by
  refine ⟨h.onward, fun hb => hmid (h.kept hb), fun hv hafter => h.copied (hverbose hv hafter) ?_⟩
  cases mid with
  | false => rfl
  | true => exact (hmid rfl).symm.trans hafter

/-- Parts that were there before stay. -/
theorem behind (h : Copies verbose r r' false mid) (hafter : after = (before || mid)) :
    Copies verbose r r' before after := by
  subst hafter
  refine ⟨h.onward, fun hb => by simp [hb], fun hv hafter => h.copied hv ?_⟩
  exact (Bool.or_eq_false_iff.mp hafter).2

end Copies

/-! ## The three readers that call each other -/

private def AlternativesCopy (calls : Nat) : Prop :=
  ∀ ⦃verbose top done r ns r'⦄, readAlternatives calls verbose top done r = .ok (ns, r') →
    Copies verbose r r' (done.flatten.any Node.turnsVerboseOn) (ns.any Node.turnsVerboseOn)

private def SequencesCopy (calls : Nat) : Prop :=
  ∀ ⦃verbose first done r ns r'⦄, readSequence calls verbose first done r = .ok (ns, r') →
    Copies verbose r r' ((Piece.nodes done).any Node.turnsVerboseOn) (ns.any Node.turnsVerboseOn)

private def GroupsCopy (calls : Nat) : Prop :=
  ∀ ⦃verbose start o r p r'⦄, readGroup calls verbose start o r = .ok (p, r') →
    Copies verbose r r' false ((Piece.nodes [p]).any Node.turnsVerboseOn)

/-- One more call of the reader of alternatives. -/
private theorem alternatives_copy {calls : Nat} (halternatives : AlternativesCopy calls)
    (hsequences : SequencesCopy calls) : AlternativesCopy (calls + 1) := by
  intro verbose top done r ns r' h
  simp only [readAlternatives] at h
  obtain ⟨⟨ms, r₁⟩, hms, h⟩ := bind_eq_ok.mp h
  obtain ⟨⟨more, r₂⟩, hmore, h⟩ := bind_eq_ok.mp h
  have hcopies : Copies verbose r r₂ (done.flatten.any Node.turnsVerboseOn)
      ((done ++ [ms]).flatten.any Node.turnsVerboseOn) := by
    refine ((hsequences hms).takes (accept_takes (by decide) hmore)).behind ?_
    rw [List.flatten_append, List.flatten_singleton, List.any_append]
  split at h
  · refine hcopies.trans (halternatives h) fun hv hglobals => ?_
    split
    · simpa using hglobals
    · exact hv
  · cases h
    rwa [Node.turnsVerboseOn_choice]

/-- A closing parenthesis is ordinary. -/
theorem close_takes {start : Nat} {r r' : Reader} (h : r.close start = .ok r') : r.Takes r' := by
  simp only [close] at h
  obtain ⟨⟨closed, r₁⟩, hclosed, h⟩ := bind_eq_ok.mp h
  obtain ⟨-, h⟩ | ⟨-, h⟩ := ite_eq_iff.mp h
  · cases h
    exact accept_takes (by decide) hclosed
  · cases h

/-- One more call of the reader of groups, with a case for each opening. -/
private theorem groups_copy {calls : Nat} (halternatives : AlternativesCopy calls)
    (hsequences : SequencesCopy calls) : GroupsCopy (calls + 1) := by
  intro verbose start o r p r' h
  -- A body in which the flag is as it is around it.
  have hbody {r₁ r₂ : Reader} {ns : List Node} {after : Bool}
      (hns : Copies verbose r r₁ false (ns.any Node.turnsVerboseOn))
      (hclose : r₁.close start = .ok r₂)
      (hafter : (Node.sequence ns).turnsVerboseOn = after) : Copies verbose r r₂ false after := by
    rw [← hafter, Node.turnsVerboseOn_sequence]
    exact hns.takes (close_takes hclose)
  simp only [readGroup, throw_bind] at h
  cases o with
  | reference _ | comment | globals =>
    cases h
    exact .refl ..
  | capture name =>
    obtain ⟨⟨g, r₁⟩, hopen, h⟩ := bind_eq_ok.mp h
    obtain ⟨⟨ns, r₂⟩, hns, h⟩ := bind_eq_ok.mp h
    obtain ⟨r₃, hclose, h⟩ := bind_eq_ok.mp h
    cases h
    obtain ⟨rfl, -, rfl⟩ := openGroup_ok hopen
    have hclosed (w : Width) : r₃.Takes (r₃.closeGroup r.nextGroup w) := .of_eq rfl rfl
    refine (hbody ((halternatives hns).congr rfl rfl) hclose ?_).takes (hclosed _)
    simp [Piece.nodes, Node.turnsVerboseOn]
  | plain =>
    obtain ⟨⟨ns, r₁⟩, hns, h⟩ := bind_eq_ok.mp h
    obtain ⟨r₂, hclose, h⟩ := bind_eq_ok.mp h
    cases h
    refine hbody (halternatives hns) hclose ?_
    rw [Node.turnsVerboseOn_sequence, Piece.nodes, Piece.nodes, List.append_nil]
  | atomic | ahead _ =>
    obtain ⟨⟨ns, r₁⟩, hns, h⟩ := bind_eq_ok.mp h
    obtain ⟨r₂, hclose, h⟩ := bind_eq_ok.mp h
    cases h
    exact hbody (halternatives hns) hclose (by simp [Piece.nodes, Node.turnsVerboseOn])
  | «scoped» on off =>
    obtain ⟨⟨ns, r₁⟩, hns, h⟩ := bind_eq_ok.mp h
    obtain ⟨r₂, hclose, h⟩ := bind_eq_ok.mp h
    cases h
    have hscope : (Piece.nodes [.node (.scoped on off (Node.sequence ns))]).any
        Node.turnsVerboseOn = (on.contains 'x' || ns.any Node.turnsVerboseOn) := by
      simp [Piece.nodes, Node.turnsVerboseOn, Node.turnsVerboseOn_sequence]
    rw [hscope]
    refine ((halternatives hns).takes (close_takes hclose)).wrap (fun hns => ?_) fun hv hon => ?_
    · rw [hns, Bool.or_true]
    · rw [verboseIn, hv, (Bool.or_eq_false_iff.mp hon).1, Bool.or_false, Bool.false_and]
  | behind negated =>
    obtain ⟨⟨ns, r₁⟩, hns, h⟩ := bind_eq_ok.mp h
    obtain ⟨r₂, hclose, h⟩ := bind_eq_ok.mp h
    cases h
    have hinner : Copies verbose r r₁ false (ns.any Node.turnsVerboseOn) := by
      split at hns
      · exact (halternatives hns).congr rfl rfl
      · exact halternatives hns
    have hfloor : r₁.Takes { r₁ with floor := r.floor } := .of_eq rfl rfl
    exact hbody (hinner.takes hfloor) hclose (by simp [Piece.nodes, Node.turnsVerboseOn])
  | conditional g =>
    obtain ⟨yes, r₁, more, r₂, no, r₃, hyes, hmore, hno, hclose, rfl⟩ := conditional_ok h
    have hyes' := (hsequences hyes).takes (accept_takes (by decide) hmore)
    have hno' : Copies verbose r₂ r₃ false (no.any Node.turnsVerboseOn) := by
      obtain ⟨-, hno⟩ | ⟨-, rfl, rfl⟩ := hno
      · exact hsequences hno
      · exact .refl ..
    refine (hyes'.trans (hno'.behind ?_) fun hv _ => hv).takes (close_takes hclose)
    simp [Piece.nodes, Node.turnsVerboseOn, Node.turnsVerboseOn_sequence]

/-- Skipping a line goes on. -/
private theorem skipLine_onward {calls : Nat} {r r' : Reader} (h : skipLine calls r = .ok r') :
    r.Onward r' := by
  induction calls generalizing r with
  | zero =>
    cases h
    exact .refl _
  | succ calls ih =>
    unfold skipLine at h
    split at h
    · cases h
      exact .refl _
    · rename_i t ts hr
      obtain ⟨r₁, hadvance, h⟩ := bind_eq_ok.mp h
      obtain ⟨-, h⟩ | ⟨-, h⟩ := ite_eq_iff.mp h
      · cases h
        exact onward_of_advance hr hadvance
      · exact (onward_of_advance hr hadvance).trans (ih h)

/-- A repeat sign puts the part before it into the body of a repeat. -/
private theorem repeated_kept {t : Token} {done done' : List Piece} {r r' : Reader}
    (h : repeated t done r = .ok (done', r')) :
    (Piece.nodes done).any Node.turnsVerboseOn = true →
      (Piece.nodes done').any Node.turnsVerboseOn = true := by
  simp only [repeated] at h
  obtain ⟨⟨found, r₁⟩, -, h⟩ := bind_eq_ok.mp h
  cases found with
  | none =>
    cases h
    rw [Piece.nodes_append, List.any_append]
    intro hdone
    rw [hdone, Bool.true_or]
  | some bounds =>
    dsimp only at h
    split at h
    · cases h
    · rename_i body hbody
      obtain ⟨⟨greed, r₂⟩, -, h⟩ := bind_eq_ok.mp h
      cases h
      cases hlast : done.getLast? with
      | none =>
        rw [hlast] at hbody
        cases hbody
      | some p =>
        obtain ⟨before, rfl⟩ := List.getLast?_eq_some_iff.mp hlast
        rw [hlast] at hbody
        rw [List.dropLast_concat, Piece.nodes_append, Piece.nodes_append, List.any_append,
          List.any_append]
        -- The repeat takes the place of the last piece and keeps its nodes.
        suffices hp : (Piece.nodes [p]).any Node.turnsVerboseOn = body.turnsVerboseOn by
          rw [hp]
          simp [Piece.nodes, Node.turnsVerboseOn]
        unfold Piece.body? at hbody
        split at hbody
        · cases hbody
        · cases hbody
        · cases hbody
        · rename_i heq
          cases heq
          cases hbody
          simp [Piece.nodes]
        · rename_i heq
          cases heq
          cases hbody
          rw [Node.turnsVerboseOn_sequence, Piece.nodes, Piece.nodes, List.append_nil]

/-- One more call of the reader of sequences, with a case for each token. -/
private theorem sequences_copy {calls : Nat} (hsequences : SequencesCopy calls)
    (hgroups : GroupsCopy calls) : SequencesCopy (calls + 1) := by
  intro verbose first done r ns r' h
  simp only [readSequence, throw_bind] at h
  cases hr : r.rest with
  | nil =>
    rw [hr] at h
    cases h
    exact .refl ..
  | cons t ts =>
    rw [hr] at h
    obtain ⟨-, h⟩ | ⟨-, h⟩ := ite_eq_iff.mp h
    · cases h
      exact .refl ..
    obtain ⟨r₁, hadvance, h⟩ := bind_eq_ok.mp h
    have honward₁ := onward_of_advance hr hadvance
    have hts : r₁.rest = ts := by rw [advance_of_cons hr hadvance]
    -- One token and what belongs to it, with the parts `done'` as they are then.
    have next {done' : List Piece} {r₂ : Reader} (honward : r₁.Onward r₂)
        (hkept : (Piece.nodes done).any Node.turnsVerboseOn = true →
          (Piece.nodes done').any Node.turnsVerboseOn = true)
        (hcopied : verbose = false → Uncommented (t :: ts) → Copied .outside r₂.rest →
          Copied .outside (t :: ts))
        (h : readSequence calls verbose first done' r₂ = .ok (ns, r')) :
        Copies verbose r r' ((Piece.nodes done).any Node.turnsVerboseOn)
          (ns.any Node.turnsVerboseOn) := by
      refine .trans ⟨honward₁.trans honward, hkept, ?_⟩ (hsequences h) fun hv _ => hv
      rw [hr]
      exact fun hv _ _ hfit => hcopied hv hfit
    have hmore {p : Piece} : (Piece.nodes done).any Node.turnsVerboseOn = true →
        (Piece.nodes (done ++ [p])).any Node.turnsVerboseOn = true := by
      intro hdone
      rw [Piece.nodes_append, List.any_append, hdone, Bool.true_or]
    obtain ⟨hskip, h⟩ | ⟨-, h⟩ := ite_eq_iff.mp h
    · refine next (.refl _) id (fun hv => ?_) h
      rw [hv] at hskip
      cases hskip
    obtain ⟨hskip, h⟩ | ⟨-, h⟩ := ite_eq_iff.mp h
    · obtain ⟨r₂, hline, h⟩ := bind_eq_ok.mp h
      refine next (skipLine_onward hline) id (fun hv => ?_) h
      rw [hv] at hskip
      cases hskip
    obtain ⟨hescaped, h⟩ | ⟨hplain, h⟩ := ite_eq_iff.mp h
    · obtain ⟨⟨n, r₂⟩, hn, h⟩ := bind_eq_ok.mp h
      obtain ⟨hk, htakes⟩ := escape_takes hn
      refine next htakes.toOnward hmore (fun _ _ hcopied => ?_) h
      exact (hts ▸ htakes.copied (.inl rfl) hcopied).escape hescaped hk
    rw [Bool.not_eq_true] at hplain
    obtain ⟨hclass, h⟩ | ⟨hclass, h⟩ := ite_eq_iff.mp h
    · obtain ⟨⟨n, r₂⟩, hn, h⟩ := bind_eq_ok.mp h
      obtain ⟨honward, hcopied⟩ := charClass_copied hn
      refine next honward hmore (fun _ hfit hend => ?_) h
      have hproper : ∀ u ∈ r₁.rest, u.IsProper := fun u hu =>
        hfit.proper u (List.mem_cons_of_mem t (hts ▸ hu))
      exact (hts ▸ hcopied hproper hend).bracket (by simpa [Token.is, hplain] using hclass)
    -- A token that is copied for itself.
    have single {done' : List Piece} {r₂ : Reader} (hgroup : t.char ≠ '(') (htakes : r₁.Takes r₂)
        (hkept : (Piece.nodes done).any Node.turnsVerboseOn = true →
          (Piece.nodes done').any Node.turnsVerboseOn = true)
        (h : readSequence calls verbose first done' r₂ = .ok (ns, r')) :
        Copies verbose r r' ((Piece.nodes done).any Node.turnsVerboseOn)
          (ns.any Node.turnsVerboseOn) := by
      refine next htakes.toOnward hkept (fun _ hfit hend => ?_) h
      exact (hts ▸ htakes.copied (.inl rfl) hend).plain hplain
        (hfit.proper t (List.mem_cons_self ..) hplain) (by simpa using hclass)
        fun hc => absurd hc hgroup
    obtain ⟨hsign, h⟩ | ⟨-, h⟩ := ite_eq_iff.mp h
    · obtain ⟨⟨done', r₂⟩, hdone, h⟩ := bind_eq_ok.mp h
      refine single (fun hc => ?_) (repeated_takes hdone) (repeated_kept hdone) h
      rw [hc] at hsign
      cases hsign
    obtain ⟨hc, h⟩ | ⟨-, h⟩ := ite_eq_iff.mp h
    · exact single (by simp [beq_iff_eq.mp hc]) (.refl _) hmore h
    obtain ⟨hc, h⟩ | ⟨-, h⟩ := ite_eq_iff.mp h
    · exact single (by simp [beq_iff_eq.mp hc]) (.refl _) hmore h
    obtain ⟨hc, h⟩ | ⟨-, h⟩ := ite_eq_iff.mp h
    · exact single (by simp [beq_iff_eq.mp hc]) (.refl _) hmore h
    obtain ⟨hgroup, h⟩ | ⟨hgroup, h⟩ := ite_eq_iff.mp h
    · obtain ⟨⟨o, r₂⟩, ho, h⟩ := bind_eq_ok.mp h
      obtain ⟨honward, hcopied⟩ := opening_copied ho
      rw [beq_iff_eq] at hgroup
      -- The parenthesis and the opening behind it.
      have hopening : Copies verbose r r₂ ((Piece.nodes done).any Node.turnsVerboseOn)
          ((Piece.nodes done).any Node.turnsVerboseOn) := by
        refine ⟨honward₁.trans honward, id, fun _ _ _ hfit hend => ?_⟩
        rw [hr] at hfit ⊢
        rw [hts] at hcopied
        have hcomment : ¬['?', '#'] <+: textOf ts := by
          rintro ⟨rest, hrest⟩
          refine hfit.comment ⟨[], rest, ?_⟩
          rw [textOf_cons, Token.text_of_plain hplain, hgroup, ← hrest]
          rfl
        obtain ⟨hopens, hts⟩ := hcopied hcomment hend
        exact hts.plain hplain (by simp [hgroup]) (by simp [hgroup]) fun _ => hopens
      dsimp only at h
      split at h
      · exact hopening.trans (hsequences h) fun hv _ => hv
      · obtain ⟨-, h⟩ | ⟨-, h⟩ := ite_eq_iff.mp h
        · cases h
        · exact hopening.trans (hsequences h) fun _ hglobals => by simpa using hglobals
      · obtain ⟨⟨p, r₃⟩, hp, h⟩ := bind_eq_ok.mp h
        refine (hopening.trans ((hgroups hp).behind rfl) fun hv _ => hv).trans ?_ fun hv _ => hv
        rw [← List.any_append, ← Piece.nodes_append]
        exact hsequences h
    · exact single (by simpa using hgroup) (.refl _) hmore h

/-- The three readers call one another, so the induction is on their calls together. -/
private theorem all_copy (calls : Nat) :
    AlternativesCopy calls ∧ SequencesCopy calls ∧ GroupsCopy calls := by
  induction calls with
  | zero =>
    refine ⟨?_, ?_, ?_⟩
    · rintro _ _ _ _ _ _ ⟨⟩
    · rintro _ _ _ _ _ _ ⟨⟩
    · rintro _ _ _ _ _ _ ⟨⟩
  | succ calls ih =>
    obtain ⟨halternatives, hsequences, hgroups⟩ := ih
    exact ⟨alternatives_copy halternatives hsequences, sequences_copy hsequences hgroups,
      groups_copy halternatives hsequences⟩

/-- What is read as alternatives is copied. -/
theorem readAlternatives_copies {calls : Nat} {verbose top : Bool} {done : List (List Node)}
    {ns : List Node} {r r' : Reader}
    (h : readAlternatives calls verbose top done r = .ok (ns, r')) :
    Copies verbose r r' (done.flatten.any Node.turnsVerboseOn) (ns.any Node.turnsVerboseOn) :=
  (all_copy calls).1 h

end Reader

/-! ## Whole fragments -/

/-- The spelling of a fragment changes nothing in a text that is read as a pattern, that has no
comment in a group of its own, and that never switches the flag `x` on. -/
theorem normalise_of_readAll {fragment : String} {root : Node} {r : Reader}
    (h : readAll fragment.toList = .ok (root, r))
    (hcomment : ¬"(?#".toList <:+: fragment.toList) (hglobals : 'x' ∉ r.globals)
    (hscoped : root.turnsVerboseOn = false) : Fragment.normalise fragment = fragment := by
  obtain ⟨hsolid, hend, ns, rfl, hns⟩ := readAll_ok h
  have htext := textOf_tokens hsolid 0
  have hfit : Reader.Uncommented (tokens 0 fragment.toList) :=
    ⟨isProper_of_mem_tokens, by rwa [htext]⟩
  rw [Node.turnsVerboseOn_sequence] at hscoped
  have hcopied := (Reader.readAlternatives_copies hns).copied rfl hscoped hglobals hfit
    (hend ▸ copied_nil .outside)
  unfold Copied at hcopied
  rw [Reader.behind, htext] at hcopied
  rw [Fragment.normalise, hcopied, String.ofList_toList]

/-- Look-behinds, a named group and references to it, and classes that hold what would open a group,
begin with a bracket or end in a dash. -/
theorem normalise_lookbehinds_and_classes :
    let fragment := "(?<=a)(?<!\\[b)(?P<n>[(?<x>])(?P=n)+?[]a\\]][^]b-d][a-](?(n)\\\\k<n>|(?i:k))"
    ∃ root r, readAll fragment.toList = .ok (root, r) ∧ ¬"(?#".toList <:+: fragment.toList ∧
      'x' ∉ r.globals ∧ root.turnsVerboseOn = false ∧ Fragment.normalise fragment = fragment := by
  intro fragment
  have hcomment : ¬"(?#".toList <:+: fragment.toList := by decide +kernel
  have hplain : (readAll fragment.toList).toOption.any
      (fun p => !p.2.globals.contains 'x' && !p.1.turnsVerboseOn) = true := by decide +kernel
  cases hread : readAll fragment.toList with
  | error e =>
    rw [hread] at hplain
    cases hplain
  | ok p =>
    obtain ⟨root, r⟩ := p
    rw [hread] at hplain
    have hflags : 'x' ∉ r.globals ∧ root.turnsVerboseOn = false := by
      simpa [Except.toOption] using hplain
    exact ⟨root, r, rfl, hcomment, hflags.1, hflags.2,
      normalise_of_readAll hread hcomment hflags.1 hflags.2⟩

end Marginalia.Pattern
