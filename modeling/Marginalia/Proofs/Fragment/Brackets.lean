import Marginalia.Proofs.Fragment.Copying

/-!
# Classes and openings of groups under the spelling of fragments

The two places where the machine looks at more than one character.  Inside a class it agrees with the
reader on the bracket that closes the class, also where the first member is such a bracket, and after
the parenthesis of a group it finds no `?<name>`, since no group that the reader opens is spelled so:
after `?<` comes the sign of a look-behind.
-/

namespace Marginalia.Pattern

open Fragment (Place opensNamed)

namespace Reader

/-! ## Bracketed classes -/

/-- What follows the first character of a member is ordinary. -/
theorem classMember_takes {t : Token} {item : ClassItem} {r r' : Reader}
    (h : classMember t r = .ok (item, r')) : r.Takes r' := by
  unfold classMember at h
  split at h
  · exact classEscape_takes h
  · cases h
    exact .refl r

/-- Where the machine stands in a class of which the members `done` were read: a class without a
member cannot be closed yet. -/
def StandsIn (place : Place) (done : List ClassItem) (r : Reader) : Prop :=
  done ≠ [] ∧ place = .inClass ∨
    done = [] ∧ (place = .classNegated ∨ place = .classOpened ∧ r.nextIs '^' = false)

/-- The machine copies a token that was read as a member, whichever member it is. -/
theorem StandsIn.copied {place : Place} {done : List ClassItem} {r : Reader}
    (h : StandsIn place done r) {t : Token} {ts : List Token} (hr : r.rest = t :: ts)
    (hproper : t.IsProper) (ht : (t.is ']' && !done.isEmpty) = false)
    (hts : Copied .inClass ts) : Copied place r.rest := by
  rw [hr]
  obtain ⟨hdone, rfl⟩ | ⟨-, hplace⟩ := h
  · exact hts.member hproper (by simpa [hdone] using ht)
  · refine hts.firstMember hproper (hplace.imp_right fun h => ⟨h.1, ?_⟩)
    simpa [nextIs, hr] using h.2

/-- The items of a class are copied up to its end. -/
theorem classItems_copied {start calls : Nat} {done items : List ClassItem} {r r' : Reader}
    (h : classItems start calls done r = .ok (items, r')) :
    r.Onward r' ∧ ∀ {place}, StandsIn place done r → (∀ t ∈ r.rest, t.IsProper) →
      Copied .outside r'.rest → Copied place r.rest := by
  induction calls generalizing done r with
  | zero => cases h
  | succ calls ih =>
    have hin {done : List ClassItem} {item : ClassItem} {r : Reader} :
        StandsIn .inClass (done ++ [item]) r := .inl ⟨by simp, rfl⟩
    simp only [classItems] at h
    cases hr : r.rest with
    | nil => simp only [hr] at h; cases h
    | cons t ts =>
      simp only [hr] at h
      obtain ⟨r₁, hr₁, h⟩ := bind_eq_ok.mp h
      have honward₁ := onward_of_advance hr hr₁
      have hts : r₁.rest = ts := by rw [advance_of_cons hr hr₁]
      split at h
      · -- The bracket that closes the class for the reader closes it for the machine.
        rename_i hclose
        rw [Bool.and_eq_true] at hclose
        cases h
        refine ⟨honward₁, fun {place} hplace _ hcopied => ?_⟩
        obtain ⟨-, rfl⟩ | ⟨rfl, -⟩ := hplace
        · exact (hts ▸ hcopied).endOfClass hclose.1
        · cases hclose.2
      rename_i hmember
      rw [Bool.not_eq_true] at hmember
      generalize hwarned : (if done.isEmpty then r₁ else r₁.warnOperation t) = r₂ at h
      have htakes₂ : r₁.Takes r₂ := by
        subst hwarned
        unfold warnOperation
        split
        · exact .refl _
        · split
          · exact .of_eq rfl rfl
          · exact .refl _
      obtain ⟨⟨item, r₃⟩, hitem, h⟩ := bind_eq_ok.mp h
      obtain ⟨⟨dash, r₄⟩, hdash, h⟩ := bind_eq_ok.mp h
      have htakes := (htakes₂.trans (classMember_takes hitem)).trans
        (accept_takes (by decide) hdash)
      -- What follows the first member is read with the machine inside of the class.
      suffices hrest : r₄.Onward r' ∧ ((∀ u ∈ r₄.rest, u.IsProper) →
          Copied .outside r'.rest → Copied .inClass r₄.rest) by
        refine ⟨honward₁.trans (htakes.toOnward.trans hrest.1), fun hplace hproper hcopied => ?_⟩
        have hproper₄ : ∀ u ∈ r₄.rest, u.IsProper := fun u hu =>
          hproper u (hr ▸ (honward₁.trans htakes.toOnward).rest.subset hu)
        refine hr ▸ hplace.copied hr (hproper t (List.mem_cons_self ..)) hmember ?_
        exact hts ▸ htakes.copied (.inr rfl) (hrest.2 hproper₄ hcopied)
      split at h
      · obtain ⟨honward, hcopied⟩ := ih h
        exact ⟨honward, fun hproper => hcopied hin hproper⟩
      cases hr₄ : r₄.rest with
      | nil => simp only [hr₄] at h; cases h
      | cons u us =>
        simp only [hr₄] at h
        obtain ⟨r₅, hr₅, h⟩ := bind_eq_ok.mp h
        have honward₅ := onward_of_advance hr₄ hr₅
        have hus : r₅.rest = us := by rw [advance_of_cons hr₄ hr₅]
        split at h
        · rename_i hclose
          cases h
          exact ⟨honward₅, fun _ hcopied => (hus ▸ hcopied).endOfClass hclose⟩
        rename_i hmember'
        rw [Bool.not_eq_true] at hmember'
        generalize hwarned' :
          (if u.is '-' then r₅.warn (.setOperation '-' (r₅.tell - 2)) else r₅) = r₆ at h
        have htakes₆ : r₅.Takes r₆ := by
          subst hwarned'
          split
          · exact .of_eq rfl rfl
          · exact .refl _
        obtain ⟨⟨last, r₇⟩, hlast, h⟩ := bind_eq_ok.mp h
        have htakes' := htakes₆.trans (classMember_takes hlast)
        dsimp only at h
        split at h
        · obtain ⟨-, h⟩ | ⟨-, h⟩ := ite_eq_iff.mp h
          · cases h
          obtain ⟨honward, hcopied⟩ := ih h
          refine ⟨honward₅.trans (htakes'.toOnward.trans honward), fun hproper hend => ?_⟩
          have hproper₇ : ∀ v ∈ r₇.rest, v.IsProper := fun v hv =>
            hproper v (hr₄ ▸ (honward₅.trans htakes'.toOnward).rest.subset hv)
          have hinside := htakes'.copied (.inr rfl) (hcopied hin hproper₇ hend)
          exact (hus ▸ hinside).member (hproper u (List.mem_cons_self ..)) hmember'
        · cases h

/-- So is a class from its bracket on. -/
theorem charClass_copied {start : Nat} {n : Node} {r r' : Reader}
    (h : charClass start r = .ok (n, r')) :
    r.Onward r' ∧ ((∀ t ∈ r.rest, t.IsProper) → Copied .outside r'.rest →
      Copied .classOpened r.rest) := by
  simp only [charClass] at h
  generalize hwarned : (if r.nextIs '[' then r.warn (.nestedSet r.tell) else r) = r₁ at h
  have hrest₁ : r₁.rest = r.rest := by
    subst hwarned
    split <;> rfl
  have hglobals₁ : r₁.globals = r.globals := by
    subst hwarned
    split <;> rfl
  obtain ⟨⟨negated, r₂⟩, hnegated, h⟩ := bind_eq_ok.mp h
  obtain ⟨⟨items, r₃⟩, hitems, h⟩ := bind_eq_ok.mp h
  cases h
  obtain ⟨honward, hcopied⟩ := classItems_copied hitems
  have hcaret := accept_takes (by decide) hnegated
  have honward₁ := (Takes.of_eq hrest₁ hglobals₁).toOnward.trans hcaret.toOnward
  refine ⟨honward₁.trans honward, fun hproper hend => ?_⟩
  have hproper₂ : ∀ t ∈ r₂.rest, t.IsProper := fun t ht => hproper t (honward₁.rest.subset ht)
  rw [← hrest₁]
  obtain ⟨-, t, ts, hr, ht, rfl⟩ | ⟨-, hnext, rfl⟩ := accept_ok hnegated
  · rw [hr]
    exact (hcopied (.inr ⟨rfl, .inl rfl⟩) hproper₂ hend).caret ht
  · exact hcopied (.inr ⟨rfl, .inr ⟨rfl, hnext⟩⟩) hproper₂ hend

/-! ## Openings of groups -/

/-- Skipping a comment goes on. -/
theorem skipComment_onward {start calls : Nat} {r r' : Reader}
    (h : skipComment start calls r = .ok r') : r.Onward r' := by
  induction calls generalizing r with
  | zero => cases h
  | succ calls ih =>
    unfold skipComment at h
    split at h
    · cases h
    · rename_i t ts hr
      obtain ⟨r₁, hr₁, h⟩ := bind_eq_ok.mp h
      have honward := onward_of_advance hr hr₁
      split at h
      · cases h
        exact honward
      · exact honward.trans (ih h)

/-- The token that is taken was ahead. -/
theorem take_ok {r r' : Reader} {t : Token} (h : r.take = .ok (t, r')) :
    ∃ ts, r.rest = t :: ts ∧ r' = { r with rest := ts } := by
  unfold take at h
  split at h
  · cases h
  · rename_i u us hr
    obtain ⟨r₁, hr₁, h⟩ := bind_eq_ok.mp h
    cases h
    exact ⟨us, hr, advance_of_cons hr hr₁⟩

/-- What a condition tests is spelled with ordinary characters, and it is no question mark. -/
theorem conditionGroup_ok {cs : List Char} {g : Nat} {r r' : Reader}
    (h : conditionGroup cs r = .ok (g, r')) :
    r.Takes r' ∧ (∀ c ∈ cs, IsOrdinary c) ∧ '?' ∉ cs := by
  unfold conditionGroup at h
  split at h
  · rename_i hname
    obtain ⟨_, -, h⟩ := map_eq_ok h
    cases h
    refine ⟨.refl _, isOrdinary_of_isIdentifier hname, ?_⟩
    exact Text.not_mem_of_isIdentifier hname (by decide) (by decide)
  · obtain ⟨n, hnumber⟩ : ∃ n, Text.readInteger? cs = some n := by
      simp only [conditionNumber, throw_bind] at h
      split at h
      · cases h
      · rename_i m _ hm
        obtain ⟨-, hm⟩ | ⟨-, hm⟩ := ite_eq_iff.mp hm
        · cases hm
        · exact ⟨_, hm⟩
      · cases h
    obtain ⟨tested, warnings, -, rfl⟩ := conditionNumber_ok h
    have hnot {c : Char} (hdigit : Text.digitValue? c.toNat = none) (hsign : c ∉ ['_', '+', '-'])
        (hblank : Text.isBlank c.toNat = false) : c ∉ cs :=
      Text.not_mem_of_readInteger? hdigit hsign hnumber hblank
    refine ⟨.of_eq rfl rfl, ?_, hnot (by decide +kernel) (by decide) (by decide +kernel)⟩
    apply isOrdinary_of_not_mem <;>
      exact hnot (by decide +kernel) (by decide) (by decide +kernel)

/-- A reference by name is ordinary. -/
theorem namedReference_takes {r r' : Reader} {o : Opening}
    (h : namedReference r = .ok (o, r')) : r.Takes r' := by
  simp only [namedReference, throw_bind] at h
  obtain ⟨⟨cs, r₁⟩, hcs, h⟩ := bind_eq_ok.mp h
  obtain ⟨_, hcheck, h⟩ := bind_eq_ok.mp h
  obtain ⟨g, -, h⟩ := bind_eq_ok.mp h
  obtain ⟨-, h⟩ | ⟨-, h⟩ := ite_eq_iff.mp h
  · cases h
  obtain ⟨_, -, h⟩ := bind_eq_ok.mp h
  cases h
  exact (name_takes (by decide) hcs (isOrdinary_of_isIdentifier (checkName_ok hcheck))).1

/-- So are the forms that begin with the letter P. -/
theorem namedForm_takes {r r' : Reader} {o : Opening} (h : namedForm r = .ok (o, r')) :
    r.Takes r' := by
  simp only [namedForm] at h
  obtain ⟨⟨named, r₁⟩, hnamed, h⟩ := bind_eq_ok.mp h
  have htakes₁ := accept_takes (by decide) hnamed
  split at h
  · obtain ⟨⟨cs, r₂⟩, hcs, h⟩ := bind_eq_ok.mp h
    obtain ⟨_, hcheck, h⟩ := bind_eq_ok.mp h
    cases h
    have hcs := name_takes (by decide) hcs (isOrdinary_of_isIdentifier (checkName_ok hcheck))
    exact htakes₁.trans hcs.1
  · obtain ⟨⟨refers, r₂⟩, hrefers, h⟩ := bind_eq_ok.mp h
    have htakes₂ := htakes₁.trans (accept_takes (by decide) hrefers)
    split at h
    · exact htakes₂.trans (namedReference_takes h)
    · obtain ⟨⟨t, r₃⟩, -, h⟩ := bind_eq_ok.mp h
      cases h

/-- A look-behind has one of the two signs by which the machine knows it. -/
theorem lookbehind_ok {r r' : Reader} {o : Opening} (h : lookbehind r = .ok (o, r')) :
    r.Takes r' ∧ ∃ c cs, textOf r.rest = c :: cs ∧ (c = '=' ∨ c = '!') := by
  simp only [lookbehind] at h
  obtain ⟨⟨t, r₁⟩, ht, h⟩ := bind_eq_ok.mp h
  obtain ⟨ts, hr, rfl⟩ := take_ok ht
  have hsign {c : Char} (hc : IsOrdinary c) (ht : t.is c = true) :
      r.Takes { r with rest := ts } ∧ textOf r.rest = c :: textOf ts := by
    refine ⟨⟨⟨hr ▸ List.suffix_cons t ts, fun _ => id⟩, [t], hr, ?_⟩, ?_⟩
    · exact List.forall_mem_singleton.mpr (isOrdinary_of_is ht hc)
    · rw [hr, textOf_cons, Token.text_of_is ht, List.singleton_append]
  split at h
  · rename_i hequals
    cases h
    obtain ⟨htakes, htext⟩ := hsign (by decide) hequals
    exact ⟨htakes, '=', _, htext, .inl rfl⟩
  split at h
  · rename_i hbang
    cases h
    obtain ⟨htakes, htext⟩ := hsign (by decide) hbang
    exact ⟨htakes, '!', _, htext, .inr rfl⟩
  · cases h

/-- A named group begins with a question mark. -/
theorem opensNamed_of_head {cs : List Char} (h : cs.head? ≠ some '?') : opensNamed cs = false := by
  unfold opensNamed
  split <;> first | rfl | exact absurd rfl h

/-- A named group has a less-than sign next. -/
theorem opensNamed_of_letter {c : Char} {cs : List Char} (hc : c ≠ '<') :
    opensNamed ('?' :: c :: cs) = false := by
  simp [opensNamed, hc]

/-- A text does not begin with a character that is not the next token. -/
theorem head?_textOf_ne {r : Reader} (h : r.nextIs '?' = false) :
    (textOf r.rest).head? ≠ some '?' := by
  cases hr : r.rest with
  | nil => nofun
  | cons t ts =>
    rw [textOf_cons]
    cases hescaped : t.escaped with
    | true => simp [Token.text_of_escaped hescaped]
    | false => simpa [Token.text_of_plain hescaped, nextIs, hr, Token.is, hescaped] using h

/-- The second parenthesis of a condition, and what it tests. -/
theorem condition_copied {r r' : Reader} {o : Opening} (h : condition r = .ok (o, r'))
    {t : Token} (ht : t.is '(' = true) :
    r.Onward r' ∧ (Copied .outside r'.rest → Copied .outside (t :: r.rest)) := by
  simp only [condition] at h
  obtain ⟨⟨cs, r₁⟩, hcs, h⟩ := bind_eq_ok.mp h
  obtain ⟨⟨g, r₂⟩, hg, h⟩ := bind_eq_ok.mp h
  obtain ⟨_, -, h⟩ := bind_eq_ok.mp h
  cases h
  obtain ⟨htakes, hordinary, hmark⟩ := conditionGroup_ok hg
  obtain ⟨htakes₁, c, ds, rfl, hhead⟩ := name_takes (by decide) hcs hordinary
  have htakes := htakes₁.trans htakes
  refine ⟨htakes.toOnward, fun hcopied => ?_⟩
  simp only [Token.is, Bool.and_eq_true, Bool.not_eq_true', beq_iff_eq] at ht
  refine (htakes.copied (.inl rfl) hcopied).plain ht.1 (by simp [ht.2]) (by simp [ht.2]) fun _ => ?_
  apply opensNamed_of_head
  rw [hhead]
  rintro ⟨⟩
  exact hmark (List.mem_cons_self ..)

/-- After the opening of a group the machine goes on as it does after any character, unless the group
is a comment. -/
theorem opening_copied {start : Nat} {r r' : Reader} {o : Opening}
    (h : opening start r = .ok (o, r')) :
    r.Onward r' ∧ (¬['?', '#'] <+: textOf r.rest → Copied .outside r'.rest →
      opensNamed (textOf r.rest) = false ∧ Copied .outside r.rest) := by
  simp only [opening, throw_bind] at h
  obtain ⟨⟨extended, r₁⟩, hextended, h⟩ := bind_eq_ok.mp h
  obtain ⟨rfl, hnext, hr₁⟩ | ⟨rfl, q, qs, hr, hq, hr₁⟩ := (accept_ok hextended).symm
  · -- A group without a question mark.
    obtain ⟨-, h⟩ | ⟨hfound, -⟩ := ite_eq_iff.mp h
    · cases h
      subst hr₁
      exact ⟨.refl _, fun _ hcopied => ⟨opensNamed_of_head (head?_textOf_ne hnext), hcopied⟩⟩
    · exact absurd rfl hfound
  obtain ⟨hfound, -⟩ | ⟨-, h⟩ := ite_eq_iff.mp h
  · cases hfound
  obtain ⟨⟨t, r₂⟩, ht, h⟩ := bind_eq_ok.mp h
  obtain ⟨ts, hqs, hr₂⟩ := take_ok ht
  obtain ⟨-, h⟩ | ⟨hplain, h⟩ := ite_eq_iff.mp h
  · cases h
  replace hplain : t.escaped = false := by simpa using hplain
  replace hr : r.rest = q :: t :: r₂.rest := by
    rw [hr₂, hr, ← hqs, hr₁]
  have honward₂ : r.Onward r₂ := by
    refine ⟨hr ▸ (List.suffix_cons t _).trans (List.suffix_cons q _), fun c hc => ?_⟩
    rw [hr₂, hr₁]
    exact hc
  have htext : textOf r.rest = '?' :: t.char :: textOf r₂.rest := by
    rw [hr, textOf_cons, textOf_cons, Token.text_of_is hq, Token.text_of_plain hplain]
    rfl
  have hmark {us : List Token} (h : Copied .outside us) : Copied .outside (q :: us) :=
    h.ordinary (isOrdinary_of_is hq (by decide)) (.inl rfl)
  clear hr₁ hr₂ hqs ht hextended
  -- The letter after the question mark is ordinary, and it is not the sign of a name.
  have hletter {r' : Reader} (hordinary : IsOrdinary t.char) (hname : t.char ≠ '<')
      (h : r₂.Takes r') :
      r.Onward r' ∧ (¬['?', '#'] <+: textOf r.rest → Copied .outside r'.rest →
        opensNamed (textOf r.rest) = false ∧ Copied .outside r.rest) := by
    refine ⟨honward₂.trans h.toOnward, fun _ hcopied => ⟨htext ▸ opensNamed_of_letter hname, ?_⟩⟩
    rw [hr]
    exact hmark ((h.copied (.inl rfl) hcopied).ordinary ⟨hplain, hordinary⟩ (.inl rfl))
  dsimp only at h
  split at h
  · rename_i hc
    exact hletter (hc ▸ by decide) (hc ▸ by decide) (namedForm_takes h)
  · rename_i hc
    cases h
    exact hletter (hc ▸ by decide) (hc ▸ by decide) (.refl _)
  · rename_i hc
    obtain ⟨r₃, hr₃, h⟩ := bind_eq_ok.mp h
    cases h
    refine ⟨honward₂.trans (skipComment_onward hr₃), fun hcomment => absurd ?_ hcomment⟩
    rw [htext, hc]
    exact ⟨textOf r₂.rest, rfl⟩
  · rename_i hc
    cases h
    exact hletter (hc ▸ by decide) (hc ▸ by decide) (.refl _)
  · rename_i hc
    cases h
    exact hletter (hc ▸ by decide) (hc ▸ by decide) (.refl _)
  · rename_i hc
    obtain ⟨htakes, c, cs, hcs, hsign⟩ := lookbehind_ok h
    refine ⟨honward₂.trans htakes.toOnward, fun _ hcopied => ⟨?_, ?_⟩⟩
    · rw [htext, hc, hcs]
      rcases hsign with rfl | rfl <;> rfl
    · rw [hr]
      have hts := htakes.copied (.inl rfl) hcopied
      exact hmark (hts.ordinary ⟨hplain, hc ▸ by decide⟩ (.inl rfl))
  · rename_i hc
    obtain ⟨honward, hcondition⟩ := condition_copied h (t := t) (by simp [Token.is, hplain, hc])
    refine ⟨honward₂.trans honward, fun _ hcopied => ⟨?_, hr ▸ hmark (hcondition hcopied)⟩⟩
    rw [htext, hc]
    rfl
  · rename_i hc
    cases h
    exact hletter (hc ▸ by decide) (hc ▸ by decide) (.refl _)
  · obtain ⟨hflag, h⟩ | ⟨-, h⟩ := ite_eq_iff.mp h
    · obtain ⟨⟨scope, r₃⟩, hscope, h⟩ := bind_eq_ok.mp h
      have hr₃ : r' = r₃ := by
        cases scope with
        | none => cases h; rfl
        | some scope => cases h; rfl
      subst hr₃
      have hordinary := @isOrdinary_of_kind (fun c => isFlag c || c == '-') t.char hflag (by decide)
      refine hletter hordinary ?_ (flags_takes hscope)
      intro hc
      rw [hc] at hflag
      cases hflag
    · cases h

end Reader

end Marginalia.Pattern
