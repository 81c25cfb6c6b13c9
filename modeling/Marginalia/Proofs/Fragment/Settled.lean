import Marginalia.Proofs.Fragment.Copying

/-!
# Fragments that need no other spelling

A text is normal if nowhere outside of escapes and classes a named group or a reference begins in
the other spelling (`IsNormal`).  The texts that `normalise` leaves alone are exactly these, and
what it gives is one of them, for every text, also for one that is no pattern.  So to normalise
twice is to normalise once (`normalise_normalise`).

What comes out of the machine is another text than what went in, and the second run reads across the
seams between what was copied and what was replaced.  An ordinary character in the output was copied
from the input, and so was all that stands around it (`eq_append_of_spell`); hence a spelling that
the second run would replace was there for the first one.
-/

namespace Marginalia.Fragment

open Pattern (IsOrdinary isOrdinary_of_kind)

/-! ## Normal texts -/

/-- Read from the given place on, the other spelling begins nowhere outside of escapes and
classes. -/
def NormalFrom (place : Place) (text : List Char) : Prop :=
  ∀ before after, text = before ++ after → before.foldl Place.after place = .outside →
    startsForeign after = false

/-- The other spelling begins nowhere outside of escapes and classes. -/
def IsNormal (text : List Char) : Prop := NormalFrom .outside text

theorem normalFrom_nil (place : Place) : NormalFrom place [] := by
  intro before after htext _
  obtain ⟨-, rfl⟩ := List.nil_eq_append_iff.mp htext
  rfl

/-- The first character and the rest. -/
theorem normalFrom_cons {place : Place} {c : Char} {cs : List Char} :
    NormalFrom place (c :: cs) ↔
      (place = .outside → startsForeign (c :: cs) = false) ∧ NormalFrom (place.after c) cs := by
  constructor
  · intro h
    exact ⟨h [] _ rfl, fun before after htext => h (c :: before) after (congrArg (c :: ·) htext)⟩
  · rintro ⟨hfirst, hrest⟩ before after htext hplace
    cases before with
    | nil =>
      rw [List.nil_append] at htext
      rw [← htext]
      exact hfirst hplace
    | cons d before =>
      rw [List.cons_append, List.cons.injEq] at htext
      obtain ⟨rfl, rfl⟩ := htext
      exact hrest before after rfl hplace

/-- An ordinary character keeps the place. -/
theorem after_of_isOrdinary {c : Char} (hc : IsOrdinary c) : Place.outside.after c = .outside := by
  obtain ⟨hescape, hopen, -, -⟩ := hc
  simp [Place.after, hescape, hopen]

/-- Nothing in the other spelling begins with one. -/
theorem startsForeign_of_isOrdinary {c : Char} (hc : IsOrdinary c) (cs : List Char) :
    startsForeign (c :: cs) = false := by
  obtain ⟨hescape, -, -, hgroup⟩ := hc
  simp [startsForeign, hescape, hgroup]

/-- Ordinary characters in front of a normal text make no difference. -/
theorem NormalFrom.append {w cs : List Char} (hw : ∀ c ∈ w, IsOrdinary c)
    (h : NormalFrom .outside cs) : NormalFrom .outside (w ++ cs) := by
  induction w with
  | nil => exact h
  | cons c w ih =>
    obtain ⟨hc, hw⟩ := List.forall_mem_cons.mp hw
    rw [List.cons_append, normalFrom_cons, after_of_isOrdinary hc]
    exact ⟨fun _ => startsForeign_of_isOrdinary hc _, ih hw⟩

/-! ## The two spellings -/

/-- A reference in the other spelling. -/
theorem referenceName?_eq_some_iff {cs name : List Char} :
    referenceName? cs = some name ↔ name ≠ [] ∧ (∀ c ∈ name, Text.isWord c.toNat = true) ∧
      ∃ rest, cs = 'k' :: '<' :: (name ++ '>' :: rest) := by
  constructor
  · intro h
    unfold referenceName? at h
    split at h
    · rename_i cs
      dsimp only at h
      split at h
      · rename_i hname
        cases h
        rw [Bool.and_eq_true, Bool.not_eq_true', List.isEmpty_eq_false_iff, beq_iff_eq] at hname
        obtain ⟨rest, hrest⟩ := List.head?_eq_some_iff.mp hname.2
        refine ⟨hname.1, fun c hc => List.all_eq_true.mp List.all_takeWhile c hc, rest, ?_⟩
        rw [← hrest, List.prefix_iff_eq_append.mp (List.takeWhile_prefix _)]
      · cases h
    · cases h
  · rintro ⟨hne, hword, rest, rfl⟩
    have hend : Text.isWord '>'.toNat = false := Text.isWord_ascii _ (by decide)
    have htake : (name ++ '>' :: rest).takeWhile (fun c => Text.isWord c.toNat) = name := by
      rw [List.takeWhile_append_of_pos hword, List.takeWhile_cons, hend, if_neg Bool.false_ne_true,
        List.append_nil]
    simp [referenceName?, htake, hne]

/-- A named group in the other spelling, but no lookbehind. -/
theorem opensNamed_iff {cs : List Char} :
    opensNamed cs = true ↔ ∃ rest, cs = '?' :: '<' :: rest ∧ rest.head? ≠ some '=' ∧
      rest.head? ≠ some '!' := by
  constructor
  · intro h
    unfold opensNamed at h
    split at h
    · cases h
    · cases h
    · rename_i rest hbehind hnot
      refine ⟨rest, rfl, ?_, ?_⟩
      · rw [Ne, List.head?_eq_some_iff]
        exact fun ⟨more, hmore⟩ => hbehind more (by rw [hmore])
      · rw [Ne, List.head?_eq_some_iff]
        exact fun ⟨more, hmore⟩ => hnot more (by rw [hmore])
    · cases h
  · rintro ⟨rest, rfl, hbehind, hnot⟩
    cases rest with
    | nil => rfl
    | cons c rest => simp_all [opensNamed]

/-- A name and the sign behind it are ordinary characters. -/
theorem isOrdinary_of_word {name : List Char} {stop : Char} (hstop : IsOrdinary stop)
    (h : ∀ c ∈ name, Text.isWord c.toNat = true) : ∀ c ∈ name ++ [stop], IsOrdinary c := by
  rw [List.forall_mem_append, List.forall_mem_singleton]
  refine ⟨fun c hc => ?_, hstop⟩
  have hascii : ∀ d : Char, d.toNat < 128 → Text.isAsciiWord d.toNat = false →
      Text.isWord d.toNat = false := fun d hd hword => (Text.isWord_ascii _ hd).trans hword
  refine @isOrdinary_of_kind (fun c => Text.isWord c.toNat) c (h c hc) ⟨?_, ?_, ?_, ?_⟩
  all_goals exact hascii _ (by decide) (by decide)

/-- The opening of a named group is ordinary. -/
theorem isOrdinary_opening : ∀ c ∈ ['?', '<'], IsOrdinary c :=
  List.forall_mem_cons.mpr ⟨by decide, List.forall_mem_singleton.mpr (by decide)⟩

/-- So is the marker that is put in. -/
theorem isOrdinary_marker {last : Char} (hlast : IsOrdinary last) :
    ∀ c ∈ ['?', 'P', last], IsOrdinary c :=
  List.forall_mem_cons.mpr
    ⟨by decide, List.forall_mem_cons.mpr ⟨by decide, List.forall_mem_singleton.mpr hlast⟩⟩

/-! ## What is copied and what is replaced -/

/-- While characters are dropped, the machine is on its way to the text behind them. -/
theorem spell_replaced (n : Nat) (cs : List Char) :
    spell (.replaced n) cs = spell .outside (cs.drop n) := by
  induction cs generalizing n with
  | nil => rw [List.drop_nil, spell, spell]
  | cons c cs ih =>
    cases n with
    | zero => rfl
    | succ n =>
      rw [spell, List.drop_succ_cons]
      split
      · rename_i hn
        rw [hn, List.drop_zero]
      · exact ih n

/-- Outside of escapes and classes the machine copies a character, or it replaces the beginning of a
named group or a whole reference. -/
theorem spell_cases (c : Char) (cs : List Char) :
    (startsForeign (c :: cs) = false ∧
      spell .outside (c :: cs) = c :: spell (Place.outside.after c) cs) ∨
    (∃ rest, c :: cs = '(' :: '?' :: '<' :: rest ∧
      spell .outside (c :: cs) = '(' :: (['?', 'P', '<'] ++ spell .outside rest)) ∨
    (∃ name rest, c :: cs = '\\' :: 'k' :: '<' :: (name ++ '>' :: rest) ∧
      (∀ c ∈ name, Text.isWord c.toNat = true) ∧
      spell .outside (c :: cs) =
        '(' :: (['?', 'P', '='] ++ (name ++ [')'] ++ spell .outside rest))) := by
  cases hforeign : startsForeign (c :: cs) with
  | false => exact .inl ⟨rfl, spell_cons .outside (by simp) fun _ => hforeign⟩
  | true =>
    right
    unfold startsForeign at hforeign
    split at hforeign
    · rename_i cs' heq
      obtain ⟨rfl, rfl⟩ := List.cons.inj heq
      obtain ⟨name, hname⟩ := Option.isSome_iff_exists.mp hforeign
      obtain ⟨-, hword, rest, rfl⟩ := referenceName?_eq_some_iff.mp hname
      -- A reference becomes a group that refers by name.
      refine .inr ⟨name, rest, rfl, hword, ?_⟩
      have hdrop : ('k' :: '<' :: (name ++ '>' :: rest)).drop (name.length + 3) = rest := by
        simp [List.drop_append]
      rw [spell, if_pos rfl, hname]
      · dsimp only
        rw [spell_replaced, hdrop, List.append_assoc name]
        rfl
      all_goals (intros; contradiction)
    · rename_i cs' heq
      obtain ⟨rfl, rfl⟩ := List.cons.inj heq
      obtain ⟨rest, rfl, -, -⟩ := opensNamed_iff.mp hforeign
      refine .inl ⟨rest, rfl, ?_⟩
      rw [spell, if_neg (by decide), if_neg (by decide), if_pos (by simp [hforeign]),
        spell_replaced]
      · rfl
      all_goals (intros; contradiction)
    · cases hforeign

/-! ## Seams -/

/-- Ordinary characters at the beginning of the output were copied. -/
theorem eq_append_of_spell {w cs out : List Char} (hall : ∀ c ∈ w, IsOrdinary c)
    (h : spell .outside cs = w ++ out) : ∃ rest, cs = w ++ rest ∧ out = spell .outside rest := by
  induction w generalizing cs with
  | nil => exact ⟨cs, rfl, h.symm⟩
  | cons c w ih =>
    obtain ⟨hc, hw⟩ := List.forall_mem_cons.mp hall
    cases cs with
    | nil => simp [spell] at h
    | cons d cs =>
      obtain ⟨-, hcopied⟩ | ⟨rest, -, hgroup⟩ | ⟨name, rest, -, -, hreference⟩ := spell_cases d cs
      · rw [hcopied, List.cons_append, List.cons.injEq] at h
        obtain ⟨rfl, h⟩ := h
        rw [after_of_isOrdinary hc] at h
        obtain ⟨rest, rfl, hout⟩ := ih hw h
        exact ⟨rest, rfl, hout⟩
      -- What the machine puts in begins with a parenthesis, which is no ordinary character.
      · rw [hgroup] at h
        exact absurd (List.cons.inj h).1.symm hc.2.2.2
      · rw [hreference] at h
        exact absurd (List.cons.inj h).1.symm hc.2.2.2

/-- Spelling keeps an ordinary first character. -/
theorem head?_spell {c : Char} {cs : List Char} (hc : IsOrdinary c) (h : cs.head? = some c) :
    (spell .outside cs).head? = some c := by
  obtain ⟨rest, rfl⟩ := List.head?_eq_some_iff.mp h
  rw [spell_cons .outside (by simp) fun _ => startsForeign_of_isOrdinary hc rest]
  rfl

/-- A copied character begins nothing in the other spelling, unless it did so before. -/
theorem startsForeign_copied {c : Char} {cs : List Char} (h : startsForeign (c :: cs) = false) :
    startsForeign (c :: spell (Place.outside.after c) cs) = false := by
  rw [← Bool.not_eq_true] at h ⊢
  refine fun hforeign => h ?_
  clear h
  by_cases hescape : c = '\\'
  · subst hescape
    obtain ⟨name, hname⟩ := Option.isSome_iff_exists.mp hforeign
    obtain ⟨hne, hword, more, hmore⟩ := referenceName?_eq_some_iff.mp hname
    cases cs with
    | nil => simp [spell] at hmore
    | cons d cs =>
      -- The character after the backslash is copied, and the rest is read as any text.
      rw [spell_cons _ (after_ne_replaced _) (fun h => by cases h)] at hmore
      obtain ⟨rfl, hmore⟩ := List.cons.inj hmore
      have hw : ∀ c ∈ '<' :: (name ++ ['>']), IsOrdinary c :=
        List.forall_mem_cons.mpr ⟨by decide, isOrdinary_of_word (by decide) hword⟩
      have hcopied : spell .outside cs = '<' :: (name ++ ['>']) ++ more := by
        rw [List.cons_append, List.append_assoc]
        exact hmore
      obtain ⟨rest, rfl, -⟩ := eq_append_of_spell hw hcopied
      refine Option.isSome_iff_exists.mpr ⟨name, referenceName?_eq_some_iff.mpr ?_⟩
      exact ⟨hne, hword, rest, by simp⟩
  by_cases hgroup : c = '('
  · subst hgroup
    obtain ⟨more, hmore, hbehind, hnot⟩ := opensNamed_iff.mp hforeign
    obtain ⟨rest, rfl, rfl⟩ := eq_append_of_spell isOrdinary_opening hmore
    refine opensNamed_iff.mpr ⟨rest, rfl, ?_, ?_⟩
    · exact fun h => hbehind (head?_spell (by decide) h)
    · exact fun h => hnot (head?_spell (by decide) h)
  · simp [startsForeign, hescape, hgroup] at hforeign

/-! ## What comes out -/

/-- A normal text is copied as it is. -/
theorem spell_of_normalFrom (place : Place) (hplace : ∀ n, place ≠ .replaced n) {cs : List Char}
    (h : NormalFrom place cs) : spell place cs = cs := by
  induction cs generalizing place with
  | nil => rw [spell]
  | cons c cs ih =>
    obtain ⟨hfirst, hrest⟩ := normalFrom_cons.mp h
    rw [spell_cons place hplace hfirst, ih _ (after_ne_replaced c) hrest]

/-- What comes out is normal: a copied character begins nothing, and what was put in has nothing in
the other spelling and leaves the machine outside of escapes and classes. -/
theorem normalFrom_spell (place : Place) (hplace : ∀ n, place ≠ .replaced n) (cs : List Char) :
    NormalFrom place (spell place cs) := by
  induction hlength : cs.length using Nat.strongRecOn generalizing place cs with
  | ind n ih =>
    subst hlength
    cases cs with
    | nil => exact normalFrom_nil place
    | cons c cs =>
      have hcopied : NormalFrom (place.after c) (spell (place.after c) cs) :=
        ih cs.length (Nat.lt_succ_self _) _ (after_ne_replaced c) cs rfl
      by_cases hout : place = .outside
      · subst hout
        obtain ⟨hfirst, hspell⟩ | ⟨rest, hcs, hspell⟩ | ⟨name, rest, hcs, hword, hspell⟩ :=
          spell_cases c cs
        · rw [hspell, normalFrom_cons]
          exact ⟨fun _ => startsForeign_copied hfirst, hcopied⟩
        · have hshorter : rest.length < (c :: cs).length := by rw [hcs]; simp; omega
          have hrest := ih rest.length hshorter .outside hplace rest rfl
          rw [hspell]
          exact normalFrom_cons.mpr ⟨fun _ => rfl, hrest.append (isOrdinary_marker (by decide))⟩
        · have hshorter : rest.length < (c :: cs).length := by rw [hcs]; simp; omega
          have hrest := ih rest.length hshorter .outside hplace rest rfl
          rw [hspell]
          refine normalFrom_cons.mpr ⟨fun _ => rfl, ?_⟩
          exact (hrest.append (isOrdinary_of_word (by decide) hword)).append
            (isOrdinary_marker (by decide))
      · have hno : place = .outside → startsForeign (c :: cs) = false := fun h => absurd h hout
        rw [spell_cons place hplace hno, normalFrom_cons]
        exact ⟨fun h => absurd h hout, hcopied⟩

/-- To normalise a text twice is to normalise it once, and the texts that stay as they are are those
without a named group or a reference in the other spelling. -/
theorem normalise_normalise (fragment : String) :
    normalise (normalise fragment) = normalise fragment ∧
      (normalise fragment = fragment ↔ IsNormal fragment.toList) := by
  have hnormal : IsNormal (normalise fragment).toList := by
    rw [normalise, String.toList_ofList]
    exact normalFrom_spell .outside (by simp) _
  have hfixed : ∀ text : String, IsNormal text.toList → normalise text = text := by
    intro text htext
    rw [normalise, spell_of_normalFrom .outside (by simp) htext, String.ofList_toList]
  exact ⟨hfixed _ hnormal, fun h => h ▸ hnormal, hfixed fragment⟩

end Marginalia.Fragment
