import Marginalia.Style.Colour
import Mathlib.Data.List.TakeWhile

/-!
# Which texts are colours

`IsColour` is the grammar of colours.  A text is read as a colour if and only if it belongs to it, but
for case and the white space around it (`colour?_eq_some_iff`).

Reading fails, instead of finding no colour, in one place only: between the parentheses of three
components there may be digits and white space, and what stands between two commas need not be a
number.  It can be empty, or two numbers with white space between them, or have too many digits
(`exists_colour?_eq_error_iff`).
-/

namespace Marginalia.Text

/-! ## Numbers of digits and white space -/

/-- Runs of digits are the ranges of the boundary list, which are given by two boundaries each. -/
theorem isSome_digitValueIn {bounds : List Nat} (heven : bounds.length % 2 = 0) (c : Nat) :
    (digitValueIn bounds c).isSome = inBounds bounds c := by
  fun_induction digitValueIn bounds c with
  | case1 gap run bounds c hgap => simp [inBounds, hgap]
  | case2 gap run bounds c hgap hrun => simp [inBounds, hgap, hrun]
  | case3 gap run bounds c hgap hrun ih =>
    rw [ih (by simp only [List.length_cons] at heven; omega)]
    simp [inBounds, hgap, hrun]
  | case4 bounds c hbounds =>
    match bounds with
    | [] => rfl
    | [_] => simp at heven
    | gap :: run :: bounds => exact absurd rfl (hbounds gap run bounds)

/-- Digits are the characters with a value. -/
theorem isSome_digitValue? (c : Nat) : (digitValue? c).isSome = isDigit c :=
  isSome_digitValueIn (by decide +kernel) c

/-- The number with one more digit at its end. -/
def pushDigit (n : Nat) (d : Char) : Nat := n * 10 + (digitValue? d.toNat).getD 0

/-- The number that a row of digits writes. -/
def decimal (ds : List Char) : Nat := ds.foldl pushDigit 0

/-- Digits and white space, in any order. -/
def IsSpaced (cs : List Char) : Prop := ∀ c ∈ cs, isDigit c.toNat = true ∨ isBlank c.toNat = true

/-- A text that can be read as a number: digits, not too many, with white space around them. -/
structure IsNumeral (cs : List Char) : Prop where
  ne_nil : unpadded cs ≠ []
  digits : ∀ c ∈ unpadded cs, isDigit c.toNat = true
  length_le : (unpadded cs).length ≤ digitLimit

variable {cs ds : List Char}

/-- What is left without padding was there before. -/
theorem mem_of_mem_unpadded {c : Char} (h : c ∈ unpadded cs) : c ∈ cs := by
  have h := (List.dropWhile_sublist _).mem (List.mem_reverse.mp h)
  exact (List.dropWhile_sublist _).mem (List.mem_reverse.mp h)

/-- A numeral is made of digits and blanks. -/
theorem IsNumeral.isSpaced (h : IsNumeral cs) : IsSpaced cs := by
  intro c hc
  cases hblank : isBlank c.toNat with
  | true => exact .inr rfl
  | false => exact .inl (h.digits c (mem_trim hc (isPadding_eq_false hblank)))

/-- Other characters are not in such a text. -/
theorem IsSpaced.not_mem {c : Char} (h : IsSpaced cs)
    (hc : (isDigit c.toNat || isBlank c.toNat) = false) : c ∉ cs := by
  intro hmem
  rw [Bool.or_eq_false_iff] at hc
  obtain hdigit | hblank := h c hmem
  · exact Bool.noConfusion (hc.1.symm.trans hdigit)
  · exact Bool.noConfusion (hc.2.symm.trans hblank)

/-- There is no sign and no underscore, which other numbers may have. -/
theorem IsSpaced.not_mem_signs (h : IsSpaced cs) : ∀ c ∈ ['_', '+', '-'], c ∉ cs := by
  have hsigns : (['_', '+', '-'].all fun c => !(isDigit c.toNat || isBlank c.toNat)) = true := by
    decide +kernel
  intro c hc
  have hsign := List.all_eq_true.mp hsigns c hc
  rw [Bool.not_eq_true'] at hsign
  exact h.not_mem hsign

/-- Digits are read one after the other. -/
theorem readDigits_of_digits {n : Nat} (h : ∀ d ∈ ds, isDigit d.toNat = true) :
    readDigits n ds = some (ds.foldl pushDigit n) := by
  induction ds generalizing n with
  | nil => rfl
  | cons d ds ih =>
    obtain ⟨hd, hds⟩ := List.forall_mem_cons.mp h
    have hunderscore : d ≠ '_' := by
      rintro rfl
      exact absurd hd (by decide +kernel)
    obtain ⟨v, hv⟩ := Option.isSome_iff_exists.mp ((isSome_digitValue? d.toNat).trans hd)
    have hpush : pushDigit n d = n * 10 + v := by rw [pushDigit, hv, Option.getD_some]
    rw [readDigits, hv, List.foldl_cons, hpush]
    · exact ih hds
    · exact fun _ _ heq => absurd heq hunderscore

/-- A row of digits is read as a number. -/
theorem readNatural?_of_digits (hne : ds ≠ []) (h : ∀ d ∈ ds, isDigit d.toNat = true) :
    readNatural? ds = some (decimal ds) := by
  cases ds with
  | nil => exact absurd rfl hne
  | cons d ds =>
    obtain ⟨hd, hds⟩ := List.forall_mem_cons.mp h
    obtain ⟨v, hv⟩ := Option.isSome_iff_exists.mp ((isSome_digitValue? d.toNat).trans hd)
    have hpush : pushDigit 0 d = v := by simp [pushDigit, hv]
    rw [readNatural?, hv, decimal, List.foldl_cons, hpush]
    exact readDigits_of_digits hds

/-- Digits and white space are read without a sign. -/
theorem IsSpaced.readInteger?_eq (h : IsSpaced cs) :
    readInteger? cs = (readNatural? (unpadded cs)).map Int.ofNat := by
  have hsign {c : Char} (hc : c ∈ ['_', '+', '-']) (ds : List Char) : unpadded cs ≠ c :: ds := by
    intro heq
    refine h.not_mem_signs c hc (mem_of_mem_unpadded ?_)
    rw [heq]
    exact List.mem_cons_self
  unfold readInteger?
  split
  · rename_i ds heq
    exact absurd heq (hsign (by decide) ds)
  · rename_i ds heq
    exact absurd heq (hsign (by decide) ds)
  · rfl

/-- If digits and white space are a number, the white space is at the ends. -/
theorem IsSpaced.digits_of_readInteger? (h : IsSpaced cs) {n : Int}
    (hn : readInteger? cs = some n) :
    unpadded cs ≠ [] ∧ ∀ c ∈ unpadded cs, isDigit c.toNat = true := by
  rw [h.readInteger?_eq] at hn
  obtain ⟨m, hm, -⟩ := Option.map_eq_some_iff.mp hn
  constructor
  · intro hnil
    rw [hnil] at hm
    cases hm
  · intro c hc
    by_contra hdigit
    have hnone : digitValue? c.toNat = none := by
      rw [← Option.not_isSome_iff_eq_none, isSome_digitValue?]
      exact hdigit
    have hsign : c ∉ ['_', '+', '-'] := fun hsign => h.not_mem_signs c hsign (mem_of_mem_unpadded hc)
    exact not_mem_of_readNatural? hnone hsign hm hc

end Marginalia.Text

namespace Marginalia.Style

open Text (IsNumeral IsSpaced decimal unpadded)

variable {cs ds : List Char}

/-! ## Components -/

/-- A numeral is read as a component. -/
theorem component_of_isNumeral (h : IsNumeral cs) :
    component cs = .ok (Int.ofNat (decimal (unpadded cs))) := by
  have hread : Text.readInteger? cs = some (Int.ofNat (decimal (unpadded cs))) := by
    rw [h.isSpaced.readInteger?_eq, Text.readNatural?_of_digits h.ne_nil h.digits, Option.map_some]
  unfold component
  dsimp only
  rw [List.takeWhile_eq_self_iff.mpr h.digits, if_neg (Nat.not_lt.mpr h.length_le), hread]

/-- What is read as a component is a numeral. -/
theorem isNumeral_of_component {n : Int} (hs : IsSpaced cs) (h : component cs = .ok n) :
    IsNumeral cs := by
  unfold component at h
  dsimp only at h
  split at h
  · cases h
  rename_i hlimit
  split at h
  · rename_i m hm
    obtain ⟨hne, hdigits⟩ := hs.digits_of_readInteger? hm
    -- It is all digits, so that all of it was counted.
    rw [List.takeWhile_eq_self_iff.mpr hdigits] at hlimit
    exact ⟨hne, hdigits, Nat.not_lt.mp hlimit⟩
  · cases h

/-! ## The notations -/

/-- Three components as they stand in a colour. -/
def mixture (red green blue : List Char) : List Char :=
  componentLead ++ [','].intercalate [red, green, blue] ++ [')']

/-- A component that a colour may have. -/
structure IsComponent (cs : List Char) : Prop extends IsNumeral cs where
  le_limit : decimal (unpadded cs) ≤ colourLimit

/-- The notations of a colour that cannot fail, in lower case. -/
inductive IsPlainColour : List Char → Prop
  | named {cs : List Char} (hname : String.ofList cs ∈ colourNames) : IsPlainColour cs
  | hexadecimal {ds : List Char} (hlength : ds.length = 6)
      (hdigits : ∀ d ∈ ds, Text.isHexDigit d = true) : IsPlainColour ('#' :: ds)
  | numbered {ds : List Char} (hlength : 1 ≤ ds.length ∧ ds.length ≤ 3)
      (hdigits : ∀ d ∈ ds, Text.isAsciiDigit d.toNat = true)
      (hlimit : Text.numeral 10 ds ≤ colourLimit) : IsPlainColour (numberLead ++ ds ++ [')'])

/-- The notations of a colour, in lower case. -/
inductive IsColour : List Char → Prop
  | plain {cs : List Char} (h : IsPlainColour cs) : IsColour cs
  | mixed {red green blue : List Char} (hred : IsComponent red) (hgreen : IsComponent green)
      (hblue : IsComponent blue) : IsColour (mixture red green blue)

/-- Three components of digits and white space, of which one is no number. -/
def IsUnreadable (cs : List Char) : Prop :=
  ∃ red green blue, cs = mixture red green blue ∧
    (∀ part ∈ [red, green, blue], IsSpaced part) ∧ ∃ part ∈ [red, green, blue], ¬ IsNumeral part

/-- What is inside stands between the lead and the closing parenthesis. -/
theorem inside?_eq_some_iff {lead : List Char} (hlead : lead.getLast? ≠ some ')') :
    inside? lead cs = some ds ↔ cs = lead ++ ds ++ [')'] := by
  unfold inside?
  constructor
  · intro h
    split at h
    · rename_i hcond
      rw [Bool.and_eq_true, List.isPrefixOf_iff_prefix, beq_iff_eq] at hcond
      obtain ⟨⟨rest, rfl⟩, hlast⟩ := hcond
      cases h
      rw [List.getLast?_append] at hlast
      cases hrest : rest.getLast? with
      | none => exact absurd (by rwa [hrest, Option.none_or] at hlast) hlead
      | some c =>
        rw [hrest, Option.some_or, Option.some_inj] at hlast
        obtain ⟨ds, rfl⟩ := List.getLast?_eq_some_iff.mp (hlast ▸ hrest)
        rw [List.drop_left, List.dropLast_concat, List.append_assoc]
    · cases h
  · rintro rfl
    rw [if_pos, List.append_assoc, List.drop_left, List.dropLast_concat]
    rw [Bool.and_eq_true, List.isPrefixOf_iff_prefix, beq_iff_eq]
    exact ⟨⟨ds ++ [')'], (List.append_assoc ..).symm⟩, List.getLast?_concat⟩

/-- A plain colour by its grammar. -/
theorem isPlainColour_iff : isPlainColour cs = true ↔ IsPlainColour cs := by
  rw [isPlainColour, Bool.or_eq_true, Bool.or_eq_true, List.contains_iff_mem]
  constructor
  · rintro ((hname | hhexadecimal) | hnumbered)
    · exact .named hname
    · unfold isHexColour at hhexadecimal
      split at hhexadecimal
      · rw [Bool.and_eq_true, beq_iff_eq, List.all_eq_true] at hhexadecimal
        exact .hexadecimal hhexadecimal.1 hhexadecimal.2
      · cases hhexadecimal
    · unfold isNumberedColour at hnumbered
      split at hnumbered
      · rename_i ds hds
        rw [inside?_eq_some_iff (by decide)] at hds
        simp only [Bool.and_eq_true, decide_eq_true_eq, List.all_eq_true] at hnumbered
        obtain ⟨⟨hlength, hdigits⟩, hlimit⟩ := hnumbered
        rw [hds]
        exact .numbered hlength hdigits hlimit
      · cases hnumbered
  · rintro (hname | ⟨hlength, hdigits⟩ | ⟨hlength, hdigits, hlimit⟩)
    · exact .inl (.inl hname)
    · exact .inl (.inr (by simpa [isHexColour, hlength] using hdigits))
    · refine .inr ?_
      rw [isNumberedColour, (inside?_eq_some_iff (by decide)).mpr rfl]
      simpa [hlength, hlimit] using hdigits

/-! ## Three components -/

/-- A part has characters of the text but no separator. -/
theorem mem_splitOn {α : Type} [BEq α] [LawfulBEq α] {a : α} {xs part : List α}
    (h : part ∈ xs.splitOn a) : ∀ x ∈ part, x ∈ xs ∧ x ≠ a := by
  induction xs generalizing part with
  | nil =>
    rw [List.splitOn_nil, List.mem_singleton] at h
    rw [h]
    exact fun x hx => absurd hx List.not_mem_nil
  | cons y ys ih =>
    have hlater {part : List α} (h : part ∈ ys.splitOn a) : ∀ x ∈ part, x ∈ y :: ys ∧ x ≠ a :=
      fun x hx => (ih h x hx).imp_left (List.mem_cons_of_mem y)
    rw [List.splitOn_cons_eq_if_modifyHead] at h
    split at h
    · obtain rfl | h := List.mem_cons.mp h
      · exact fun x hx => absurd hx List.not_mem_nil
      · exact hlater h
    · rename_i hy
      cases hparts : ys.splitOn a with
      | nil => exact absurd hparts (List.splitOn_ne_nil a ys)
      | cons first parts =>
        rw [hparts, List.modifyHead_cons] at h
        rw [hparts] at hlater
        obtain rfl | h := List.mem_cons.mp h
        · refine List.forall_mem_cons.mpr ⟨⟨List.mem_cons_self, ?_⟩, hlater List.mem_cons_self⟩
          exact fun heq => hy (beq_iff_eq.mpr heq)
        · exact hlater (List.mem_cons_of_mem _ h)

section

variable {red green blue : List Char}

/-- Digits and blanks may stand in a component. -/
theorem isComponentChar_of_isSpaced (h : IsSpaced cs) : ∀ c ∈ cs, isComponentChar c = true := by
  intro c hc
  rw [isComponentChar, Bool.or_eq_true, Bool.or_eq_true]
  exact .inl (h c hc)

/-- A mixture is judged by its three components. -/
theorem isMixedColour_mixture (h : ∀ part ∈ [red, green, blue], IsSpaced part) :
    isMixedColour (mixture red green blue) = mixes red green blue := by
  have hlead : componentLead.getLast? ≠ some ')' := by decide
  have hinside : inside? componentLead (mixture red green blue) =
      some ([','].intercalate [red, green, blue]) := (inside?_eq_some_iff hlead).mpr rfl
  have hne : ([','].intercalate [red, green, blue]).isEmpty = false := by
    simp [List.isEmpty_eq_false_iff]
  have hchars : ([','].intercalate [red, green, blue]).all isComponentChar = true := by
    have hpart {part : List Char} (hpart : part ∈ [red, green, blue]) :
        part.all isComponentChar = true :=
      List.all_eq_true.mpr (isComponentChar_of_isSpaced (h part hpart))
    have hcomma : isComponentChar ',' = true := by decide +kernel
    simp [-List.all_eq_true, hcomma, hpart]
  have hsplit : ([','].intercalate [red, green, blue]).splitOn ',' = [red, green, blue] :=
    List.splitOn_intercalate ',' (fun part hpart => (h part hpart).not_mem (by decide +kernel))
      (List.cons_ne_nil _ _)
  unfold isMixedColour
  rw [hinside]
  dsimp only
  rw [hne, hchars, hsplit]
  rfl

/-- Without the form of three components there is no colour, and no error. -/
theorem isMixedColour_cases (cs : List Char) :
    (∃ red green blue, cs = mixture red green blue ∧
      ∀ part ∈ [red, green, blue], IsSpaced part) ∨ isMixedColour cs = .ok false := by
  unfold isMixedColour
  split
  · rename_i ds hds
    rw [inside?_eq_some_iff (by decide)] at hds
    split
    · exact .inr rfl
    rename_i hchars
    split
    · rename_i red green blue hsplit
      -- The parts with the commas between them are the text again, and have no comma of their own.
      refine .inl ⟨red, green, blue, ?_, fun part hpart c hc => ?_⟩
      · rw [hds, mixture, ← hsplit, List.intercalate_splitOn]
      · obtain ⟨hmem, hcomma⟩ := mem_splitOn (hsplit ▸ hpart) c hc
        have hchar : isComponentChar c = true := by
          rw [Bool.or_eq_true, not_or, Bool.not_eq_true', Bool.not_eq_false] at hchars
          exact List.all_eq_true.mp hchars.2 c hmem
        rw [isComponentChar, Bool.or_eq_true, Bool.or_eq_true, beq_iff_eq] at hchar
        exact hchar.resolve_right hcomma
    · exact .inr rfl
  · exact .inr rfl

/-- A component is a numeral or cannot be read. -/
theorem component_cases (h : IsSpaced cs) :
    (IsNumeral cs ∧ component cs = .ok (Int.ofNat (decimal (unpadded cs)))) ∨
      ¬ IsNumeral cs ∧ ∃ e, component cs = .error e := by
  by_cases hn : IsNumeral cs
  · exact .inl ⟨hn, component_of_isNumeral hn⟩
  · refine .inr ⟨hn, ?_⟩
    cases hc : component cs with
    | ok n => exact absurd (isNumeral_of_component h hc) hn
    | error e => exact ⟨e, rfl⟩

/-- Three numerals are compared with the limit, and anything else cannot be read. -/
theorem mixes_cases (h : ∀ part ∈ [red, green, blue], IsSpaced part) :
    ((∀ part ∈ [red, green, blue], IsNumeral part) ∧
      mixes red green blue =
        .ok (decide (∀ part ∈ [red, green, blue], decimal (unpadded part) ≤ colourLimit))) ∨
    (∃ part ∈ [red, green, blue], ¬ IsNumeral part) ∧ ∃ e, mixes red green blue = .error e := by
  simp only [List.forall_mem_cons] at h
  obtain ⟨hred, hgreen, hblue, -⟩ := h
  unfold mixes
  -- The components are read in their order, and the first that is no number decides.
  obtain ⟨hr, er⟩ | ⟨hr, e, er⟩ := component_cases hred
  · obtain ⟨hg, eg⟩ | ⟨hg, e, eg⟩ := component_cases hgreen
    · obtain ⟨hb, eb⟩ | ⟨hb, e, eb⟩ := component_cases hblue
      · rw [er, eg, eb]
        refine .inl ⟨by simp [hr, hg, hb], congrArg Except.ok ?_⟩
        simp [Bool.and_assoc]
      · rw [er, eg, eb]
        exact .inr ⟨⟨blue, by simp, hb⟩, e, rfl⟩
    · rw [er, eg]
      exact .inr ⟨⟨green, by simp, hg⟩, e, rfl⟩
  · rw [er]
    exact .inr ⟨⟨red, by simp, hr⟩, e, rfl⟩

end

/-! ## All notations -/

/-- No name has a parenthesis, and the other two notations begin with another character. -/
theorem isPlainColour_mixture (red green blue : List Char) :
    isPlainColour (mixture red green blue) = false := by
  have hnames : ∀ name ∈ colourNames, '(' ∉ name.toList := by decide +kernel
  refine eq_false_of_ne_true fun h => ?_
  -- A number sign or the lead of a number is not the lead of components, so that a name is left.
  cases isPlainColour_iff.mp h with
  | named hname =>
    refine hnames _ hname ?_
    rw [String.toList_ofList]
    exact List.mem_append_left _ (List.mem_append_left _ (by decide))

/-- A mixture is a colour if its components mix. -/
theorem isColour_mixture {red green blue : List Char}
    (h : ∀ part ∈ [red, green, blue], IsSpaced part) :
    isColour (mixture red green blue) = mixes red green blue := by
  rw [isColour, isPlainColour_mixture, isMixedColour_mixture h]
  rfl

/-- What the grammar calls a colour is one. -/
theorem isColour_of_grammar (h : IsColour cs) : isColour cs = .ok true := by
  cases h with
  | plain h => exact if_pos (isPlainColour_iff.mpr h)
  | @mixed red green blue hred hgreen hblue =>
    have hparts : ∀ part ∈ [red, green, blue], IsComponent part := by simp [hred, hgreen, hblue]
    have hspaced := fun part hpart => (hparts part hpart).isSpaced
    rw [isColour_mixture hspaced]
    obtain ⟨-, h⟩ | ⟨⟨part, hpart, hn⟩, -⟩ := mixes_cases hspaced
    · rwa [decide_eq_true fun part hpart => (hparts part hpart).le_limit] at h
    · exact absurd (hparts part hpart).toIsNumeral hn

/-- A mixture that cannot be read is an error. -/
theorem isColour_of_isUnreadable (h : IsUnreadable cs) : ∃ e, isColour cs = .error e := by
  obtain ⟨red, green, blue, rfl, hspaced, part, hpart, hn⟩ := h
  rw [isColour_mixture hspaced]
  obtain ⟨hall, -⟩ | ⟨-, h⟩ := mixes_cases hspaced
  · exact absurd (hall part hpart) hn
  · exact h

/-- Every text is a colour, unreadable or not a colour. -/
theorem isColour_cases (cs : List Char) :
    IsColour cs ∨ IsUnreadable cs ∨ isColour cs = .ok false := by
  cases hplain : isPlainColour cs with
  | true => exact .inl (.plain (isPlainColour_iff.mp hplain))
  | false =>
    obtain ⟨red, green, blue, rfl, hspaced⟩ | hnone := isMixedColour_cases cs
    · rw [isColour_mixture hspaced]
      obtain ⟨hall, h⟩ | ⟨hn, -⟩ := mixes_cases hspaced
      · by_cases hlimit : ∀ part ∈ [red, green, blue], decimal (unpadded part) ≤ colourLimit
        · have hpart {part} (hpart : part ∈ [red, green, blue]) : IsComponent part :=
            ⟨hall part hpart, hlimit part hpart⟩
          exact .inl (.mixed (hpart (by simp)) (hpart (by simp)) (hpart (by simp)))
        · rw [decide_eq_false hlimit] at h
          exact .inr (.inr h)
      · exact .inr (.inl ⟨red, green, blue, rfl, hspaced, hn⟩)
    · rw [isColour, hplain]
      exact .inr (.inr hnone)

/-- The colours are those of the grammar. -/
theorem isColour_eq_true_iff : isColour cs = .ok true ↔ IsColour cs := by
  refine ⟨fun h => ?_, isColour_of_grammar⟩
  obtain hcolour | hunreadable | hfalse := isColour_cases cs
  · exact hcolour
  · obtain ⟨e, he⟩ := isColour_of_isUnreadable hunreadable
    cases h.symm.trans he
  · cases h.symm.trans hfalse

/-- The errors are the unreadable mixtures. -/
theorem exists_isColour_eq_error_iff : (∃ e, isColour cs = .error e) ↔ IsUnreadable cs := by
  refine ⟨fun ⟨e, he⟩ => ?_, isColour_of_isUnreadable⟩
  obtain hcolour | hunreadable | hfalse := isColour_cases cs
  · cases he.symm.trans (isColour_of_grammar hcolour)
  · exact hunreadable
  · cases he.symm.trans hfalse

/-- A text is read as a colour if it is one, and then the colour has its name. -/
theorem colour?_eq_some_iff {s name : String} :
    colour? s = .ok (some name) ↔ IsColour (bare s) ∧ name = String.ofList (bare s) := by
  rw [← isColour_eq_true_iff, colour?]
  match isColour (bare s) with
  | .ok true =>
    constructor
    · intro h
      cases h
      exact ⟨rfl, rfl⟩
    · rintro ⟨-, rfl⟩
      rfl
  | .ok false | .error _ =>
    constructor
    · intro h
      cases h
    · rintro ⟨h, -⟩
      cases h

/-- Reading a text fails if it is three components of which one is no number. -/
theorem exists_colour?_eq_error_iff {s : String} :
    (∃ e, colour? s = .error e) ↔ IsUnreadable (bare s) := by
  rw [← exists_isColour_eq_error_iff, colour?]
  match isColour (bare s) with
  | .error e => exact ⟨fun _ => ⟨e, rfl⟩, fun _ => ⟨e, rfl⟩⟩
  | .ok b =>
    constructor
    all_goals
      rintro ⟨e, he⟩
      cases he

end Marginalia.Style
