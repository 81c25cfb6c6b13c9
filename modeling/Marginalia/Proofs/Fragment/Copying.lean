import Marginalia.Fragment
import Marginalia.Proofs.Pattern.Reader.Numbering

/-!
# What the spelling of fragments copies

The machine that changes the spelling of named groups (`Fragment.spell`) and the reader of patterns
walk over the same text, and each has its own idea of where an escape or a class ends.  Here the two
are held together: for every small reader, if it succeeds and the machine copies what is left, then
the machine copies also what the reader took.  What the machine does with a character that it copies
is said once (`Fragment.spell_cons`).

Most readers take only characters that mean nothing to the machine (`Reader.Takes`): names, numbers,
bounds and flags, and what follows the letter of an escape.  An escape itself is copied because none
is spelled `\k` (`Reader.escape_takes`).
-/

namespace Marginalia.Fragment

/-! ## Steps of the machine -/

/-- Where the machine is after a character that it copies. -/
def Place.after : Place → Char → Place
  | .escaped within, _ => if within then .inClass else .outside
  | .classOpened, c =>
    if c = '^' then .classNegated else if c = '\\' then .escaped true else .inClass
  | .classNegated, c => if c = '\\' then .escaped true else .inClass
  | .inClass, c => if c = '\\' then .escaped true else if c = ']' then .outside else .inClass
  | _, c => if c = '\\' then .escaped false else if c = '[' then .classOpened else .outside

/-- Does the text begin with a named group or a reference in the other spelling? -/
def startsForeign : List Char → Bool
  | '\\' :: cs => (referenceName? cs).isSome
  | '(' :: cs => opensNamed cs
  | _ => false

/-- After a character that was copied nothing is left to be dropped. -/
theorem after_ne_replaced {place : Place} (c : Char) (n : Nat) : place.after c ≠ .replaced n := by
  intro h
  unfold Place.after at h
  repeat' split at h
  all_goals cases h

/-- A character that begins nothing in the other spelling is copied. -/
theorem spell_cons (place : Place) (hplace : ∀ n, place ≠ .replaced n) {c : Char} {cs : List Char}
    (h : place = .outside → startsForeign (c :: cs) = false) :
    spell place (c :: cs) = c :: spell (place.after c) cs := by
  cases place with
  | replaced n => exact absurd rfl (hplace n)
  | escaped within => rw [spell, Place.after]
  | classOpened =>
    rw [spell, Place.after]
    split
    · rfl
    · split <;> rfl
  | classNegated =>
    rw [spell, Place.after]
    split <;> rfl
  | inClass =>
    rw [spell, Place.after]
    split
    · rfl
    · split <;> rfl
  | outside =>
    have hforeign := h rfl
    simp only [spell, Place.after]
    by_cases hescape : c = '\\'
    · subst hescape
      have hnone : referenceName? cs = none := by simpa [startsForeign] using hforeign
      simp [hnone]
    · have hgroup : ¬(c = '(' ∧ opensNamed cs = true) := by
        rintro ⟨rfl, hopens⟩
        rw [startsForeign, hopens] at hforeign
        cases hforeign
      simp only [if_neg hescape, Bool.and_eq_true, decide_eq_true_eq, if_neg hgroup]
      split <;> rfl

end Marginalia.Fragment

namespace Marginalia.Pattern

open Fragment (Place spell spell_cons startsForeign opensNamed referenceName?)

/-! ## Tokens as text -/

/-- The characters of the tokens. -/
def textOf (ts : List Token) : List Char := ts.flatMap Token.text

@[simp] theorem textOf_nil : textOf [] = [] := rfl

@[simp] theorem textOf_cons (t : Token) (ts : List Token) :
    textOf (t :: ts) = t.text ++ textOf ts := rfl

@[simp] theorem textOf_append (ts us : List Token) : textOf (ts ++ us) = textOf ts ++ textOf us :=
  List.flatMap_append

/-- The tokens of a text hold all of it, unless a backslash at its end escapes nothing. -/
theorem textOf_tokens {cs : List Char} (h : endsDangling cs = false) (p : Nat) :
    textOf (tokens p cs) = cs := by
  fun_induction tokens p cs with
  | case1 => rfl
  | case2 => simp [endsDangling] at h
  | case3 p c cs ih =>
    rw [textOf_cons, ih (by simpa [endsDangling] using h)]
    rfl
  | case4 p c cs hlast hescape ih =>
    have hc : c ≠ '\\' := by
      rintro rfl
      cases cs with
      | nil => exact hlast rfl rfl
      | cons d ds => exact hescape d ds rfl rfl
    rw [textOf_cons, ih (by simpa [endsDangling, hc] using h)]
    rfl

/-- A backslash is always part of the token of what it escapes. -/
def Token.IsProper (t : Token) : Prop := t.escaped = false → t.char ≠ '\\'

/-- Texts are cut into proper tokens. -/
theorem isProper_of_mem_tokens {p : Nat} {cs : List Char} : ∀ t ∈ tokens p cs, t.IsProper := by
  fun_induction tokens p cs with
  | case1 | case2 => exact fun t ht => absurd ht List.not_mem_nil
  | case3 p c cs ih => exact List.forall_mem_cons.mpr ⟨nofun, ih⟩
  | case4 p c cs hlast hescape ih =>
    refine List.forall_mem_cons.mpr ⟨fun _ hc => ?_, ih⟩
    subst hc
    cases cs with
    | nil => exact hlast rfl rfl
    | cons d ds => exact hescape d ds rfl rfl

/-- A token is a character if it stands for itself. -/
theorem Token.is_iff {t : Token} {c : Char} : t.is c = true ↔ t.escaped = false ∧ t.char = c := by
  rw [Token.is, Bool.and_eq_true, Bool.not_eq_true', beq_iff_eq]

/-- Such a token is that character. -/
theorem Token.text_of_is {t : Token} {c : Char} (h : t.is c = true) : t.text = [c] := by
  obtain ⟨hescaped, hchar⟩ := Token.is_iff.mp h
  simp [Token.text, hescaped, hchar]

/-- A token that escapes nothing is one character. -/
theorem Token.text_of_plain {t : Token} (h : t.escaped = false) : t.text = [t.char] := by
  simp [Token.text, h]

/-- A token that escapes a character has a backslash in front of it. -/
theorem Token.text_of_escaped {t : Token} (h : t.escaped = true) : t.text = ['\\', t.char] := by
  simp [Token.text, h]

/-! ## Tokens that the machine copies -/

/-- From the given place on, the machine copies the tokens as they are. -/
def Copied (place : Place) (ts : List Token) : Prop := spell place (textOf ts) = textOf ts

/-- The characters that mean nothing to the machine, inside and outside of classes. -/
def IsOrdinary (c : Char) : Prop := c ≠ '\\' ∧ c ≠ '[' ∧ c ≠ ']' ∧ c ≠ '('

instance (c : Char) : Decidable (IsOrdinary c) := inferInstanceAs (Decidable (_ ∧ _ ∧ _ ∧ _))

/-- Such a character as a token. -/
def Token.IsOrdinary (t : Token) : Prop := t.escaped = false ∧ Pattern.IsOrdinary t.char

/-- The characters of a kind mean nothing to the machine. -/
theorem isOrdinary_of_kind {kind : Char → Bool} {c : Char} (hc : kind c = true)
    (h : kind '\\' = false ∧ kind '[' = false ∧ kind ']' = false ∧ kind '(' = false) :
    IsOrdinary c := by
  refine ⟨?_, ?_, ?_, ?_⟩ <;> rintro rfl <;> simp_all

/-- Characters of a text without the four special ones are ordinary. -/
theorem isOrdinary_of_not_mem {cs : List Char} (h₁ : '\\' ∉ cs) (h₂ : '[' ∉ cs) (h₃ : ']' ∉ cs)
    (h₄ : '(' ∉ cs) : ∀ c ∈ cs, IsOrdinary c := by
  intro c hc
  refine ⟨?_, ?_, ?_, ?_⟩ <;> rintro rfl <;> contradiction

section

variable {t : Token} {ts : List Token}

theorem copied_nil (place : Place) : Copied place [] := by
  unfold Copied
  rw [textOf_nil, spell]

/-- A single character is copied, unless something in the other spelling begins with it. -/
theorem Copied.single {place : Place} (h : Copied (place.after t.char) ts)
    (ht : t.escaped = false) (hplace : ∀ n, place ≠ .replaced n)
    (hforeign : place = .outside → startsForeign (t.char :: textOf ts) = false) :
    Copied place (t :: ts) := by
  unfold Copied at h ⊢
  rw [textOf_cons, Token.text_of_plain ht, List.singleton_append, spell_cons place hplace hforeign,
    h]

/-- So is a character with a backslash in front of it. -/
theorem Copied.pair {place : Place} (within : Bool) (ht : t.escaped = true)
    (h : Copied (if within then .inClass else .outside) ts)
    (hplace : ∀ n, place ≠ .replaced n) (hafter : place.after '\\' = .escaped within)
    (hforeign : place = .outside → startsForeign ('\\' :: t.char :: textOf ts) = false) :
    Copied place (t :: ts) := by
  unfold Copied at h ⊢
  rw [textOf_cons, Token.text_of_escaped ht, List.cons_append, List.singleton_append,
    spell_cons place hplace hforeign, hafter, spell_cons _ (by simp) (by simp), Place.after, h]

/-- Outside of classes a single character is copied, unless it opens something. -/
theorem Copied.plain (h : Copied .outside ts) (ht : t.escaped = false) (hescape : t.char ≠ '\\')
    (hclass : t.char ≠ '[') (hgroup : t.char = '(' → opensNamed (textOf ts) = false) :
    Copied .outside (t :: ts) := by
  refine Copied.single ?_ ht (by simp) fun _ => ?_
  · rwa [Place.after, if_neg hescape, if_neg hclass]
    all_goals simp
  · by_cases hc : t.char = '('
    · rw [hc, startsForeign]
      exact hgroup hc
    · simp [startsForeign, hescape, hc]

/-- A bracket outside of classes opens one. -/
theorem Copied.bracket (h : Copied .classOpened ts) (ht : t.is '[' = true) :
    Copied .outside (t :: ts) := by
  obtain ⟨hescaped, hchar⟩ := Token.is_iff.mp ht
  refine Copied.single ?_ hescaped (by simp) fun _ => ?_
  · rwa [hchar]
  · rw [hchar]
    rfl

/-- An escape is copied, unless it is the letter of a reference. -/
theorem Copied.escape (h : Copied .outside ts) (ht : t.escaped = true) (hk : t.char ≠ 'k') :
    Copied .outside (t :: ts) := by
  refine Copied.pair false ht h (by simp) rfl fun _ => ?_
  rw [startsForeign, Option.isSome_eq_false_iff, Option.isNone_iff_eq_none]
  unfold referenceName?
  split
  · rename_i heq
    exact absurd (List.cons.inj heq).1 hk
  · rfl

/-- Inside a class everything is copied, and only a bracket leaves it. -/
theorem Copied.member (h : Copied .inClass ts) (hproper : t.IsProper) (ht : t.is ']' = false) :
    Copied .inClass (t :: ts) := by
  cases hescaped : t.escaped with
  | true => exact Copied.pair true hescaped h (by simp) rfl (by simp)
  | false =>
    have hbracket : t.char ≠ ']' := by simpa [Token.is, hescaped] using ht
    refine Copied.single ?_ hescaped (by simp) (by simp)
    rwa [Place.after, if_neg (hproper hescaped), if_neg hbracket]

/-- A bracket inside a class ends it. -/
theorem Copied.endOfClass (h : Copied .outside ts) (ht : t.is ']' = true) :
    Copied .inClass (t :: ts) := by
  obtain ⟨hescaped, hchar⟩ := Token.is_iff.mp ht
  refine Copied.single ?_ hescaped (by simp) (by simp)
  rwa [hchar]

/-- A caret at the start of a class negates it. -/
theorem Copied.caret (h : Copied .classNegated ts) (ht : t.is '^' = true) :
    Copied .classOpened (t :: ts) := by
  obtain ⟨hescaped, hchar⟩ := Token.is_iff.mp ht
  refine Copied.single ?_ hescaped (by simp) (by simp)
  rwa [hchar]

/-- The first member of a class is copied, also if it is a closing bracket. -/
theorem Copied.firstMember (h : Copied .inClass ts) (hproper : t.IsProper) {place : Place}
    (hplace : place = .classNegated ∨ place = .classOpened ∧ t.is '^' = false) :
    Copied place (t :: ts) := by
  have hne : ∀ n, place ≠ .replaced n := by
    rcases hplace with rfl | ⟨rfl, -⟩ <;> simp
  have hout : place ≠ .outside := by
    rcases hplace with rfl | ⟨rfl, -⟩ <;> simp
  cases hescaped : t.escaped with
  | true =>
    refine Copied.pair true hescaped h hne ?_ fun h => absurd h hout
    rcases hplace with rfl | ⟨rfl, -⟩ <;> rfl
  | false =>
    refine Copied.single ?_ hescaped hne fun h => absurd h hout
    rcases hplace with rfl | ⟨rfl, hcaret⟩
    · rwa [Place.after, if_neg (hproper hescaped)]
    · have hcaret : t.char ≠ '^' := by simpa [Token.is, hescaped] using hcaret
      rwa [Place.after, if_neg hcaret, if_neg (hproper hescaped)]

/-- An ordinary token is copied, and the place stays. -/
theorem Copied.ordinary {place : Place} (h : Copied place ts) (ht : t.IsOrdinary)
    (hplace : place = .outside ∨ place = .inClass) : Copied place (t :: ts) := by
  obtain ⟨hescaped, hescape, hopen, hclose, hgroup⟩ := ht
  rcases hplace with rfl | rfl
  · exact h.plain hescaped hescape hopen fun hc => absurd hc hgroup
  · exact h.member (fun _ => hescape) (by simp [Token.is, hclose])

end

namespace Reader

/-! ## Readers that take ordinary characters only -/

/-- The second reader is further on in the text, and no global flag was lost. -/
structure Onward (r r' : Reader) : Prop where
  rest : r'.rest <:+ r.rest
  globals : ∀ c ∈ r.globals, c ∈ r'.globals

theorem Onward.refl (r : Reader) : r.Onward r := ⟨List.suffix_rfl, fun _ => id⟩

/-- Going on twice is going on. -/
theorem Onward.trans {r r' r'' : Reader} (h : r.Onward r') (h' : r'.Onward r'') : r.Onward r'' :=
  ⟨h'.rest.trans h.rest, fun c hc => h'.globals c (h.globals c hc)⟩

/-- The second reader is further on, and what was taken means nothing to the machine. -/
structure Takes (r r' : Reader) : Prop extends Onward r r' where
  ordinary : ∃ ts, r.rest = ts ++ r'.rest ∧ ∀ t ∈ ts, t.IsOrdinary

namespace Takes

variable {r r' r'' : Reader}

/-- Nothing was taken. -/
theorem of_eq (hrest : r'.rest = r.rest) (hglobals : r'.globals = r.globals) : r.Takes r' :=
  ⟨⟨hrest ▸ List.suffix_rfl, fun _ hc => hglobals ▸ hc⟩, [], hrest.symm, nofun⟩

theorem refl (r : Reader) : r.Takes r := of_eq rfl rfl

/-- Taking twice is taking. -/
theorem trans (h : r.Takes r') (h' : r'.Takes r'') : r.Takes r'' := by
  obtain ⟨ts, hts, hall⟩ := h.ordinary
  obtain ⟨us, hus, hall'⟩ := h'.ordinary
  refine ⟨h.toOnward.trans h'.toOnward, ts ++ us, ?_, List.forall_mem_append.mpr ⟨hall, hall'⟩⟩
  rw [hts, hus, List.append_assoc]

/-- Both readers of a step over one token. -/
theorem cons {t : Token} {ts : List Token} (hr : r.rest = t :: ts) (ht : t.IsOrdinary)
    (h : r.advance = .ok r') : r.Takes r' := by
  rw [advance_of_cons hr h]
  exact ⟨⟨hr ▸ List.suffix_cons t ts, fun _ => id⟩, [t], hr, List.forall_mem_singleton.mpr ht⟩

/-- Ordinary tokens are copied along with what follows them. -/
theorem copied (h : r.Takes r') {place : Place} (hplace : place = .outside ∨ place = .inClass)
    (h' : Copied place r'.rest) : Copied place r.rest := by
  obtain ⟨ts, hts, hall⟩ := h.ordinary
  rw [hts]
  clear hts
  induction ts with
  | nil => exact h'
  | cons t ts ih =>
    obtain ⟨ht, hall⟩ := List.forall_mem_cons.mp hall
    exact (ih hall).ordinary ht hplace

end Takes

/-- To advance is to go on. -/
theorem onward_of_advance {r r' : Reader} {t : Token} {ts : List Token} (hr : r.rest = t :: ts)
    (h : r.advance = .ok r') : r.Onward r' := by
  rw [advance_of_cons hr h]
  exact ⟨hr ▸ List.suffix_cons t ts, fun _ => id⟩

/-- The token that was asked for is taken if it is there, and nothing otherwise. -/
theorem accept_ok {r r' : Reader} {c : Char} {found : Bool} (h : r.accept c = .ok (found, r')) :
    found = true ∧ (∃ t ts, r.rest = t :: ts ∧ t.is c = true ∧ r' = { r with rest := ts }) ∨
      found = false ∧ r.nextIs c = false ∧ r' = r := by
  unfold accept at h
  split at h
  · rename_i hnext
    obtain ⟨r₁, hr₁, h⟩ := bind_eq_ok.mp h
    cases h
    cases hr : r.rest with
    | nil => simp [nextIs, hr] at hnext
    | cons t ts =>
      have ht : t.is c = true := by simpa [nextIs, hr] using hnext
      exact .inl ⟨rfl, t, ts, rfl, ht, advance_of_cons hr hr₁⟩
  · rename_i hnext
    cases h
    exact .inr ⟨rfl, by simpa using hnext, rfl⟩

/-- A token that is an ordinary character is ordinary. -/
theorem isOrdinary_of_is {t : Token} {c : Char} (ht : t.is c = true) (hc : IsOrdinary c) :
    t.IsOrdinary := by
  simp only [Token.is, Bool.and_eq_true, Bool.not_eq_true', beq_iff_eq] at ht
  exact ⟨ht.1, ht.2 ▸ hc⟩

/-- An ordinary character that is accepted is all that is taken. -/
theorem accept_takes {r r' : Reader} {c : Char} {found : Bool} (hc : IsOrdinary c)
    (h : r.accept c = .ok (found, r')) : r.Takes r' := by
  obtain ⟨-, t, ts, hr, ht, rfl⟩ | ⟨-, -, rfl⟩ := accept_ok h
  · exact ⟨⟨hr ▸ List.suffix_cons t ts, fun _ => id⟩, [t], hr,
      List.forall_mem_singleton.mpr (isOrdinary_of_is ht hc)⟩
  · exact .refl _

/-- Characters of an ordinary kind, by induction on how many are left. -/
theorem takeWhile_takes {kind : Char → Bool}
    (hkind : kind '\\' = false ∧ kind '[' = false ∧ kind ']' = false ∧ kind '(' = false)
    {limit : Nat} {r r' : Reader} {cs : List Char} (h : takeWhile kind limit r = .ok (cs, r')) :
    r.Takes r' := by
  induction limit generalizing r cs with
  | zero =>
    cases h
    exact .refl _
  | succ limit ih =>
    unfold takeWhile at h
    split at h
    · rename_i t ts hr
      split at h
      · rename_i ht
        rw [Bool.and_eq_true, Bool.not_eq_true'] at ht
        obtain ⟨r₁, hr₁, h⟩ := bind_eq_ok.mp h
        obtain ⟨⟨ds, r₂⟩, hds, h⟩ := bind_eq_ok.mp h
        cases h
        exact (Takes.cons hr ⟨ht.1, isOrdinary_of_kind ht.2 hkind⟩ hr₁).trans (ih hds)
      · cases h
        exact .refl _
    · cases h
      exact .refl _

/-! ## Names -/

/-- What was taken up to a terminator is the text of the tokens before it. -/
theorem takeName_ok {stop : Char} {what : String} {calls : Nat} {done cs : List Char}
    {r r' : Reader} (h : takeName stop what calls done r = .ok (cs, r')) :
    r.Onward r' ∧ cs ≠ [] ∧ ∃ ts t, r.rest = ts ++ t :: r'.rest ∧ t.is stop = true ∧
      cs = done ++ textOf ts := by
  induction calls generalizing done r with
  | zero => cases h
  | succ calls ih =>
    unfold takeName at h
    split at h
    · split at h <;> cases h
    · rename_i t ts hr
      obtain ⟨r₁, hr₁, h⟩ := bind_eq_ok.mp h
      have honward := onward_of_advance hr hr₁
      have hr₁ : r₁.rest = ts := by rw [advance_of_cons hr hr₁]
      split at h
      · rename_i hstop
        split at h
        · cases h
        · rename_i hdone
          cases h
          refine ⟨honward, by simpa using hdone, [], t, ?_, hstop, by simp⟩
          rw [hr, hr₁, List.nil_append]
      · obtain ⟨honward', hne, us, u, hus, hu, rfl⟩ := ih h
        refine ⟨honward.trans honward', hne, t :: us, u, ?_, hu, ?_⟩
        · rw [hr, ← hr₁, hus, List.cons_append]
        · rw [textOf_cons, List.append_assoc]

/-- A name, up to its terminator, that is spelled with ordinary characters. -/
theorem name_takes {stop : Char} {what : String} {r r' : Reader} {cs : List Char}
    (hstop : IsOrdinary stop) (h : r.name stop what = .ok (cs, r'))
    (hcs : ∀ c ∈ cs, IsOrdinary c) :
    r.Takes r' ∧ ∃ c ds, cs = c :: ds ∧ (textOf r.rest).head? = some c := by
  obtain ⟨honward, hne, ts, t, hts, ht, rfl⟩ := takeName_ok h
  rw [List.nil_append] at hcs hne
  have hall : ∀ u ∈ ts, u.IsOrdinary := by
    intro u hu
    have htext : ∀ c ∈ u.text, IsOrdinary c := fun c hc =>
      hcs c (List.mem_flatMap.mpr ⟨u, hu, hc⟩)
    cases hescaped : u.escaped with
    | true =>
      rw [Token.text_of_escaped hescaped] at htext
      exact absurd rfl (htext '\\' (List.mem_cons_self ..)).1
    | false =>
      rw [Token.text_of_plain hescaped] at htext
      exact ⟨hescaped, htext _ (List.mem_singleton_self _)⟩
  refine ⟨⟨honward, ts ++ [t], by simp [hts], ?_⟩, ?_⟩
  · exact List.forall_mem_append.mpr ⟨hall, List.forall_mem_singleton.mpr (isOrdinary_of_is ht hstop)⟩
  · rw [List.nil_append]
    obtain ⟨c, ds, hcons⟩ := List.exists_cons_of_ne_nil hne
    refine ⟨c, ds, hcons, ?_⟩
    rw [hts, textOf_append, hcons]
    rfl

/-- The names that patterns give to groups are spelled with ordinary characters. -/
theorem isOrdinary_of_isIdentifier {cs : List Char} (h : Text.isIdentifier cs = true) :
    ∀ c ∈ cs, IsOrdinary c := by
  apply isOrdinary_of_not_mem <;>
    exact Text.not_mem_of_isIdentifier h (by decide) (by decide)

/-- A name that passes is an identifier. -/
theorem checkName_ok {cs : List Char} {r : Reader} {u : Unit} (h : checkName cs r = .ok u) :
    Text.isIdentifier cs = true := by
  unfold checkName at h
  split at h
  · assumption
  · cases h

/-! ## Escapes -/

/-- The digits of an escape are ordinary. -/
theorem hexEscape_takes {t : Token} {digits n : Nat} {r r' : Reader}
    (h : hexEscape t digits r = .ok (n, r')) : r.Takes r' := by
  simp only [hexEscape, throw_bind] at h
  obtain ⟨⟨ds, r₁⟩, hds, h⟩ := bind_eq_ok.mp h
  obtain ⟨-, h⟩ | ⟨-, h⟩ := ite_eq_iff.mp h
  · cases h
  obtain ⟨-, h⟩ | ⟨-, h⟩ := ite_eq_iff.mp h
  · cases h
  obtain ⟨-, h⟩ | ⟨-, h⟩ := ite_eq_iff.mp h
  · cases h
  cases h
  exact takeWhile_takes (by decide) hds

/-- So is the name of a character. -/
theorem namedEscape_takes {t : Token} {n : Nat} {r r' : Reader}
    (h : namedEscape t r = .ok (n, r')) : r.Takes r' := by
  simp only [namedEscape, throw_bind] at h
  obtain ⟨⟨found, r₁⟩, hfound, h⟩ := bind_eq_ok.mp h
  obtain ⟨-, h⟩ | ⟨-, h⟩ := ite_eq_iff.mp h
  · cases h
  obtain ⟨⟨cs, r₂⟩, hcs, h⟩ := bind_eq_ok.mp h
  dsimp only at h
  split at h
  · rename_i m hm
    cases h
    have hordinary : ∀ c ∈ cs, IsOrdinary c := fun c hc =>
      isOrdinary_of_kind (Text.isNameCharacter_of_characterNamed? hm c hc) (by decide)
    exact (accept_takes (by decide) hfound).trans (name_takes (by decide) hcs hordinary).1
  · cases h

/-- What follows an escape by a code is ordinary. -/
theorem codeEscape?_takes {t : Token} {n : Nat} {r r' : Reader}
    (h : codeEscape? t r = some (.ok (n, r'))) : r.Takes r' := by
  unfold codeEscape? at h
  split at h
  · exact hexEscape_takes (Option.some.inj h)
  · exact hexEscape_takes (Option.some.inj h)
  · exact hexEscape_takes (Option.some.inj h)
  · exact namedEscape_takes (Option.some.inj h)
  · cases h

/-- Nothing follows a plain escape. -/
theorem plainEscape_takes {t : Token} {n : Nat} {r r' : Reader}
    (h : plainEscape t r = .ok (n, r')) : r.Takes r' := by
  unfold plainEscape at h
  split at h
  · cases h
  · cases h
    exact .refl r

/-- What follows an escape in a class is ordinary. -/
theorem classEscape_takes {t : Token} {item : ClassItem} {r r' : Reader}
    (h : classEscape t r = .ok (item, r')) : r.Takes r' := by
  unfold classEscape at h
  dsimp only at h
  split at h
  · cases h
    exact .refl r
  split at h
  · cases h
    exact .refl r
  split at h
  · cases h
    exact .refl r
  split at h
  · rename_i x hx
    obtain ⟨⟨n, r₁⟩, rfl, h⟩ := map_eq_ok h
    cases h
    exact codeEscape?_takes hx
  · split at h
    · obtain ⟨⟨n, r₁⟩, hn, h⟩ := map_eq_ok h
      cases h
      simp only [classOctal, throw_bind] at hn
      obtain ⟨⟨ds, r₂⟩, hds, hn⟩ := bind_eq_ok.mp hn
      obtain ⟨-, hn⟩ | ⟨-, hn⟩ := ite_eq_iff.mp hn
      · cases hn
      · cases hn
        exact takeWhile_takes (by decide) hds
    · split at h
      · cases h
      · obtain ⟨⟨n, r₁⟩, hn, h⟩ := map_eq_ok h
        cases h
        exact plainEscape_takes hn

/-- The further digits of an escape are ordinary. -/
theorem digitEscape_takes {t : Token} {n : Node} {r r' : Reader}
    (h : digitEscape t r = .ok (n, r')) : r.Takes r' := by
  simp only [digitEscape, throw_bind] at h
  split at h
  · obtain ⟨⟨ds, r₁⟩, hds, h⟩ := bind_eq_ok.mp h
    cases h
    exact takeWhile_takes (by decide) hds
  · obtain ⟨⟨second, r₁⟩, hsecond, h⟩ := bind_eq_ok.mp h
    have htakes : r.Takes r₁ := takeWhile_takes (by decide) hsecond
    split at h
    · obtain ⟨⟨third, r₂⟩, hthird, h⟩ := bind_eq_ok.mp h
      obtain ⟨-, h⟩ | ⟨-, h⟩ := ite_eq_iff.mp h
      · cases h
      · cases h
        exact htakes.trans (takeWhile_takes (by decide) hthird)
    · obtain ⟨-, rfl, -⟩ := reference_ok h
      exact htakes

/-- No escape has the letter of the references that the machine knows. -/
theorem escape_takes {t : Token} {n : Node} {r r' : Reader} (h : escape t r = .ok (n, r')) :
    t.char ≠ 'k' ∧ r.Takes r' := by
  constructor
  · intro hk
    unfold escape at h
    rw [codeEscape?, plainEscape, hk] at h
    cases h
  unfold escape at h
  dsimp only at h
  split at h
  · cases h
    exact .refl r
  split at h
  · cases h
    exact .refl r
  split at h
  · cases h
    exact .refl r
  split at h
  · rename_i x hx
    obtain ⟨⟨n, r₁⟩, rfl, h⟩ := map_eq_ok h
    cases h
    exact codeEscape?_takes hx
  · split at h
    · exact digitEscape_takes h
    · obtain ⟨⟨n, r₁⟩, hn, h⟩ := map_eq_ok h
      cases h
      exact plainEscape_takes hn

/-! ## Repeats -/

/-- The end of bounds is a brace. -/
theorem boundsEnd_takes {lo hi : List Char} {start r r' : Reader}
    {found : Option (Nat × Option Nat)} (h : boundsEnd lo hi start r = .ok (found, r'))
    (hstart : start.Takes r) : start.Takes r' := by
  have hwith {least place : Nat} {r₁ : Reader}
      (h : boundsWith hi least place r₁ = .ok (found, r')) : r' = r₁ := by
    unfold boundsWith at h
    split at h
    · cases h
      rfl
    · obtain ⟨most, -, h⟩ := bind_eq_ok.mp h
      obtain ⟨-, h⟩ | ⟨-, h⟩ := ite_eq_iff.mp h
      · cases h
      · cases h
        rfl
  unfold boundsEnd at h
  obtain ⟨⟨closed, r₁⟩, hclosed, h⟩ := bind_eq_ok.mp h
  have htakes := hstart.trans (accept_takes (by decide) hclosed)
  dsimp only at h
  split at h
  · cases h
    exact .refl _
  split at h
  · exact hwith h ▸ htakes
  · obtain ⟨least, -, h⟩ := bind_eq_ok.mp h
    exact hwith h ▸ htakes

/-- Bounds are digits, a comma and a brace. -/
theorem bounds_takes {r r' : Reader} {found : Option (Nat × Option Nat)}
    (h : r.bounds = .ok (found, r')) : r.Takes r' := by
  rw [bounds_eq] at h
  split at h
  · cases h
    exact .refl _
  obtain ⟨⟨lo, r₁⟩, hlo, h⟩ := bind_eq_ok.mp h
  obtain ⟨⟨comma, r₂⟩, hcomma, h⟩ := bind_eq_ok.mp h
  have htakes : r.Takes r₂ :=
    (takeWhile_takes (by decide) hlo).trans (accept_takes (by decide) hcomma)
  dsimp only at h
  split at h
  · obtain ⟨⟨hi, r₃⟩, hhi, h⟩ := bind_eq_ok.mp h
    exact boundsEnd_takes h (htakes.trans (takeWhile_takes (by decide) hhi))
  · exact boundsEnd_takes h htakes

/-- Greed is a plus or a question mark. -/
theorem greed_takes {r r' : Reader} {g : Greed} (h : r.greed = .ok (g, r')) : r.Takes r' := by
  simp only [greed] at h
  obtain ⟨⟨found, r₁⟩, hfound, h⟩ := bind_eq_ok.mp h
  have htakes := accept_takes (by decide) hfound
  split at h
  · cases h
    exact htakes
  · obtain ⟨⟨found', r₂⟩, hfound', h⟩ := bind_eq_ok.mp h
    cases h
    exact htakes.trans (accept_takes (by decide) hfound')

/-- Bounds and greed are all that a repeat takes. -/
theorem repeated_takes {t : Token} {done done' : List Piece} {r r' : Reader}
    (h : repeated t done r = .ok (done', r')) : r.Takes r' := by
  simp only [repeated] at h
  obtain ⟨⟨found, r₁⟩, hfound, h⟩ := bind_eq_ok.mp h
  have htakes : r.Takes r₁ := by
    unfold repeatBounds at hfound
    split at hfound
    · cases hfound
      exact .refl _
    · cases hfound
      exact .refl _
    · cases hfound
      exact .refl _
    · exact bounds_takes hfound
  cases found with
  | none =>
    cases h
    exact htakes
  | some bounds =>
    dsimp only at h
    split at h
    · cases h
    · obtain ⟨⟨greed, r₂⟩, hgreed, h⟩ := bind_eq_ok.mp h
      cases h
      exact htakes.trans (greed_takes hgreed)

/-! ## Flags -/

/-- A flag, or one of the signs around flags. -/
private theorem isOrdinary_of_isFlag {t : Token} (h : (t.escaped || !isFlag t.char) = false) :
    t.IsOrdinary := by
  rw [Bool.or_eq_false_iff, Bool.not_eq_false'] at h
  exact ⟨h.1, isOrdinary_of_kind h.2 (by decide)⟩

/-- Flags that are switched on are letters. -/
theorem flagsOn_takes {calls : Nat} {c : Char} {done : List Char} {found : List Char × Char}
    {r r' : Reader} (h : flagsOn calls c done r = .ok (found, r')) : r.Takes r' := by
  induction calls generalizing c done r with
  | zero => cases h
  | succ calls ih =>
    simp only [flagsOn, throw_bind] at h
    obtain ⟨-, h⟩ | ⟨-, h⟩ := ite_eq_iff.mp h
    · cases h
    obtain ⟨-, h⟩ | ⟨-, h⟩ := ite_eq_iff.mp h
    · cases h
    split at h
    · cases h
    · rename_i t ts hr
      obtain ⟨r₁, hr₁, h⟩ := bind_eq_ok.mp h
      split at h
      · rename_i hsign
        cases h
        simp only [Bool.or_eq_true] at hsign
        refine .cons hr ?_ hr₁
        obtain (ht | ht) | ht := hsign <;> exact isOrdinary_of_is ht (by decide)
      · obtain ⟨-, h⟩ | ⟨hflag, h⟩ := ite_eq_iff.mp h
        · cases h
        · exact (Takes.cons hr (isOrdinary_of_isFlag (by simpa using hflag)) hr₁).trans (ih h)

/-- So are those that are switched off. -/
theorem flagsOff_takes {calls : Nat} {c : Char} {done off : List Char} {r r' : Reader}
    (h : flagsOff calls c done r = .ok (off, r')) : r.Takes r' := by
  induction calls generalizing c done r with
  | zero => cases h
  | succ calls ih =>
    simp only [flagsOff, throw_bind] at h
    obtain ⟨-, h⟩ | ⟨-, h⟩ := ite_eq_iff.mp h
    · cases h
    split at h
    · cases h
    · rename_i t ts hr
      obtain ⟨r₁, hr₁, h⟩ := bind_eq_ok.mp h
      split at h
      · rename_i hsign
        cases h
        exact .cons hr (isOrdinary_of_is hsign (by decide)) hr₁
      · obtain ⟨-, h⟩ | ⟨hflag, h⟩ := ite_eq_iff.mp h
        · cases h
        · exact (Takes.cons hr (isOrdinary_of_isFlag (by simpa using hflag)) hr₁).trans (ih h)

/-- The stop of flags is ordinary. -/
theorem flagsFrom_takes {calls : Nat} {on : List Char} {stop : Char} {r r' : Reader}
    {scope : Option (List Char × List Char)} (h : flagsFrom calls on stop r = .ok (scope, r')) :
    r.Takes r' := by
  unfold flagsFrom at h
  split at h
  · cases h
    exact ⟨⟨List.suffix_rfl, fun c hc => List.mem_append_left _ hc⟩, [], rfl, nofun⟩
  obtain ⟨-, h⟩ | ⟨-, h⟩ := ite_eq_iff.mp h
  · cases h
  split at h
  · cases h
    exact .refl _
  split at h
  · cases h
  · rename_i t ts hr
    obtain ⟨r₁, hr₁, h⟩ := bind_eq_ok.mp h
    obtain ⟨-, h⟩ | ⟨hflag, h⟩ := ite_eq_iff.mp h
    · cases h
    obtain ⟨⟨off, r₂⟩, hoff, h⟩ := bind_eq_ok.mp h
    have htakes := (Takes.cons hr (isOrdinary_of_isFlag (by simpa using hflag)) hr₁).trans
      (flagsOff_takes hoff)
    obtain ⟨-, h⟩ | ⟨-, h⟩ := ite_eq_iff.mp h
    · cases h
    obtain ⟨-, h⟩ | ⟨-, h⟩ := ite_eq_iff.mp h
    · cases h
    cases h
    exact htakes

/-- Flags are ordinary up to their stop. -/
theorem flags_takes {c : Char} {r r' : Reader} {scope : Option (List Char × List Char)}
    (h : flags c r = .ok (scope, r')) : r.Takes r' := by
  rw [flags_eq] at h
  split at h
  · exact flagsFrom_takes h
  · obtain ⟨⟨⟨on, stop⟩, r₁⟩, hon, h⟩ := bind_eq_ok.mp h
    exact (flagsOn_takes hon).trans (flagsFrom_takes h)

end Reader

end Marginalia.Pattern
