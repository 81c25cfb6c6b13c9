import Marginalia.Toml.Reader
import Mathlib.Tactic.SplitIfs

/-!
# Numbers that are too long

A document is refused with a place in it, but for one case: a whole number of more digits than can
be read.  Here that case is traced to the document, which has those digits in a row
(`read_tooManyDigits`).

All readers of TOML take characters from the front and leave the rest.  `Reads` says this of one of
them, together with where an error about digits comes from; it carries over from the parts of a
reader to the whole (`Reads.bind`).
-/

namespace Marginalia.Toml

/-- The text has a row of digits, perhaps with underscores between them, of which `n` are digits. -/
def HasDigits (n : Nat) (cs : List Char) : Prop :=
  ∃ row, row <:+: cs ∧ (∀ c ∈ row, isDigit c = true ∨ c = '_') ∧ row.countP isDigit = n

/-- What a reader does with the text `cs`: it leaves a part from the end of it, and if it complains
about digits then the text has them. -/
structure Reads {α : Type} (cs : List Char) (left : α → List Char) (r : Except Error α) : Prop where
  suffix : ∀ a, r = .ok a → left a <:+ cs
  digits : ∀ n, r = .error (.tooManyDigits n) → Text.digitLimit < n ∧ HasDigits n cs

/-- The outcome is not that a number has too many digits. -/
def Sparing {α : Type} (r : Except Error α) : Prop := ∀ n, r ≠ .error (.tooManyDigits n)

section

variable {α β : Type} {cs rest : List Char} {left : α → List Char} {left' : β → List Char}
  {r : Except Error α}

/-- A text has the digits that a part of it has. -/
theorem HasDigits.mono {n : Nat} (h : HasDigits n rest) (hrest : rest <:+: cs) :
    HasDigits n cs := by
  obtain ⟨row, hrow, hchars, hcount⟩ := h
  exact ⟨row, hrow.trans hrest, hchars, hcount⟩

/-- A reader that succeeds has only to leave a part from the end. -/
theorem Reads.ok {a : α} (h : left a <:+ cs) : Reads cs left (.ok a) :=
  ⟨fun _ heq => by cases heq; exact h, nofun⟩

/-- A reader may complain about anything but digits. -/
theorem Reads.problem (p : Problem) (at_ : List Char) :
    Reads cs left (.error (problemAt at_ p)) :=
  ⟨nofun, nofun⟩

theorem Sparing.ok (a : α) : Sparing (.ok a) := nofun

/-- A problem at a place says nothing about digits. -/
theorem Sparing.problem (p : Problem) (at_ : List Char) :
    Sparing (.error (problemAt at_ p) : Except Error α) := nofun

/-- What is read of a part from the end is read of the whole. -/
theorem Reads.of_suffix (h : Reads rest left r) (hrest : rest <:+ cs) : Reads cs left r where
  suffix a ha := (h.suffix a ha).trans hrest
  digits n hn := ⟨(h.digits n hn).1, (h.digits n hn).2.mono hrest.isInfix⟩

/-- Two readers, one after the other. -/
theorem Reads.bind {f : α → Except Error β} (h : Reads cs left r)
    (hf : ∀ a, Reads (left a) left' (f a)) : Reads cs left' (r >>= f) := by
  cases r with
  | error e => exact ⟨nofun, fun n hn => h.digits n (by cases hn; rfl)⟩
  | ok a => exact (hf a).of_suffix (h.suffix a rfl)

/-- What is made of the value does not matter. -/
theorem Reads.map {f : α → β} (h : Reads cs left r) (hf : ∀ a, left' (f a) = left a) :
    Reads cs left' (r.map f) := by
  cases r with
  | error e => exact ⟨nofun, fun n hn => h.digits n (by cases hn; rfl)⟩
  | ok a => exact .ok (hf a ▸ h.suffix a rfl)

/-- A check that spares the digits takes nothing. -/
theorem Sparing.reads (h : Sparing r) (cs : List Char) : Reads cs (fun _ => cs) r :=
  ⟨fun _ _ => List.suffix_rfl, fun n hn => absurd hn (h n)⟩

end

/-! ## White space, comments and strings -/

/-- Spaces are skipped from the front. -/
theorem skipSpace_suffix (cs : List Char) : skipSpace cs <:+ cs := List.dropWhile_suffix _

/-- What is left at a stop is the end of the text. -/
theorem splitFrom_suffix (stop done cs : List Char) : (splitFrom stop done cs).2 <:+ cs := by
  induction cs generalizing done with
  | nil => exact List.suffix_rfl
  | cons c cs ih =>
    unfold splitFrom
    split
    · exact List.suffix_rfl
    · exact (ih (c :: done)).trans (List.suffix_cons c cs)

/-- A check of characters does not look at digits. -/
theorem sparing_checkLegal (illegal : Char → Bool) (part rest : List Char) :
    Sparing (checkLegal illegal part rest) := by
  induction part generalizing rest with
  | nil => exact .ok _
  | cons c part ih =>
    unfold checkLegal
    split
    · exact .problem _ _
    · exact ih rest.tail

/-- A comment is read from the front. -/
theorem reads_skipComment (cs : List Char) : Reads cs id (skipComment cs) := by
  unfold skipComment
  split
  · rename_i cs
    refine ((sparing_checkLegal _ _ cs).reads cs).bind (fun _ => .ok ?_) |>.of_suffix
      (List.suffix_cons _ _)
    exact splitFrom_suffix _ _ _
  · exact .ok List.suffix_rfl

/-- So are blank lines and comments. -/
theorem reads_skipFill (inComment : Bool) (cs : List Char) :
    Reads cs id (skipFill inComment cs) := by
  induction cs generalizing inComment with
  | nil => exact .ok List.suffix_rfl
  | cons c cs ih =>
    have hrest (inComment : Bool) : Reads (c :: cs) id (skipFill inComment cs) :=
      (ih inComment).of_suffix (List.suffix_cons c cs)
    unfold skipFill
    split_ifs
    all_goals first | exact hrest _ | exact .problem _ _ | exact .ok List.suffix_rfl

/-- A literal string ends at its stop. -/
theorem reads_literalUntil (stop : List Char) (illegal : Char → Bool) (cs : List Char) :
    Reads cs Prod.snd (literalUntil stop illegal cs) := by
  unfold literalUntil
  dsimp only
  split
  · exact ⟨nofun, nofun⟩
  · refine ((sparing_checkLegal _ _ cs).reads cs).bind (fun _ => .ok ?_)
    exact (List.drop_suffix _ _).trans (splitFrom_suffix _ _ _)

/-- A wrong code point is not a number that is too long. -/
theorem sparing_hexCharacter (digits : Nat) (cs : List Char) :
    Sparing (hexCharacter digits cs) := by
  unfold hexCharacter
  dsimp only
  split
  · exact .problem _ _
  split
  · exact .problem _ _
  · exact .ok _

/-- Nor is a wrong escape sequence. -/
theorem sparing_escape (lines : Bool) (cs : List Char) : Sparing (escape lines cs) := by
  unfold escape lineContinuation
  cases cs with
  | nil => exact .problem _ _
  | cons c cs =>
    dsimp only
    split_ifs
    · exact .ok _
    · split
      · exact .ok _
      · exact .ok _
      · exact .problem _ _
    · exact sparing_hexCharacter 4 cs
    · exact sparing_hexCharacter 8 cs
    · split
      · exact .ok _
      · exact .problem _ _

/-- A basic string, with whatever escapes there are in it. -/
theorem reads_basicString (lines : Bool) (skip : Nat) (done cs : List Char) :
    Reads cs Prod.snd (basicString lines skip done cs) := by
  induction cs generalizing skip done with
  | nil => exact .problem _ _
  | cons c cs ih =>
    have hrest (skip : Nat) (done : List Char) : Reads (c :: cs) Prod.snd
        (basicString lines skip done cs) := (ih skip done).of_suffix (List.suffix_cons c cs)
    unfold basicString
    split_ifs
    · exact hrest _ _
    · exact .ok (List.suffix_cons c cs)
    · exact .ok ((List.drop_suffix 2 cs).trans (List.suffix_cons c cs))
    · exact hrest _ _
    · cases hescape : escape lines cs with
      | error e =>
        refine ⟨nofun, fun n hn => absurd ?_ (sparing_escape lines cs n)⟩
        cases hn
        exact hescape
      | ok e => exact hrest _ _
    · exact .problem _ _
    · exact hrest _ _
    · exact .problem _ _
    · exact hrest _ _

/-- Up to two more quotes are part of a string of lines. -/
theorem extraQuotes_suffix (quote : Char) (part rest : List Char) :
    (extraQuotes quote part rest).2 <:+ rest := by
  unfold extraQuotes
  split
  · rename_i a b rest
    split_ifs
    · exact List.suffix_append [a, b] rest
    · exact List.suffix_cons a _
    · exact List.suffix_rfl
  · split_ifs
    · exact List.nil_suffix
    · exact List.suffix_rfl
  · exact List.suffix_rfl

theorem dropLineFeed_suffix (cs : List Char) : dropLineFeed cs <:+ cs := by
  unfold dropLineFeed
  split
  · exact List.suffix_cons _ _
  · exact List.suffix_rfl

/-- A string of several lines after its three opening quotes. -/
theorem reads_lines {quote : Char} {cs : List Char}
    {r : Except Error (List Char × List Char)} (h : Reads (dropLineFeed cs) Prod.snd r) :
    Reads (quote :: quote :: quote :: cs) Prod.snd
      (do let (part, rest) ← r; return extraQuotes quote part rest) := by
  refine Reads.bind (h.of_suffix ?_) fun (part, rest) => .ok (extraQuotes_suffix quote part rest)
  exact (dropLineFeed_suffix cs).trans (List.suffix_append [quote, quote, quote] cs)

/-- A string of any of the four kinds. -/
theorem reads_string? {cs : List Char} {r : Except Error (List Char × List Char)}
    (h : string? cs = some r) : Reads cs Prod.snd r := by
  unfold string? at h
  split at h
  · cases h
    exact reads_lines (reads_basicString true 0 [] _)
  · cases h
    exact (reads_basicString false 0 [] _).of_suffix (List.suffix_cons _ _)
  · cases h
    exact reads_lines (reads_literalUntil _ _ _)
  · cases h
    exact (reads_literalUntil _ _ _).of_suffix (List.suffix_cons _ _)
  · cases h

/-! ## Keys -/

/-- A part of a key, bare or quoted. -/
theorem reads_keyPart (cs : List Char) : Reads cs Prod.snd (keyPart cs) := by
  unfold keyPart
  split
  · exact ((reads_literalUntil _ _ _).of_suffix (List.suffix_cons _ _)).bind
      fun _ => .ok List.suffix_rfl
  · exact ((reads_basicString _ _ _ _).of_suffix (List.suffix_cons _ _)).bind
      fun _ => .ok List.suffix_rfl
  · split
    · exact .ok (List.dropWhile_suffix _)
    · exact .problem _ _
  · exact .problem _ _

/-- The parts of a key, up to the last dot. -/
theorem reads_keyParts (calls : Nat) (done : Key) (cs : List Char) :
    Reads cs Prod.snd (keyParts calls done cs) := by
  induction calls generalizing done cs with
  | zero => exact .problem _ _
  | succ calls ih =>
    unfold keyParts
    refine (reads_keyPart cs).bind fun (part, rest) => Reads.of_suffix ?_ (skipSpace_suffix rest)
    dsimp only
    split
    · rename_i after hafter
      rw [hafter]
      exact (ih _ _).of_suffix ((skipSpace_suffix after).trans (List.suffix_cons '.' after))
    · exact .ok List.suffix_rfl

/-! ## Numbers -/

/-- The characters that a row of digits takes, underscores included. -/
theorem moreDigits_spec {kind : Char → Bool} (hkind : kind '_' = false) (cs : List Char) :
    ∃ row, cs = row ++ (moreDigits kind cs).2 ∧ (∀ c ∈ row, kind c = true ∨ c = '_') ∧
      row.countP kind = (moreDigits kind cs).1.length := by
  fun_induction moreDigits kind cs with
  | case1 c cs hc ds rest hrest ih =>
    rw [hrest] at ih
    obtain ⟨row, hcs, hrow, hcount⟩ := ih
    refine ⟨'_' :: c :: row, by rw [hcs]; rfl, ?_, ?_⟩
    · simp_all
    · simp_all
  | case2 c cs hc => exact ⟨[], rfl, nofun, rfl⟩
  | case3 c cs _ hc ds rest hrest ih =>
    rw [hrest] at ih
    obtain ⟨row, hcs, hrow, hcount⟩ := ih
    refine ⟨c :: row, by rw [hcs]; rfl, ?_, ?_⟩
    · simp_all
    · simp_all
  | case4 c cs _ hc => exact ⟨[], rfl, nofun, rfl⟩
  | case5 => exact ⟨[], rfl, nofun, rfl⟩

/-- A row of digits: the digits read are those of the row, without underscores. -/
theorem digits?_spec {kind : Char → Bool} (hkind : kind '_' = false) {cs ds rest : List Char}
    (h : digits? kind cs = some (ds, rest)) :
    ∃ row, cs = row ++ rest ∧ (∀ c ∈ row, kind c = true ∨ c = '_') ∧
      row.countP kind = ds.length := by
  cases cs with
  | nil => cases h
  | cons c cs =>
    rw [digits?] at h
    split at h
    · rename_i hc
      obtain ⟨row, hcs, hrow, hcount⟩ := moreDigits_spec hkind cs
      cases h
      refine ⟨c :: row, congrArg (c :: ·) hcs, List.forall_mem_cons.mpr ⟨.inl hc, hrow⟩, ?_⟩
      rw [List.countP_cons_of_pos hc, hcount, List.length_cons]
    · cases h

/-- What is left is what follows the row. -/
theorem digits?_suffix {kind : Char → Bool} (hkind : kind '_' = false) {cs ds rest : List Char}
    (h : digits? kind cs = some (ds, rest)) : rest <:+ cs := by
  obtain ⟨row, rfl, -, -⟩ := digits?_spec hkind h
  exact List.suffix_append row rest

/-- A sign is one character or none. -/
theorem sign_suffix (cs : List Char) : (sign cs).2 <:+ cs := by
  unfold sign
  split
  · exact List.suffix_cons _ _
  · exact List.suffix_cons _ _
  · exact List.suffix_rfl

/-- A whole part is a row of decimal digits. -/
theorem wholePart?_spec {cs ds rest : List Char} (h : wholePart? cs = some (ds, rest)) :
    ∃ row, cs = row ++ rest ∧ (∀ c ∈ row, isDigit c = true ∨ c = '_') ∧
      row.countP isDigit = ds.length := by
  unfold wholePart? at h
  split at h
  · cases h
    exact ⟨['0'], rfl, List.forall_mem_singleton.mpr (.inl rfl), rfl⟩
  · exact digits?_spec rfl h

/-- A fraction is read from the front. -/
theorem fraction_suffix (cs : List Char) : (fraction cs).2 <:+ cs := by
  unfold fraction
  split
  · rename_i cs
    cases h : digits? isDigit cs with
    | none => exact List.suffix_rfl
    | some r => exact (digits?_suffix rfl h).trans (List.suffix_cons '.' cs)
  · exact List.suffix_rfl

/-- An exponent is read from the front. -/
theorem exponent_suffix (cs : List Char) : (exponent cs).2 <:+ cs := by
  unfold exponent
  split
  · rename_i c rest
    split
    · dsimp only
      split
      · rename_i h
        exact ((digits?_suffix rfl h).trans (sign_suffix rest)).trans (List.suffix_cons c rest)
      · exact List.suffix_rfl
    · exact List.suffix_rfl
  · exact List.suffix_rfl

/-- Here alone can there be too many digits, and then the row has them. -/
theorem reads_decimal? {cs : List Char} {r : Except Error (Value × List Char)}
    (h : decimal? cs = some r) : Reads cs Prod.snd r := by
  unfold decimal? at h
  obtain ⟨⟨ds, rest⟩, hwhole, h⟩ := Option.bind_eq_some_iff.mp h
  obtain ⟨row, hsign, hrow, hcount⟩ := wholePart?_spec hwhole
  have hrest : (exponent (fraction rest).2).2 <:+ cs :=
    ((exponent_suffix _).trans (fraction_suffix rest)).trans
      ((hsign ▸ List.suffix_append row rest).trans (sign_suffix cs))
  dsimp only at h
  split at h
  · cases h
    unfold whole
    split
    · rename_i hlimit
      refine ⟨nofun, fun n hn => ?_⟩
      cases hn
      refine ⟨hlimit, row, ?_, hrow, hcount⟩
      exact (hsign ▸ (List.prefix_append row rest).isInfix).trans (sign_suffix cs).isInfix
    · exact .ok hrest
  · cases h
    exact .ok hrest

/-- A number in another base is read from the front. -/
theorem based?_suffix {cs rest : List Char} {v : Value} (h : based? cs = some (v, rest)) :
    rest <:+ cs := by
  unfold based? at h
  split at h
  · rename_i c cs
    have hdigits {base : Nat} {kind : Char → Bool} (hkind : kind '_' = false)
        (h : (digits? kind cs).map (fun (ds, rest) => (Value.int (Text.numeral base ds), rest)) =
          some (v, rest)) : rest <:+ '0' :: c :: cs := by
      obtain ⟨⟨ds, rest'⟩, hds, heq⟩ := Option.map_eq_some_iff.mp h
      cases heq
      exact (digits?_suffix hkind hds).trans (List.suffix_append ['0', c] cs)
    dsimp only at h
    split_ifs at h
    · exact hdigits (by decide) h
    · exact hdigits (by decide) h
    · exact hdigits (by decide) h
  · cases h

/-- A number, whatever its base. -/
theorem reads_number? {cs : List Char} {r : Except Error (Value × List Char)}
    (h : number? cs = some r) : Reads cs Prod.snd r := by
  unfold number? at h
  obtain hbased | ⟨-, hdecimal⟩ := Option.or_eq_some_iff.mp h
  · obtain ⟨⟨v, rest⟩, hv, rfl⟩ := Option.map_eq_some_iff.mp hbased
    exact .ok (based?_suffix hv)
  · exact reads_decimal? hdecimal

/-- So are infinity and not-a-number. -/
theorem special?_suffix {cs rest : List Char} {v : Value} (h : special? cs = some (v, rest)) :
    rest <:+ cs := by
  unfold special? at h
  dsimp only at h
  split at h
  · rename_i hsign
    cases h
    exact ((List.suffix_append ['i', 'n', 'f'] rest).trans (hsign ▸ List.suffix_rfl)).trans
      (sign_suffix cs)
  · rename_i hsign
    cases h
    exact ((List.suffix_append ['n', 'a', 'n'] rest).trans (hsign ▸ List.suffix_rfl)).trans
      (sign_suffix cs)
  · cases h

/-! ## Dates and times -/

/-- A fixed number of digits is read from the front. -/
theorem fixedDigits?_suffix {count n : Nat} {cs rest : List Char}
    (h : fixedDigits? count cs = some (n, rest)) : rest <:+ cs := by
  unfold fixedDigits? at h
  dsimp only at h
  split at h
  · cases h
    exact List.drop_suffix _ _
  · cases h

/-- So are two digits within bounds. -/
theorem twoDigits?_suffix {least most n : Nat} {cs rest : List Char}
    (h : twoDigits? least most cs = some (n, rest)) : rest <:+ cs := by
  unfold twoDigits? at h
  obtain ⟨⟨m, rest'⟩, hm, h⟩ := Option.bind_eq_some_iff.mp h
  dsimp only at h
  split at h
  · cases h
    exact fixedDigits?_suffix hm
  · cases h

theorem skip?_suffix {c : Char} {cs rest : List Char} (h : skip? c cs = some rest) :
    rest <:+ cs := by
  cases cs with
  | nil => cases h
  | cons d cs =>
    rw [skip?] at h
    split at h
    · cases h
      exact List.suffix_cons _ _
    · cases h

/-- A number of two digits behind a separator. -/
theorem skip?_twoDigits?_suffix {c : Char} {least most n : Nat} {cs rest after : List Char}
    (hskip : skip? c cs = some rest) (h : twoDigits? least most rest = some (n, after)) :
    after <:+ cs :=
  (twoDigits?_suffix h).trans (skip?_suffix hskip)

/-- Fractions of a second are read from the front. -/
theorem microseconds_suffix (cs : List Char) : (microseconds cs).2 <:+ cs := by
  unfold microseconds
  split
  · dsimp only
    split
    · exact List.suffix_rfl
    · exact (List.dropWhile_suffix _).trans (List.suffix_cons _ _)
  · exact List.suffix_rfl

/-- A time of day is read from the front. -/
theorem time?_suffix {cs rest : List Char} {t : TimeOfDay} (h : time? cs = some (t, rest)) :
    rest <:+ cs := by
  unfold time? at h
  obtain ⟨⟨hour, cs₁⟩, h₁, h⟩ := Option.bind_eq_some_iff.mp h
  obtain ⟨cs₂, h₂, h⟩ := Option.bind_eq_some_iff.mp h
  obtain ⟨⟨minute, cs₃⟩, h₃, h⟩ := Option.bind_eq_some_iff.mp h
  obtain ⟨cs₄, h₄, h⟩ := Option.bind_eq_some_iff.mp h
  obtain ⟨⟨second, cs₅⟩, h₅, h⟩ := Option.bind_eq_some_iff.mp h
  cases h
  exact (microseconds_suffix cs₅).trans ((skip?_twoDigits?_suffix h₄ h₅).trans
    ((skip?_twoDigits?_suffix h₂ h₃).trans (twoDigits?_suffix h₁)))

/-- An offset in hours and minutes is read from the front. -/
theorem offsetMinutes?_suffix {cs rest : List Char} {n : Int}
    (h : offsetMinutes? cs = some (n, rest)) : rest <:+ cs := by
  unfold offsetMinutes? at h
  obtain ⟨⟨hours, cs₁⟩, h₁, h⟩ := Option.bind_eq_some_iff.mp h
  obtain ⟨cs₂, h₂, h⟩ := Option.bind_eq_some_iff.mp h
  obtain ⟨⟨minutes, cs₃⟩, h₃, h⟩ := Option.bind_eq_some_iff.mp h
  cases h
  exact (skip?_twoDigits?_suffix h₂ h₃).trans (twoDigits?_suffix h₁)

/-- An offset is read from the front, if there is one. -/
theorem offset_suffix (cs : List Char) : (offset cs).2 <:+ cs := by
  unfold offset
  split
  · exact List.suffix_cons _ _
  · exact List.suffix_cons _ _
  · split
    · rename_i h
      exact (offsetMinutes?_suffix h).trans (List.suffix_cons _ _)
    · exact List.suffix_rfl
  · split
    · rename_i h
      exact (offsetMinutes?_suffix h).trans (List.suffix_cons _ _)
    · exact List.suffix_rfl
  · exact List.suffix_rfl

/-- A date is read from the front. -/
theorem date?_suffix {cs rest : List Char} {d : Date} (h : date? cs = some (d, rest)) :
    rest <:+ cs := by
  unfold date? at h
  obtain ⟨⟨year, cs₁⟩, h₁, h⟩ := Option.bind_eq_some_iff.mp h
  obtain ⟨cs₂, h₂, h⟩ := Option.bind_eq_some_iff.mp h
  obtain ⟨⟨month, cs₃⟩, h₃, h⟩ := Option.bind_eq_some_iff.mp h
  obtain ⟨cs₄, h₄, h⟩ := Option.bind_eq_some_iff.mp h
  obtain ⟨⟨day, cs₅⟩, h₅, h⟩ := Option.bind_eq_some_iff.mp h
  cases h
  exact (skip?_twoDigits?_suffix h₄ h₅).trans
    ((skip?_twoDigits?_suffix h₂ h₃).trans (fixedDigits?_suffix h₁))

/-- A time behind a date has a mark in front of it. -/
theorem timeAfterDate?_suffix {cs rest : List Char} {t : TimeOfDay}
    (h : timeAfterDate? cs = some (t, rest)) : rest <:+ cs := by
  cases cs with
  | nil => cases h
  | cons c cs =>
    rw [timeAfterDate?] at h
    split at h
    · exact (time?_suffix h).trans (List.suffix_cons _ _)
    · cases h

/-- A date, a time or both. -/
theorem reads_dateTime? {cs : List Char} {r : Except Error (Value × List Char)}
    (h : dateTime? cs = some r) : Reads cs Prod.snd r := by
  unfold dateTime? at h
  obtain ⟨⟨d, rest⟩, hdate, h⟩ := Option.bind_eq_some_iff.mp h
  cases h
  split
  · refine .ok (List.IsSuffix.trans ?_ (date?_suffix hdate))
    split
    · rename_i htime
      exact (offset_suffix _).trans (timeAfterDate?_suffix htime)
    · exact List.suffix_rfl
  · exact .problem _ _

/-! ## Values -/

/-- A value that has no values in it. -/
theorem reads_scalar (cs : List Char) : Reads cs Prod.snd (scalar cs) := by
  unfold scalar
  split
  · rename_i r hr
    exact (reads_string? hr).map fun _ => rfl
  split
  · exact .ok (List.drop_suffix _ _)
  split
  · exact .ok (List.drop_suffix _ _)
  split
  · rename_i r hr
    exact reads_dateTime? hr
  split
  · rename_i t rest ht
    exact .ok (time?_suffix ht)
  split
  · rename_i r hr
    obtain hnumber | ⟨-, hspecial⟩ := Option.or_eq_some_iff.mp hr
    · exact reads_number? hnumber
    · obtain ⟨⟨v, rest⟩, hv, rfl⟩ := Option.map_eq_some_iff.mp hspecial
      exact .ok (special?_suffix hv)
  · exact .problem _ _

/-- The sign between a key and its value. -/
theorem reads_equals (cs : List Char) : Reads cs id (equals cs) := by
  unfold equals
  split
  · exact .ok ((skipSpace_suffix _).trans (List.suffix_cons _ _))
  · exact .problem _ _

/-- A key that is there already is not a number. -/
theorem sparing_addInline (frozen : List Key) (k : Key) (v : Value) (t : Table) (rest : List Char) :
    Sparing (addInline frozen k v t rest) := by
  unfold addInline
  dsimp only
  split
  · exact .problem _ _
  split
  · exact .problem _ _
  · split
    · exact .problem _ _
    · exact .ok _

/-- Values, the items of an array and the entries of an inline table, by induction on the calls. -/
theorem reads_containers (calls : Nat) :
    (∀ cs, Reads cs Prod.snd (value calls cs)) ∧
      (∀ done cs, Reads cs Prod.snd (arrayItems calls done cs)) ∧
      ∀ frozen done cs, Reads cs Prod.snd (inlineEntries calls frozen done cs) := by
  induction calls with
  | zero => exact ⟨fun _ => .problem _ _, fun _ _ => .problem _ _, fun _ _ _ => .problem _ _⟩
  | succ calls ih =>
    obtain ⟨hvalue, hitems, hentries⟩ := ih
    refine ⟨fun cs => ?_, fun done cs => ?_, fun frozen done cs => ?_⟩
    · unfold value
      split
      · rename_i rest
        refine ((reads_skipFill _ rest).of_suffix (List.suffix_cons _ _)).bind fun rest => ?_
        split
        · exact .ok (List.suffix_cons _ _)
        · exact (hitems _ _).bind fun _ => .ok List.suffix_rfl
      · rename_i rest
        refine Reads.of_suffix ?_ ((skipSpace_suffix rest).trans (List.suffix_cons _ _))
        split
        · rename_i after hafter
          rw [hafter]
          exact .ok (List.suffix_cons _ _)
        · exact (hentries _ _ _).bind fun _ => .ok List.suffix_rfl
      · exact reads_scalar _
    · -- Behind an item there is a comma or the end of the array.
      unfold arrayItems
      refine (hvalue cs).bind fun (v, rest) => (reads_skipFill _ rest).bind fun rest => ?_
      split
      · exact .ok (List.suffix_cons _ _)
      · refine ((reads_skipFill _ _).of_suffix (List.suffix_cons _ _)).bind fun rest => ?_
        split
        · exact .ok (List.suffix_cons _ _)
        · exact hitems _ _
      · exact .problem _ _
    · -- An entry may only clash with those before it.
      unfold inlineEntries
      refine (reads_keyParts _ _ cs).bind fun (k, rest) => (reads_equals rest).bind fun rest =>
        (hvalue rest).bind fun (v, rest) => ((sparing_addInline _ _ _ _ rest).reads rest).bind
          fun done => Reads.of_suffix ?_ (skipSpace_suffix rest)
      dsimp only
      split
      · rename_i after hafter
        rw [hafter]
        exact .ok (List.suffix_cons _ _)
      · rename_i after hafter
        rw [hafter]
        exact (hentries _ _ _).of_suffix ((skipSpace_suffix after).trans (List.suffix_cons _ _))
      · exact .problem _ _

/-! ## Statements -/

/-- The tables on the way to a key are opened, or there is a clash of keys. -/
theorem sparing_openContainers (s : State) (rest : List Char) (keys : List Key) :
    Sparing (s.openContainers rest keys) := by
  induction keys generalizing s with
  | nil => exact .ok _
  | cons k keys ih =>
    unfold State.openContainers
    split
    · exact .problem _ _
    · exact ih _

/-- Two steps that do not look at digits. -/
theorem Sparing.bind {α β : Type} {r : Except Error α} {f : α → Except Error β} (h : Sparing r)
    (hf : ∀ a, Sparing (f a)) : Sparing (r >>= f) := by
  cases r with
  | error e => exact fun n hn => h n (by cases hn; rfl)
  | ok a => exact hf a

/-- To add a pair is to look at keys only. -/
theorem sparing_addPair (s : State) (k : Key) (v : Value) (rest : List Char) :
    Sparing (s.addPair k v rest) := by
  unfold State.addPair
  refine (sparing_openContainers s rest _).bind fun s' => ?_
  dsimp only
  split
  · exact .problem _ _
  · split
    · exact .problem _ _
    · exact .ok _

/-- A key with its value. -/
theorem reads_pair (s : State) (cs : List Char) : Reads cs Prod.snd (s.pair cs) := by
  unfold State.pair
  exact (reads_keyParts _ _ cs).bind fun (k, rest) => (reads_equals rest).bind fun rest =>
    ((reads_containers s.calls).1 rest).bind fun (v, rest) =>
      ((sparing_addPair s k v rest).reads rest).bind fun _ => .ok List.suffix_rfl

/-- The header of a table. -/
theorem reads_tableHeader (s : State) (cs : List Char) : Reads cs Prod.snd (s.tableHeader cs) := by
  unfold State.tableHeader
  refine ((reads_keyParts _ _ _).of_suffix (skipSpace_suffix cs)).bind fun (k, rest) => ?_
  dsimp only
  split
  · exact .problem _ _
  split
  · exact .problem _ _
  split
  · exact .ok (List.suffix_cons _ _)
  · exact .problem _ _

/-- The header of an element of an array of tables. -/
theorem reads_arrayHeader (s : State) (cs : List Char) : Reads cs Prod.snd (s.arrayHeader cs) := by
  unfold State.arrayHeader
  refine ((reads_keyParts _ _ _).of_suffix (skipSpace_suffix cs)).bind fun (k, rest) => ?_
  dsimp only
  split
  · exact .problem _ _
  split
  · exact .problem _ _
  split
  · exact .ok (List.suffix_append [']', ']'] _)
  · exact .problem _ _

/-- A statement is a pair, a header, a comment or nothing. -/
theorem reads_statement (s : State) (cs : List Char) : Reads cs Prod.snd (s.statement cs) := by
  unfold State.statement
  split
  · exact .ok List.suffix_rfl
  · rename_i c rest
    split
    · exact (reads_pair s _).bind fun (_, rest) => .ok (skipSpace_suffix rest)
    split
    · refine Reads.of_suffix ?_ (List.suffix_cons c rest)
      dsimp only
      split
      · exact ((reads_arrayHeader _ _).of_suffix (List.suffix_cons _ _)).bind
          fun (_, rest) => .ok (skipSpace_suffix rest)
      · exact (reads_tableHeader _ _).bind fun (_, rest) => .ok (skipSpace_suffix rest)
    split
    · exact .ok List.suffix_rfl
    · exact .problem _ _

/-- All statements up to the end of the text. -/
theorem reads_statements (calls : Nat) (s : State) (cs : List Char) :
    Reads cs (fun _ => []) (statements calls s cs) := by
  induction calls generalizing s cs with
  | zero => exact .ok List.nil_suffix
  | succ calls ih =>
    unfold statements
    refine Reads.of_suffix ?_ (skipSpace_suffix cs)
    split
    · exact .ok List.nil_suffix
    · rename_i rest hrest
      rw [hrest]
      exact (ih s rest).of_suffix (List.suffix_cons _ _)
    · refine (reads_statement s _).bind fun (s, rest) =>
        (reads_skipComment rest).bind fun rest => ?_
      split
      · exact .ok List.nil_suffix
      · exact (ih s _).of_suffix (List.suffix_cons _ _)
      · exact .problem _ _

/-- A document that is refused for the digits of a number has them in a row. -/
theorem read_tooManyDigits {cs : List Char} {n : Nat} (h : read cs = .error (.tooManyDigits n)) :
    Text.digitLimit < n ∧ HasDigits n cs := by
  have hreads : Reads cs (fun _ => []) (read cs) := (reads_statements _ _ cs).map fun _ => rfl
  exact hreads.digits n h

end Marginalia.Toml
