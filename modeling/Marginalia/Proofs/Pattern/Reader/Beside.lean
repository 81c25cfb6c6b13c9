import Marginalia.Pattern.Reader
import Marginalia.Proofs.Outcome

/-!
# Two readers side by side

A fragment that stands in a longer text has the tokens it has on its own, at other positions, and
then something follows: nothing, a bar, or a closing parenthesis.  Here two readers read the same
tokens, the right one with such a tail behind them.  Every small reader (of names, numbers, escapes,
classes, bounds and flags) that succeeds on both sides takes the same tokens and returns the same,
because none of them takes a delimiter that is not part of what it reads.

`Both` is the statement form: it says what holds if both computations return, and has one rule for
each way in which readers are put together.  With an empty tail and the same reader on both sides it
also says what one reader leaves alone (`Reader.Moves`).
-/

namespace Marginalia.Pattern

/-! ## Two computations that return -/

/-- If both computations return, what they return is related. -/
def Both {ε α β : Type} (x : Except ε α) (y : Except ε β) (R : α → β → Prop) : Prop :=
  ∀ a b, x = .ok a → y = .ok b → R a b

namespace Both

variable {ε α β γ δ : Type} {x : Except ε α} {y : Except ε β} {R : α → β → Prop}

/-- Two computations that return what is related. -/
theorem ok {a : α} {b : β} (h : R a b) :
    Both (Except.ok a : Except ε α) (Except.ok b : Except ε β) R := by
  rintro _ _ ⟨⟩ ⟨⟩
  exact h

theorem pure {a : α} {b : β} (h : R a b) :
    Both (Pure.pure a : Except ε α) (Pure.pure b : Except ε β) R := ok h

/-- A computation that fails on the left returns nothing to relate. -/
theorem error_left {e : ε} : Both (Except.error e : Except ε α) y R := by
  rintro _ _ ⟨⟩

/-- Nor does one that fails on the right. -/
theorem error_right {e : ε} : Both x (Except.error e : Except ε β) R := by
  rintro _ _ _ ⟨⟩

theorem throw_left {e : ε} : Both (throw e : Except ε α) y R := error_left

theorem throw_right {e : ε} : Both x (throw e : Except ε β) R := error_right

/-- Two steps, one after the other on both sides. -/
theorem bind {f : α → Except ε γ} {g : β → Except ε δ} {S : γ → δ → Prop} (h : Both x y R)
    (hfg : ∀ a b, R a b → Both (f a) (g b) S) : Both (x >>= f) (y >>= g) S := by
  cases x with
  | error e => exact error_left
  | ok a =>
    cases y with
    | error e => exact error_right
    | ok b => exact hfg a b (h a b rfl rfl)

/-- What is made of related values is related. -/
theorem map {f : α → γ} {g : β → δ} {S : γ → δ → Prop} (h : Both x y R)
    (hfg : ∀ a b, R a b → S (f a) (g b)) : Both (x.map f) (y.map g) S := by
  cases x with
  | error e => exact error_left
  | ok a =>
    cases y with
    | error e => exact error_right
    | ok b => exact ok (hfg a b (h a b rfl rfl))

/-- Both sides branch in the same way. -/
theorem ite {c d : Prop} [Decidable c] [Decidable d] {x' : Except ε α} {y' : Except ε β}
    (hcd : c ↔ d) (hpos : c → Both x y R) (hneg : ¬c → Both x' y' R) :
    Both (if c then x else x') (if d then y else y') R := by
  by_cases hc : c
  · rw [if_pos hc, if_pos (hcd.mp hc)]
    exact hpos hc
  · rw [if_neg hc, if_neg (mt hcd.mpr hc)]
    exact hneg hc

end Both

/-! ## Tokens and delimiters -/

/-- What a token is, apart from where it stands. -/
def Token.face (t : Token) : Char × Bool := (t.char, t.escaped)

/-- What may follow a fragment: nothing, a bar, or a closing parenthesis. -/
def Delimits (tail : List (Char × Bool)) : Prop :=
  ∀ x ∈ tail.head?, x = ('|', false) ∨ x = (')', false)

/-- The characters of a kind do not delimit a fragment. -/
def Inner (kind : Char → Bool) : Prop := kind '|' = false ∧ kind ')' = false

namespace Reader

/-- A backslash that escapes nothing is still ahead. -/
def Dangles (r : Reader) : Prop := r.dangling = true ∧ r.rest ≠ []

/-- The second reader has moved on from the first: it may have taken tokens, but not the last one
before a backslash that escapes nothing, and given warnings. -/
structure Moves (r r' : Reader) : Prop where
  groups : r'.groups = r.groups
  names : r'.names = r.names
  floor : r'.floor = r.floor
  tested : r'.tested = r.tested
  globals : r'.globals = r.globals
  dangles : r.Dangles → r'.Dangles

theorem Moves.refl (r : Reader) : r.Moves r := ⟨rfl, rfl, rfl, rfl, rfl, id⟩

/-- A reader that moves on twice has moved on. -/
theorem Moves.trans {r r' r'' : Reader} (h : r.Moves r') (h' : r'.Moves r'') : r.Moves r'' :=
  ⟨h'.groups.trans h.groups, h'.names.trans h.names, h'.floor.trans h.floor,
    h'.tested.trans h.tested, h'.globals.trans h.globals, fun hd => h'.dangles (h.dangles hd)⟩

/-- The readers have moved on from `A₀` and `B₀`, and the right one has the tokens of the left one
ahead and then the tail. -/
structure Beside (tail : List (Char × Bool)) (A₀ B₀ A B : Reader) : Prop where
  rest : B.rest.map Token.face = A.rest.map Token.face ++ tail
  left : A₀.Moves A
  right : B₀.Moves B

/-- The readers return the same and are side by side again. -/
def Like {α : Type} (tail : List (Char × Bool)) (A₀ B₀ : Reader) (p q : α × Reader) : Prop :=
  p.1 = q.1 ∧ Beside tail A₀ B₀ p.2 q.2

section

variable {tail : List (Char × Bool)} {A₀ B₀ A B : Reader}

/-- A token ahead on the left is ahead on the right too, at another position. -/
theorem Beside.cons {t : Token} {ts : List Token} (h : Beside tail A₀ B₀ A B)
    (hA : A.rest = t :: ts) :
    ∃ p us, B.rest = { t with position := p } :: us ∧
      us.map Token.face = ts.map Token.face ++ tail := by
  have hrest := h.rest
  rw [hA, List.map_cons, List.cons_append] at hrest
  cases hB : B.rest with
  | nil =>
    rw [hB] at hrest
    cases hrest
  | cons u us =>
    rw [hB, List.map_cons, List.cons.injEq] at hrest
    obtain ⟨hface, hus⟩ := hrest
    obtain ⟨c, e, p⟩ := u
    cases hface
    exact ⟨p, us, rfl, hus⟩

/-- At the end of the left reader's tokens the right one is at its end or at a delimiter. -/
theorem Beside.nil (hd : Delimits tail) (h : Beside tail A₀ B₀ A B) (hA : A.rest = []) :
    B.rest = [] ∨ ∃ u us, B.rest = u :: us ∧ u.escaped = false ∧ (u.char = '|' ∨ u.char = ')') := by
  have hrest := h.rest
  rw [hA, List.map_nil, List.nil_append] at hrest
  cases hB : B.rest with
  | nil => exact .inl rfl
  | cons u us =>
    rw [hB, List.map_cons] at hrest
    have hhead : u.face ∈ tail.head? := by
      rw [← hrest]
      rfl
    obtain hu | hu := hd _ hhead
    · exact .inr ⟨u, us, rfl, congrArg Prod.snd hu, .inl (congrArg Prod.fst hu)⟩
    · exact .inr ⟨u, us, rfl, congrArg Prod.snd hu, .inr (congrArg Prod.fst hu)⟩

/-- Only the tokens ahead and what is kept matter. -/
theorem Beside.congr {A' B' : Reader} (h : Beside tail A₀ B₀ A B) (hA : A'.rest = A.rest)
    (hB : B'.rest = B.rest) (hA' : A.Moves A') (hB' : B.Moves B') : Beside tail A₀ B₀ A' B' :=
  ⟨by rw [hA, hB, h.rest], h.left.trans hA', h.right.trans hB'⟩

/-- Warnings keep readers side by side. -/
theorem Beside.warn (h : Beside tail A₀ B₀ A B) (v w : Warning) :
    Beside tail A₀ B₀ (A.warn v) (B.warn w) :=
  h.congr rfl rfl ⟨rfl, rfl, rfl, rfl, rfl, id⟩ ⟨rfl, rfl, rfl, rfl, rfl, id⟩

/-! ## One token -/

/-- To advance is to drop the token ahead. -/
theorem advance_of_cons {r r' : Reader} {t : Token} {ts : List Token} (hr : r.rest = t :: ts)
    (h : r.advance = .ok r') : r' = { r with rest := ts } := by
  unfold advance at h
  rw [hr] at h
  cases ts with
  | nil =>
    dsimp only at h
    split at h <;> cases h
    rfl
  | cons u ts =>
    cases h
    rfl

/-- To advance is to move on. -/
private theorem moves_of_advance {r r' : Reader} {t : Token} {ts : List Token}
    (hr : r.rest = t :: ts) (h : r.advance = .ok r') : r.Moves r' := by
  cases ts with
  | cons u ts =>
    rw [advance_of_cons hr h]
    exact ⟨rfl, rfl, rfl, rfl, rfl, fun hd => ⟨hd.1, List.cons_ne_nil u ts⟩⟩
  | nil =>
    have hdangling : r.dangling ≠ true := by
      intro hd
      unfold advance at h
      rw [hr] at h
      simp [hd] at h
    rw [advance_of_cons hr h]
    exact ⟨rfl, rfl, rfl, rfl, rfl, fun hd => absurd hd.1 hdangling⟩

/-- Both readers drop the same token. -/
theorem advance_both (h : Beside tail A₀ B₀ A B) {t : Token} {ts : List Token}
    (hA : A.rest = t :: ts) :
    Both A.advance B.advance fun A' B' => A'.rest = ts ∧ Beside tail A₀ B₀ A' B' := by
  obtain ⟨p, us, hB, hus⟩ := h.cons hA
  intro A' B' hA' hB'
  have hleft := h.left.trans (moves_of_advance hA hA')
  have hright := h.right.trans (moves_of_advance hB hB')
  rw [advance_of_cons hA hA'] at hleft ⊢
  rw [advance_of_cons hB hB'] at hright ⊢
  exact ⟨rfl, hus, hleft, hright⟩

/-- A token that is on the left is the next one on the right too. -/
theorem Beside.nextIs_of_cons (h : Beside tail A₀ B₀ A B) {t : Token} {ts : List Token}
    (hA : A.rest = t :: ts) (c : Char) : B.nextIs c = A.nextIs c := by
  obtain ⟨p, us, hB, -⟩ := h.cons hA
  unfold nextIs
  rw [hA, hB]
  rfl

/-- Both readers see the same ahead, if delimiters are not of the kind. -/
theorem Beside.nextSatisfies (hd : Delimits tail) (h : Beside tail A₀ B₀ A B) {kind : Char → Bool}
    (hk : Inner kind) : B.nextSatisfies kind = A.nextSatisfies kind := by
  unfold Reader.nextSatisfies
  cases hA : A.rest with
  | nil =>
    obtain hB | ⟨u, us, hB, hu, hc⟩ := h.nil hd hA
    · rw [hB]
    · rw [hB]
      rcases hc with hc | hc <;> simp [hu, hc, hk.1, hk.2]
  | cons t ts =>
    obtain ⟨p, us, hB, -⟩ := h.cons hA
    rw [hB]
    rfl

/-- Both readers see a character ahead that is not a delimiter, or neither does. -/
theorem Beside.nextIs (hd : Delimits tail) (h : Beside tail A₀ B₀ A B) {c : Char}
    (hc : Inner (· == c)) : B.nextIs c = A.nextIs c :=
  h.nextSatisfies hd hc

/-- Both readers take the character, or neither does. -/
theorem accept_both (hd : Delimits tail) (h : Beside tail A₀ B₀ A B) {c : Char}
    (hc : Inner (· == c)) : Both (A.accept c) (B.accept c) (Like tail A₀ B₀) := by
  unfold accept
  refine Both.ite (by rw [h.nextIs hd hc]) (fun hnext => ?_) fun _ => .ok ⟨rfl, h⟩
  cases hA : A.rest with
  | nil => simp [Reader.nextIs, hA] at hnext
  | cons t ts => exact (advance_both h hA).bind fun A' B' h' => .pure ⟨rfl, h'.2⟩

/-! ## Runs of tokens -/

/-- Where the left reader is at its end, the right one takes nothing. -/
private theorem takeWhile_of_nil (hd : Delimits tail) {kind : Char → Bool} (hk : Inner kind)
    (h : Beside tail A₀ B₀ A B) (hA : A.rest = []) (limit : Nat) :
    takeWhile kind limit B = .ok ([], B) := by
  cases limit with
  | zero => rfl
  | succ limit =>
    unfold takeWhile
    obtain hB | ⟨u, us, hB, hu, hc⟩ := h.nil hd hA
    · rw [hB]
    · rw [hB]
      rcases hc with hc | hc <;> simp [hu, hc, hk.1, hk.2]

/-- A limit that is not the same on both sides has to be beyond the tokens on the left. -/
theorem takeWhile_both (hd : Delimits tail) {kind : Char → Bool} (hk : Inner kind)
    (h : Beside tail A₀ B₀ A B) {left right : Nat}
    (hlimit : left = right ∨ A.rest.length ≤ left ∧ A.rest.length ≤ right) :
    Both (takeWhile kind left A) (takeWhile kind right B) (Like tail A₀ B₀) := by
  induction left generalizing A B right with
  | zero =>
    have hright : takeWhile kind right B = .ok ([], B) := by
      rcases hlimit with rfl | hlimit
      · rfl
      · exact takeWhile_of_nil hd hk h (List.length_eq_zero_iff.mp (by omega)) right
    rw [hright]
    exact .ok ⟨rfl, h⟩
  | succ left ih =>
    cases hA : A.rest with
    | nil =>
      rw [takeWhile_of_nil hd hk h hA right]
      unfold takeWhile
      rw [hA]
      exact .ok ⟨rfl, h⟩
    | cons t ts =>
      obtain ⟨p, us, hB, -⟩ := h.cons hA
      obtain ⟨right, rfl⟩ : ∃ n, right = n + 1 := by
        rw [hA, List.length_cons] at hlimit
        exact ⟨right - 1, by omega⟩
      unfold takeWhile
      rw [hA, hB]
      refine Both.ite Iff.rfl (fun _ => (advance_both h hA).bind ?_) fun _ => .ok ⟨rfl, h⟩
      rintro A' B' ⟨hA', h'⟩
      -- Limits stay equal, or stay out of reach.
      have hlimit' : left = right ∨ A'.rest.length ≤ left ∧ A'.rest.length ≤ right := by
        rw [hA, List.length_cons] at hlimit
        rw [hA']
        omega
      refine (ih h' hlimit').bind ?_
      rintro ⟨cs, A''⟩ ⟨_, B''⟩ ⟨rfl, h''⟩
      exact .pure ⟨rfl, h''⟩

/-- Both readers take the same characters up to a stop. -/
theorem takeName_both (stop : Char) (what : String) (left right : Nat) (done : List Char)
    (h : Beside tail A₀ B₀ A B) :
    Both (takeName stop what left done A) (takeName stop what right done B)
      (Like tail A₀ B₀) := by
  induction left generalizing A B right done with
  | zero => exact .error_left
  | succ left ih =>
    cases right with
    | zero => exact .error_right
    | succ right =>
      unfold takeName
      cases hA : A.rest with
      | nil =>
        dsimp only
        split <;> exact .error_left
      | cons t ts =>
        obtain ⟨p, us, hB, -⟩ := h.cons hA
        rw [hB]
        refine (advance_both h hA).bind fun A' B' h' => ?_
        refine Both.ite Iff.rfl (fun _ => ?_) fun _ => ih right _ h'.2
        exact Both.ite Iff.rfl (fun _ => .throw_left) fun _ => .pure ⟨rfl, h'.2⟩

/-- Both readers read the same name. -/
theorem name_both (stop : Char) (what : String) (h : Beside tail A₀ B₀ A B) :
    Both (A.name stop what) (B.name stop what) (Like tail A₀ B₀) :=
  takeName_both stop what _ _ [] h

/-! ## Escapes -/

/-- The same escape by its hexadecimal digits. -/
theorem hexEscape_both (hd : Delimits tail) (h : Beside tail A₀ B₀ A B) (t : Token) (p : Nat)
    (digits : Nat) :
    Both (hexEscape t digits A) (hexEscape { t with position := p } digits B)
      (Like tail A₀ B₀) := by
  simp only [hexEscape, throw_bind]
  refine (takeWhile_both hd ⟨rfl, rfl⟩ h (.inl rfl)).bind ?_
  rintro ⟨ds, A'⟩ ⟨_, B'⟩ ⟨rfl, h'⟩
  refine Both.ite Iff.rfl (fun _ => .throw_left) fun _ => ?_
  refine Both.ite Iff.rfl (fun _ => .throw_left) fun _ => ?_
  exact Both.ite Iff.rfl (fun _ => .throw_left) fun _ => .pure ⟨rfl, h'⟩

/-- The same escape by the name of a character. -/
theorem namedEscape_both (hd : Delimits tail) (h : Beside tail A₀ B₀ A B) (t : Token) (p : Nat) :
    Both (namedEscape t A) (namedEscape { t with position := p } B) (Like tail A₀ B₀) := by
  simp only [namedEscape, throw_bind]
  refine (accept_both hd h ⟨rfl, rfl⟩).bind ?_
  rintro ⟨found, A'⟩ ⟨_, B'⟩ ⟨rfl, h'⟩
  refine Both.ite Iff.rfl (fun _ => .throw_left) fun _ => ?_
  refine (name_both _ _ h').bind ?_
  rintro ⟨cs, A''⟩ ⟨_, B''⟩ ⟨rfl, h''⟩
  dsimp only
  split
  · exact .pure ⟨rfl, h''⟩
  · exact .throw_left

/-- The same escape by a code, or none on either side. -/
theorem codeEscape?_both (hd : Delimits tail) (h : Beside tail A₀ B₀ A B) (t : Token) (p : Nat) :
    (codeEscape? t A = none ∧ codeEscape? { t with position := p } B = none) ∨
      ∃ x y, codeEscape? t A = some x ∧ codeEscape? { t with position := p } B = some y ∧
        Both x y (Like tail A₀ B₀) := by
  unfold codeEscape?
  dsimp only
  split
  · exact .inr ⟨_, _, rfl, rfl, hexEscape_both hd h t p 2⟩
  · exact .inr ⟨_, _, rfl, rfl, hexEscape_both hd h t p 4⟩
  · exact .inr ⟨_, _, rfl, rfl, hexEscape_both hd h t p 8⟩
  · exact .inr ⟨_, _, rfl, rfl, namedEscape_both hd h t p⟩
  · exact .inl ⟨rfl, rfl⟩

/-- The same escape by a letter. -/
theorem plainEscape_both (h : Beside tail A₀ B₀ A B) (t : Token) (p : Nat) :
    Both (plainEscape t A) (plainEscape { t with position := p } B) (Like tail A₀ B₀) := by
  unfold plainEscape
  exact Both.ite Iff.rfl (fun _ => .error_left) fun _ => .ok ⟨rfl, h⟩

/-- The same octal escape in a class. -/
theorem classOctal_both (hd : Delimits tail) (h : Beside tail A₀ B₀ A B) (t : Token) (p : Nat) :
    Both (classOctal t A) (classOctal { t with position := p } B) (Like tail A₀ B₀) := by
  simp only [classOctal, throw_bind]
  refine (takeWhile_both hd ⟨rfl, rfl⟩ h (.inl rfl)).bind ?_
  rintro ⟨ds, A'⟩ ⟨_, B'⟩ ⟨rfl, h'⟩
  exact Both.ite Iff.rfl (fun _ => .throw_left) fun _ => .pure ⟨rfl, h'⟩

/-- Giving a result another form keeps readers side by side. -/
private theorem Like.map {α β : Type} (f : α → β) {p q : α × Reader}
    (h : Like tail A₀ B₀ p q) : Like tail A₀ B₀ (f p.1, p.2) (f q.1, q.2) :=
  ⟨congrArg f h.1, h.2⟩

/-- The same escape in a class. -/
theorem classEscape_both (hd : Delimits tail) (h : Beside tail A₀ B₀ A B) (t : Token) (p : Nat) :
    Both (classEscape t A) (classEscape { t with position := p } B) (Like tail A₀ B₀) := by
  unfold classEscape
  dsimp only
  refine Both.ite Iff.rfl (fun _ => .ok ⟨rfl, h⟩) fun _ => ?_
  split
  · exact .ok ⟨rfl, h⟩
  · split
    · exact .ok ⟨rfl, h⟩
    · obtain ⟨hA, hB⟩ | ⟨x, y, hA, hB, hxy⟩ := codeEscape?_both hd h t p
      · rw [hA, hB]
        refine Both.ite Iff.rfl (fun _ => ?_) fun _ => ?_
        · exact (classOctal_both hd h t p).map fun _ _ => .map ClassItem.char
        · refine Both.ite Iff.rfl (fun _ => .error_left) fun _ => ?_
          exact (plainEscape_both h t p).map fun _ _ => .map ClassItem.char
      · rw [hA, hB]
        exact hxy.map fun _ _ => .map ClassItem.char

/-- A reference by number is to a group that is closed, whatever stands around it. -/
theorem reference_ok {t : Token} {ds : List Char} {r r' : Reader} {n : Node}
    (h : reference t ds r = .ok (n, r')) :
    n = .backref (Text.numeral 10 ds) ∧ r' = r ∧ r.isClosed (Text.numeral 10 ds) = true := by
  simp only [reference, throw_bind] at h
  split at h
  · split at h
    · cases h
    · rename_i hclosed
      obtain ⟨_, -, h⟩ := bind_eq_ok.mp h
      cases h
      exact ⟨rfl, rfl, by simpa using hclosed⟩
  · cases h

/-- The same reference to a group by its number. -/
theorem reference_both (h : Beside tail A₀ B₀ A B) (t u : Token) (ds : List Char) :
    Both (reference t ds A) (reference u ds B) (Like tail A₀ B₀) := by
  rintro ⟨n, A'⟩ ⟨n', B'⟩ hA hB
  obtain ⟨rfl, rfl, -⟩ := reference_ok hA
  obtain ⟨rfl, rfl, -⟩ := reference_ok hB
  exact ⟨rfl, h⟩

/-- The same octal escape or reference. -/
theorem digitEscape_both (hd : Delimits tail) (h : Beside tail A₀ B₀ A B) (t : Token) (p : Nat) :
    Both (digitEscape t A) (digitEscape { t with position := p } B) (Like tail A₀ B₀) := by
  simp only [digitEscape, throw_bind]
  refine Both.ite Iff.rfl (fun _ => ?_) fun _ => ?_
  · refine (takeWhile_both hd ⟨rfl, rfl⟩ h (.inl rfl)).bind ?_
    rintro ⟨ds, A'⟩ ⟨_, B'⟩ ⟨rfl, h'⟩
    exact .pure ⟨rfl, h'⟩
  · refine (takeWhile_both hd ⟨rfl, rfl⟩ h (.inl rfl)).bind ?_
    rintro ⟨second, A'⟩ ⟨_, B'⟩ ⟨rfl, h'⟩
    refine Both.ite (by rw [h'.nextSatisfies hd ⟨rfl, rfl⟩]) (fun _ => ?_) fun _ => ?_
    · refine (takeWhile_both hd ⟨rfl, rfl⟩ h' (.inl rfl)).bind ?_
      rintro ⟨third, A''⟩ ⟨_, B''⟩ ⟨rfl, h''⟩
      exact Both.ite Iff.rfl (fun _ => .throw_left) fun _ => .pure ⟨rfl, h''⟩
    · exact reference_both h' _ _ _

/-- The same escape outside a class. -/
theorem escape_both (hd : Delimits tail) (h : Beside tail A₀ B₀ A B) (t : Token) (p : Nat) :
    Both (escape t A) (escape { t with position := p } B) (Like tail A₀ B₀) := by
  unfold escape
  dsimp only
  split
  · exact .ok ⟨rfl, h⟩
  · split
    · exact .ok ⟨rfl, h⟩
    · split
      · exact .ok ⟨rfl, h⟩
      · obtain ⟨hA, hB⟩ | ⟨x, y, hA, hB, hxy⟩ := codeEscape?_both hd h t p
        · rw [hA, hB]
          refine Both.ite Iff.rfl (fun _ => digitEscape_both hd h t p) fun _ => ?_
          exact (plainEscape_both h t p).map fun _ _ => .map fun n => Node.single (.literal n)
        · rw [hA, hB]
          exact hxy.map fun _ _ => .map fun n => Node.single (.literal n)

/-! ## Bracketed classes -/

/-- The same member of a class. -/
theorem classMember_both (hd : Delimits tail) (h : Beside tail A₀ B₀ A B) (t : Token) (p : Nat) :
    Both (classMember t A) (classMember { t with position := p } B) (Like tail A₀ B₀) := by
  unfold classMember
  exact Both.ite Iff.rfl (fun _ => classEscape_both hd h t p) fun _ => .ok ⟨rfl, h⟩

/-- Warnings about set operations keep readers side by side. -/
private theorem Beside.warnOperation (h : Beside tail A₀ B₀ A B) (t u : Token) :
    Beside tail A₀ B₀ (A.warnOperation t) (B.warnOperation u) := by
  unfold Reader.warnOperation
  refine h.congr ?_ ?_ ?_ ?_ <;> split <;> first | rfl | exact ⟨rfl, rfl, rfl, rfl, rfl, id⟩

/-- The same items of a class, by induction on the calls of the left reader. -/
theorem classItems_both (hd : Delimits tail) (start start' left right : Nat)
    (done : List ClassItem) (h : Beside tail A₀ B₀ A B) :
    Both (classItems start left done A) (classItems start' right done B) (Like tail A₀ B₀) := by
  induction left generalizing A B right done with
  | zero => exact .error_left
  | succ left ih =>
    cases right with
    | zero => exact .error_right
    | succ right =>
      simp only [classItems]
      cases hA : A.rest with
      | nil => exact .error_left
      | cons t ts =>
        obtain ⟨p, us, hB, -⟩ := h.cons hA
        rw [hB]
        refine (advance_both h hA).bind ?_
        rintro A₁ B₁ ⟨-, h₁⟩
        refine Both.ite Iff.rfl (fun _ => .pure ⟨rfl, h₁⟩) fun _ => ?_
        -- Warnings name positions, and these differ.
        have hwarned : Beside tail A₀ B₀ (if done.isEmpty then A₁ else A₁.warnOperation t)
            (if done.isEmpty then B₁ else B₁.warnOperation { t with position := p }) := by
          split
          · exact h₁
          · exact h₁.warnOperation _ _
        refine (classMember_both hd hwarned t p).bind ?_
        rintro ⟨item, A₂⟩ ⟨_, B₂⟩ ⟨rfl, h₂⟩
        refine (accept_both hd h₂ ⟨rfl, rfl⟩).bind ?_
        rintro ⟨dash, A₃⟩ ⟨_, B₃⟩ ⟨rfl, h₃⟩
        refine Both.ite Iff.rfl (fun _ => ih right _ h₃) fun _ => ?_
        dsimp only
        -- Behind a dash the class ends, or a range does.
        cases hA₃ : A₃.rest with
        | nil => exact .throw_left
        | cons u us₃ =>
          obtain ⟨q, vs, hB₃, -⟩ := h₃.cons hA₃
          rw [hB₃]
          refine (advance_both h₃ hA₃).bind ?_
          rintro A₄ B₄ ⟨-, h₄⟩
          refine Both.ite Iff.rfl (fun _ => .pure ⟨rfl, h₄⟩) fun _ => ?_
          have hwarned₄ : Beside tail A₀ B₀
              (if u.is '-' then A₄.warn (.setOperation '-' (A₄.tell - 2)) else A₄)
              (if u.is '-' then B₄.warn (.setOperation '-' (B₄.tell - 2)) else B₄) := by
            split
            · exact h₄.warn _ _
            · exact h₄
          refine (classMember_both hd hwarned₄ u q).bind ?_
          rintro ⟨last, A₅⟩ ⟨_, B₅⟩ ⟨rfl, h₅⟩
          dsimp only
          split
          · exact Both.ite Iff.rfl (fun _ => .throw_left) fun _ => ih right _ h₅
          · exact .throw_left

/-- The same class. -/
theorem charClass_both (hd : Delimits tail) (start start' : Nat) (h : Beside tail A₀ B₀ A B) :
    Both (charClass start A) (charClass start' B) (Like tail A₀ B₀) := by
  simp only [charClass]
  have hwarned : Beside tail A₀ B₀ (if A.nextIs '[' then A.warn (.nestedSet A.tell) else A)
      (if B.nextIs '[' then B.warn (.nestedSet B.tell) else B) := by
    rw [h.nextIs hd ⟨rfl, rfl⟩]
    split
    · exact h.warn _ _
    · exact h
  refine (accept_both hd hwarned ⟨rfl, rfl⟩).bind ?_
  rintro ⟨negated, A₁⟩ ⟨_, B₁⟩ ⟨rfl, h₁⟩
  refine (classItems_both hd start start' _ _ [] h₁).bind ?_
  rintro ⟨items, A₂⟩ ⟨_, B₂⟩ ⟨rfl, h₂⟩
  exact .pure ⟨rfl, h₂⟩

/-! ## Repeats -/

/-- The same number of repeats. -/
theorem repeatCount_both (ds : List Char) (A B : Reader) :
    Both (repeatCount ds A) (repeatCount ds B) Eq := by
  unfold repeatCount
  refine Both.ite Iff.rfl (fun _ => .error_left) fun _ => ?_
  exact Both.ite Iff.rfl (fun _ => .error_left) fun _ => .ok rfl

/-- The bounds with the digits of the greatest number. -/
def boundsWith (hi : List Char) (least start : Nat) (r : Reader) :
    Except Rejection (Option (Nat × Option Nat) × Reader) :=
  if hi.isEmpty then pure (some (least, none), r)
  else do
    let most ← repeatCount hi r
    if most < least then throw (r.faultAt .repeatBounds start)
    else pure (some (least, some most), r)

/-- The closing brace, and the bounds with the digits before it. -/
def boundsEnd (lo hi : List Char) (start r : Reader) :
    Except Rejection (Option (Nat × Option Nat) × Reader) := do
  let (closed, r) ← r.accept '\x7d'
  if !closed then pure (none, start)
  else if lo.isEmpty then boundsWith hi 0 start.tell r
  else do boundsWith hi (← repeatCount lo r) start.tell r

/-- Bounds are read digits first, and then what follows them. -/
theorem bounds_eq (r : Reader) : r.bounds =
    (if r.nextIs '\x7d' then pure (none, r)
    else do
      let (lo, r₁) ← takeWhile (Text.isAsciiDigit ·.toNat) r.rest.length r
      let (comma, r₂) ← r₁.accept ','
      if comma then do
        let (hi, r₃) ← takeWhile (Text.isAsciiDigit ·.toNat) r₂.rest.length r₂
        boundsEnd lo hi r r₃
      else boundsEnd lo lo r r₂) := by
  simp only [bounds, boundsEnd, boundsWith, throw_bind, pure_bind]

/-- The same bounds, once both numbers are known. -/
private theorem boundsWith_both (h : Beside tail A₀ B₀ A B) (hi : List Char)
    (least start start' : Nat) :
    Both (boundsWith hi least start A) (boundsWith hi least start' B) (Like tail A₀ B₀) := by
  unfold boundsWith
  refine Both.ite Iff.rfl (fun _ => .pure ⟨rfl, h⟩) fun _ => ?_
  refine (repeatCount_both hi A B).bind ?_
  rintro most _ rfl
  exact Both.ite Iff.rfl (fun _ => .throw_left) fun _ => .pure ⟨rfl, h⟩

/-- The same bounds from the closing brace on, or no bounds on either side. -/
private theorem boundsEnd_both (hd : Delimits tail) {A' B' : Reader} (h : Beside tail A₀ B₀ A B)
    (h' : Beside tail A₀ B₀ A' B') (lo hi : List Char) :
    Both (boundsEnd lo hi A A') (boundsEnd lo hi B B') (Like tail A₀ B₀) := by
  unfold boundsEnd
  refine (accept_both hd h' ⟨rfl, rfl⟩).bind ?_
  rintro ⟨closed, A₁⟩ ⟨_, B₁⟩ ⟨rfl, h₁⟩
  refine Both.ite Iff.rfl (fun _ => .pure ⟨rfl, h⟩) fun _ => ?_
  refine Both.ite Iff.rfl (fun _ => boundsWith_both h₁ hi 0 _ _) fun _ => ?_
  refine (repeatCount_both lo A₁ B₁).bind ?_
  rintro least _ rfl
  exact boundsWith_both h₁ hi least _ _

/-- The same bounds between braces. -/
theorem bounds_both (hd : Delimits tail) (h : Beside tail A₀ B₀ A B) :
    Both A.bounds B.bounds (Like tail A₀ B₀) := by
  have hlength : ∀ {A B : Reader}, Beside tail A₀ B₀ A B → A.rest.length ≤ B.rest.length := by
    intro A B h
    have := congrArg List.length h.rest
    simp only [List.length_map, List.length_append] at this
    omega
  rw [bounds_eq, bounds_eq]
  refine Both.ite (by rw [h.nextIs hd ⟨rfl, rfl⟩]) (fun _ => .pure ⟨rfl, h⟩) fun _ => ?_
  refine (takeWhile_both hd ⟨rfl, rfl⟩ h (.inr ⟨Nat.le_refl _, hlength h⟩)).bind ?_
  rintro ⟨lo, A₁⟩ ⟨_, B₁⟩ ⟨rfl, h₁⟩
  refine (accept_both hd h₁ ⟨rfl, rfl⟩).bind ?_
  rintro ⟨comma, A₂⟩ ⟨_, B₂⟩ ⟨rfl, h₂⟩
  refine Both.ite Iff.rfl (fun _ => ?_) fun _ => boundsEnd_both hd h h₂ _ _
  refine (takeWhile_both hd ⟨rfl, rfl⟩ h₂ (.inr ⟨Nat.le_refl _, hlength h₂⟩)).bind ?_
  rintro ⟨hi, A₃⟩ ⟨_, B₃⟩ ⟨rfl, h₃⟩
  exact boundsEnd_both hd h h₃ _ _

/-- The same bounds by a sign. -/
theorem repeatBounds_both (hd : Delimits tail) (sign : Char) (h : Beside tail A₀ B₀ A B) :
    Both (repeatBounds sign A) (repeatBounds sign B) (Like tail A₀ B₀) := by
  unfold repeatBounds
  split
  · exact .ok ⟨rfl, h⟩
  · exact .ok ⟨rfl, h⟩
  · exact .ok ⟨rfl, h⟩
  · exact bounds_both hd h

/-- The same greed behind the bounds. -/
theorem greed_both (hd : Delimits tail) (h : Beside tail A₀ B₀ A B) :
    Both A.greed B.greed (Like tail A₀ B₀) := by
  simp only [greed]
  refine (accept_both hd h ⟨rfl, rfl⟩).bind ?_
  rintro ⟨found, A₁⟩ ⟨_, B₁⟩ ⟨rfl, h₁⟩
  refine Both.ite Iff.rfl (fun _ => .pure ⟨rfl, h₁⟩) fun _ => ?_
  refine (accept_both hd h₁ ⟨rfl, rfl⟩).bind ?_
  rintro ⟨found', A₂⟩ ⟨_, B₂⟩ ⟨rfl, h₂⟩
  exact .pure ⟨rfl, h₂⟩

/-! ## Flags -/

/-- The same flags that are switched on. -/
theorem flagsOn_both (left right : Nat) (c : Char) (done : List Char)
    (h : Beside tail A₀ B₀ A B) :
    Both (flagsOn left c done A) (flagsOn right c done B) (Like tail A₀ B₀) := by
  induction left generalizing A B right c done with
  | zero => exact .error_left
  | succ left ih =>
    cases right with
    | zero => exact .error_right
    | succ right =>
      simp only [flagsOn, throw_bind]
      refine Both.ite Iff.rfl (fun _ => .throw_left) fun _ => ?_
      refine Both.ite Iff.rfl (fun _ => .throw_left) fun _ => ?_
      cases hA : A.rest with
      | nil => exact .throw_left
      | cons t ts =>
        obtain ⟨p, us, hB, -⟩ := h.cons hA
        rw [hB]
        refine (advance_both h hA).bind ?_
        rintro A₁ B₁ ⟨-, h₁⟩
        refine Both.ite Iff.rfl (fun _ => .pure ⟨rfl, h₁⟩) fun _ => ?_
        exact Both.ite Iff.rfl (fun _ => .throw_left) fun _ => ih right _ _ h₁

/-- The same flags that are switched off. -/
theorem flagsOff_both (left right : Nat) (c : Char) (done : List Char)
    (h : Beside tail A₀ B₀ A B) :
    Both (flagsOff left c done A) (flagsOff right c done B) (Like tail A₀ B₀) := by
  induction left generalizing A B right c done with
  | zero => exact .error_left
  | succ left ih =>
    cases right with
    | zero => exact .error_right
    | succ right =>
      simp only [flagsOff, throw_bind]
      refine Both.ite Iff.rfl (fun _ => .throw_left) fun _ => ?_
      cases hA : A.rest with
      | nil => exact .throw_left
      | cons t ts =>
        obtain ⟨p, us, hB, -⟩ := h.cons hA
        rw [hB]
        refine (advance_both h hA).bind ?_
        rintro A₁ B₁ ⟨-, h₁⟩
        refine Both.ite Iff.rfl (fun _ => .pure ⟨rfl, h₁⟩) fun _ => ?_
        exact Both.ite Iff.rfl (fun _ => .throw_left) fun _ => ih right _ _ h₁

/-- What the flags that are switched on come to, with the token that ends them. -/
def flagsFrom (calls : Nat) (on : List Char) (stop : Char) (r : Reader) :
    Except Rejection (Option (List Char × List Char) × Reader) :=
  if stop == ')' then pure (none, { r with globals := r.globals ++ on })
  else if on.contains 't' then throw (r.faultAt .globalFlagOn (r.tell - 1))
  else if stop == ':' then pure (some (on, []), r)
  else match r.rest with
    | [] => throw (r.fault .missingFlag)
    | t :: _ => do
      let r ← r.advance
      if t.escaped || !isFlag t.char then throw (notFlag r t .missingFlag)
      else do
        let (off, r) ← flagsOff calls t.char [] r
        if off.contains 't' then throw (r.faultAt .globalFlagOff (r.tell - 1))
        else if on.any off.contains then throw (r.faultAt .flagOnAndOff (r.tell - 1))
        else pure (some (on, off), r)

/-- Flags are those switched on first, and then what follows them. -/
theorem flags_eq (c : Char) (r : Reader) : flags c r =
    (if c == '-' then flagsFrom (r.rest.length + 1) [] '-' r
    else do
      let ((on, stop), r') ← flagsOn (r.rest.length + 1) c [] r
      flagsFrom (r.rest.length + 1) on stop r') := by
  unfold flags
  split
  · rfl
  · rfl

/-- The flags of a group keep readers side by side.  Global flags are the one thing that is not
kept. -/
def LikeFlags (tail : List (Char × Bool)) (A₀ B₀ : Reader)
    (p q : Option (List Char × List Char) × Reader) : Prop :=
  p.1 = q.1 ∧ A₀.Moves { p.2 with globals := A₀.globals } ∧
    (p.1 ≠ none → Beside tail A₀ B₀ p.2 q.2)

/-- Readers that are side by side are so for flags too. -/
private theorem Beside.likeFlags (h : Beside tail A₀ B₀ A B)
    (scope : Option (List Char × List Char)) : LikeFlags tail A₀ B₀ (scope, A) (scope, B) :=
  ⟨rfl, ⟨h.left.groups, h.left.names, h.left.floor, h.left.tested, rfl, h.left.dangles⟩, fun _ => h⟩

/-- The same flags from their stop on. -/
private theorem flagsFrom_both (left right : Nat) (on : List Char) (stop : Char)
    (h : Beside tail A₀ B₀ A B) :
    Both (flagsFrom left on stop A) (flagsFrom right on stop B) (LikeFlags tail A₀ B₀) := by
  unfold flagsFrom
  refine Both.ite Iff.rfl (fun _ => .pure ?_) fun _ => ?_
  · exact ⟨rfl, (h.likeFlags none).2.1, fun hne => absurd rfl hne⟩
  refine Both.ite Iff.rfl (fun _ => .throw_left) fun _ => ?_
  refine Both.ite Iff.rfl (fun _ => .pure (h.likeFlags _)) fun _ => ?_
  cases hA : A.rest with
  | nil => exact .throw_left
  | cons t ts =>
    obtain ⟨p, us, hB, -⟩ := h.cons hA
    rw [hB]
    refine (advance_both h hA).bind ?_
    rintro A₁ B₁ ⟨-, h₁⟩
    refine Both.ite Iff.rfl (fun _ => .throw_left) fun _ => ?_
    refine (flagsOff_both _ _ t.char [] h₁).bind ?_
    rintro ⟨off, A₂⟩ ⟨_, B₂⟩ ⟨rfl, h₂⟩
    refine Both.ite Iff.rfl (fun _ => .throw_left) fun _ => ?_
    exact Both.ite Iff.rfl (fun _ => .throw_left) fun _ => .pure (h₂.likeFlags _)

/-- The same flags of a group. -/
theorem flags_both (c : Char) (h : Beside tail A₀ B₀ A B) :
    Both (flags c A) (flags c B) (LikeFlags tail A₀ B₀) := by
  rw [flags_eq, flags_eq]
  refine Both.ite Iff.rfl (fun _ => flagsFrom_both _ _ [] '-' h) fun _ => ?_
  refine (flagsOn_both _ _ c [] h).bind ?_
  rintro ⟨⟨on, stop⟩, A₁⟩ ⟨_, B₁⟩ ⟨rfl, h₁⟩
  exact flagsFrom_both _ _ on stop h₁

/-! ## Openings and ends of groups -/

/-- Both readers skip a comment. -/
theorem skipComment_both (start start' left right : Nat) (h : Beside tail A₀ B₀ A B) :
    Both (skipComment start left A) (skipComment start' right B) (Beside tail A₀ B₀) := by
  induction left generalizing A B right with
  | zero => exact .error_left
  | succ left ih =>
    cases right with
    | zero => exact .error_right
    | succ right =>
      unfold skipComment
      cases hA : A.rest with
      | nil => exact .error_left
      | cons t ts =>
        obtain ⟨p, us, hB, -⟩ := h.cons hA
        rw [hB]
        refine (advance_both h hA).bind ?_
        rintro A₁ B₁ ⟨-, h₁⟩
        exact Both.ite Iff.rfl (fun _ => .pure h₁) fun _ => ih right h₁

/-- Both readers take the same token. -/
theorem take_both (h : Beside tail A₀ B₀ A B) :
    Both A.take B.take fun p q =>
      ∃ position, q.1 = { p.1 with position } ∧ Beside tail A₀ B₀ p.2 q.2 := by
  unfold take
  cases hA : A.rest with
  | nil => exact .throw_left
  | cons t ts =>
    obtain ⟨p, us, hB, -⟩ := h.cons hA
    rw [hB]
    refine (advance_both h hA).bind ?_
    rintro A₁ B₁ ⟨-, h₁⟩
    exact .pure ⟨p, rfl, h₁⟩

/-- Both readers find the same behind a less-than sign. -/
theorem lookbehind_both (h : Beside tail A₀ B₀ A B) :
    Both A.lookbehind B.lookbehind (Like tail A₀ B₀) := by
  simp only [lookbehind]
  refine (take_both h).bind ?_
  rintro ⟨t, A₁⟩ ⟨_, B₁⟩ ⟨p, rfl, h₁⟩
  refine Both.ite Iff.rfl (fun _ => .pure ⟨rfl, h₁⟩) fun _ => ?_
  exact Both.ite Iff.rfl (fun _ => .pure ⟨rfl, h₁⟩) fun _ => .throw_left

/-- A group closes on the left only at a parenthesis that is there. -/
theorem close_both (start start' : Nat) (h : Beside tail A₀ B₀ A B) :
    Both (A.close start) (B.close start') (Beside tail A₀ B₀) := by
  simp only [close, accept]
  cases hA : A.rest with
  | nil =>
    have hnext : A.nextIs ')' = false := by simp [Reader.nextIs, hA]
    rw [hnext]
    exact .throw_left
  | cons t ts =>
    rw [h.nextIs_of_cons hA]
    cases A.nextIs ')' with
    | false => exact .throw_left
    | true =>
      refine Both.bind ((advance_both h hA).bind fun A₁ B₁ h₁ => .pure (R := Like tail A₀ B₀) ?_) ?_
      · exact ⟨rfl, h₁.2⟩
      · rintro ⟨_, A₁⟩ ⟨_, B₁⟩ ⟨rfl, h₁⟩
        exact Both.ite Iff.rfl (fun _ => .pure h₁) fun _ => .throw_left

/-- The rest of a line may go beyond the end of the left reader's tokens. -/
theorem skipLine_both {left right : Nat} (h : Beside tail A₀ B₀ A B)
    (hleft : A.rest.length ≤ left) (hright : B.rest.length ≤ right) :
    Both (skipLine left A) (skipLine right B) fun A' B' =>
      A'.rest = [] ∧ A₀.Moves A' ∨ Beside tail A₀ B₀ A' B' := by
  induction left generalizing A B right with
  | zero =>
    rintro A' B' ⟨⟩ -
    exact .inl ⟨List.length_eq_zero_iff.mp (Nat.le_zero.mp hleft), h.left⟩
  | succ left ih =>
    cases hA : A.rest with
    | nil =>
      unfold skipLine
      rw [hA]
      rintro A' B' ⟨⟩ -
      exact .inl ⟨hA, h.left⟩
    | cons t ts =>
      obtain ⟨p, us, hB, hus⟩ := h.cons hA
      obtain ⟨right, rfl⟩ : ∃ n, right = n + 1 := by
        rw [hB, List.length_cons] at hright
        exact ⟨right - 1, by omega⟩
      unfold skipLine
      rw [hA, hB]
      refine (advance_both h hA).bind ?_
      rintro A₁ B₁ ⟨hA₁, h₁⟩
      refine Both.ite Iff.rfl (fun _ => .pure (.inr h₁)) fun _ => ih h₁ ?_ ?_
      · rw [hA, List.length_cons] at hleft
        rw [hA₁]
        omega
      · have hlength := congrArg List.length h₁.rest
        have hlength' := congrArg List.length hus
        simp only [List.length_map, List.length_append] at hlength hlength'
        rw [hB, List.length_cons] at hright
        rw [hA₁] at hlength
        omega

end

end Reader

end Marginalia.Pattern
