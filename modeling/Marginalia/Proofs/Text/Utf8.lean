import Marginalia.Text.Utf8

/-!
# Bytes that are a text

`Text.decode` reads exactly the bytes that some text is encoded as, and reads that text
(`decode_eq_ok_iff`).  The bounds of the bytes that may follow a start byte are what makes it exact:
they leave one form for each character, and none for a number that is no character.
-/

namespace Marginalia.Text

/-- The bytes of a text in the UTF-8 encoding. -/
def utf8 (cs : List Char) : List UInt8 := cs.flatMap String.utf8EncodeChar

@[simp] theorem utf8_cons (c : Char) (cs : List Char) :
    utf8 (c :: cs) = String.utf8EncodeChar c ++ utf8 cs := rfl

/-! ## One character -/

/-- The bytes that stand for a number: one to four of them, within bounds that leave one form for
each number, and none for a number that is no character. -/
inductive Form : List UInt8 → Nat → Prop
  | one {a : UInt8} (ha : a.toNat < 0x80) : Form [a] a.toNat
  | two {a b : UInt8} (ha : 0xc2 ≤ a.toNat ∧ a.toNat < 0xe0)
      (hb : 0x80 ≤ b.toNat ∧ b.toNat ≤ 0xbf) : Form [a, b] ((a.toNat - 0xc0) * 64 + b.toNat % 64)
  | three {a b c : UInt8} (ha : 0xe0 ≤ a.toNat ∧ a.toNat < 0xf0)
      (hb : 0x80 ≤ b.toNat ∧ b.toNat ≤ 0xbf) (hlong : a.toNat = 0xe0 → 0xa0 ≤ b.toNat)
      (hsurrogate : a.toNat = 0xed → b.toNat ≤ 0x9f) (hc : 0x80 ≤ c.toNat ∧ c.toNat ≤ 0xbf) :
      Form [a, b, c] (((a.toNat - 0xe0) * 64 + b.toNat % 64) * 64 + c.toNat % 64)
  | four {a b c d : UInt8} (ha : 0xf0 ≤ a.toNat ∧ a.toNat < 0xf5)
      (hb : 0x80 ≤ b.toNat ∧ b.toNat ≤ 0xbf) (hlong : a.toNat = 0xf0 → 0x90 ≤ b.toNat)
      (hlarge : a.toNat = 0xf4 → b.toNat ≤ 0x8f) (hc : 0x80 ≤ c.toNat ∧ c.toNat ≤ 0xbf)
      (hd : 0x80 ≤ d.toNat ∧ d.toNat ≤ 0xbf) :
      Form [a, b, c, d]
        ((((a.toNat - 0xf0) * 64 + b.toNat % 64) * 64 + c.toNat % 64) * 64 + d.toNat % 64)

theorem Form.of_eq {bs : List UInt8} {n m : Nat} (h : Form bs n) (e : n = m) : Form bs m := e ▸ h

/-- No form is empty. -/
theorem Form.length_pos {bs : List UInt8} {n : Nat} (h : Form bs n) : 0 < bs.length := by
  cases h <;> exact Nat.succ_pos _

/-- A small number is a byte. -/
private theorem toNat_byte {n : Nat} (h : n < 256) : (UInt8.ofNat n).toNat = n := by
  rw [UInt8.toNat_ofNat']
  exact Nat.mod_eq_of_lt h

/-- A byte is known by its number. -/
private theorem byte_eq {n : Nat} {b : UInt8} (h : n = b.toNat) : UInt8.ofNat n = b := by
  rw [h, UInt8.ofNat_toNat]

/-- The encoding of a character has the form of its number. -/
theorem form_encode (c : Char) : Form (String.utf8EncodeChar c) c.toNat := by
  have hvalid : c.toNat < 55296 ∨ 57343 < c.toNat ∧ c.toNat < 1114112 := c.valid
  unfold String.utf8EncodeChar
  generalize hv : c.toNat = v at hvalid
  change c.val.toNat = v at hv
  rw [hv]
  dsimp only
  split
  · have ha := @toNat_byte v (by omega)
    exact (Form.one (by omega)).of_eq ha
  split
  · have ha := @toNat_byte (v / 64 % 32 + 192) (by omega)
    have hb := @toNat_byte (v % 64 + 128) (by omega)
    exact (Form.two (by omega) (by omega)).of_eq (by rw [ha, hb]; omega)
  split
  · have ha := @toNat_byte (v / 4096 % 16 + 224) (by omega)
    have hb := @toNat_byte (v / 64 % 64 + 128) (by omega)
    have hc := @toNat_byte (v % 64 + 128) (by omega)
    exact (Form.three (by omega) (by omega) (by omega) (by omega) (by omega)).of_eq
      (by rw [ha, hb, hc]; omega)
  · have ha := @toNat_byte (v / 262144 % 8 + 240) (by omega)
    have hb := @toNat_byte (v / 4096 % 64 + 128) (by omega)
    have hc := @toNat_byte (v / 64 % 64 + 128) (by omega)
    have hd := @toNat_byte (v % 64 + 128) (by omega)
    exact (Form.four (by omega) (by omega) (by omega) (by omega) (by omega) (by omega)).of_eq
      (by rw [ha, hb, hc, hd]; omega)

/-- A number that bytes stand for is a character, and the bytes are its encoding. -/
theorem encode_of_form {bs : List UInt8} {n : Nat} (h : Form bs n) :
    String.utf8EncodeChar (Char.ofNat n) = bs := by
  have hvalid : n.isValidChar := by
    cases h <;> (unfold Nat.isValidChar; omega)
  have hn : (Char.ofNat n).val.toNat = n := by
    unfold Char.ofNat
    rw [dif_pos hvalid]
    rfl
  unfold String.utf8EncodeChar
  rw [hn]
  dsimp only
  cases h with
  | @one a ha => rw [if_pos (by omega), byte_eq rfl]
  | @two a b ha hb =>
    rw [if_neg (by omega), if_pos (by omega), @byte_eq _ a (by omega), @byte_eq _ b (by omega)]
  | @three a b c ha hb hlong hsurrogate hc =>
    rw [if_neg (by omega), if_neg (by omega), if_pos (by omega), @byte_eq _ a (by omega),
      @byte_eq _ b (by omega), @byte_eq _ c (by omega)]
  | @four a b c d ha hb hlong hlarge hc hd =>
    rw [if_neg (by omega), if_neg (by omega), if_neg (by omega), @byte_eq _ a (by omega),
      @byte_eq _ b (by omega), @byte_eq _ c (by omega), @byte_eq _ d (by omega)]

/-! ## Reading one character -/

/-- A byte within its bounds is taken. -/
theorem followBytes_take {n taken : Nat} {p : Nat × Nat} {bounds : List (Nat × Nat)} {b : UInt8}
    (h : p.1 ≤ b.toNat ∧ b.toNat ≤ p.2) (bs : List UInt8) :
    followBytes n taken (p :: bounds) (b :: bs) =
      followBytes (n * 64 + b.toNat % 64) (taken + 1) bounds bs := by
  obtain ⟨lo, hi⟩ := p
  rw [followBytes, if_pos (by simpa using h)]

/-- Only a byte within its bounds is taken. -/
theorem followBytes_ok {n taken : Nat} {p : Nat × Nat} {bounds : List (Nat × Nat)} {bs : List UInt8}
    {r : Nat × List UInt8} (h : followBytes n taken (p :: bounds) bs = .ok r) :
    ∃ b bs', bs = b :: bs' ∧ (p.1 ≤ b.toNat ∧ b.toNat ≤ p.2) ∧
      followBytes (n * 64 + b.toNat % 64) (taken + 1) bounds bs' = .ok r := by
  obtain ⟨lo, hi⟩ := p
  cases bs with
  | nil => cases h
  | cons b bs =>
    rw [followBytes] at h
    split at h
    · rename_i hbounds
      exact ⟨b, bs, rfl, by simpa using hbounds, h⟩
    · cases h

/-- The bounds of a second byte, which are narrower after two of the start bytes. -/
private theorem second_bounds {a b low high lo hi : Nat} (hlow : low ≠ high) (hlo : 0x80 ≤ lo)
    (hhi : hi ≤ 0xbf) :
    let p := if a = low then (lo, 0xbf) else if a = high then (0x80, hi) else (0x80, 0xbf)
    p.1 ≤ b ∧ b ≤ p.2 ↔
      (0x80 ≤ b ∧ b ≤ 0xbf) ∧ (a = low → lo ≤ b) ∧ (a = high → b ≤ hi) := by
  dsimp only
  split
  · omega
  split <;> omega

/-- The form of a character is decoded. -/
theorem decodeStep_of_form {bytes : List UInt8} {n : Nat} (h : Form bytes n) (rest : List UInt8) :
    ∃ b bs, bytes ++ rest = b :: bs ∧ decodeStep b bs = .ok (Char.ofNat n, rest) := by
  cases h with
  | @one a ha =>
    refine ⟨a, rest, rfl, ?_⟩
    rw [decodeStep, byteForm, if_pos ha]
    rfl
  | @two a b ha hb =>
    refine ⟨a, b :: rest, rfl, ?_⟩
    rw [decodeStep, byteForm, if_neg (by omega), if_neg (by omega), if_pos ha.2]
    dsimp only
    rw [followBytes_take hb]
    rfl
  | @three a b c ha hb hlong hsurrogate hc =>
    refine ⟨a, b :: c :: rest, rfl, ?_⟩
    rw [decodeStep, byteForm, if_neg (by omega), if_neg (by omega), if_neg (by omega), if_pos ha.2]
    dsimp only
    rw [followBytes_take ((second_bounds (by decide) (by decide) (by decide)).mpr
      ⟨hb, hlong, hsurrogate⟩), followBytes_take hc]
    rfl
  | @four a b c d ha hb hlong hlarge hc hd =>
    refine ⟨a, b :: c :: d :: rest, rfl, ?_⟩
    rw [decodeStep, byteForm, if_neg (by omega), if_neg (by omega), if_neg (by omega),
      if_neg (by omega), if_pos ha.2]
    dsimp only
    rw [followBytes_take ((second_bounds (by decide) (by decide) (by decide)).mpr
      ⟨hb, hlong, hlarge⟩), followBytes_take hc, followBytes_take hd]
    rfl

/-- What is decoded has a form. -/
theorem form_of_decodeStep {a : UInt8} {bs rest : List UInt8} {c : Char}
    (h : decodeStep a bs = .ok (c, rest)) :
    ∃ bytes n, Form bytes n ∧ a :: bs = bytes ++ rest ∧ c = Char.ofNat n := by
  unfold decodeStep byteForm at h
  dsimp only at h
  split at h
  · cases h
  rename_i n bounds hform
  cases hfollow : followBytes n 1 bounds bs with
  | error e =>
    rw [hfollow] at h
    cases h
  | ok r =>
    rw [hfollow] at h
    cases h
    -- The first byte says how many bytes there are: one to four.
    split at hform
    · obtain ⟨rfl, rfl⟩ := Prod.mk.inj (Option.some.inj hform)
      cases hfollow
      exact ⟨[a], _, .one ‹_›, rfl, rfl⟩
    split at hform
    · cases hform
    split at hform
    · obtain ⟨rfl, rfl⟩ := Prod.mk.inj (Option.some.inj hform)
      obtain ⟨b, bs, rfl, hb, hfollow⟩ := followBytes_ok hfollow
      cases hfollow
      exact ⟨[a, b], _, .two (by omega) hb, rfl, rfl⟩
    split at hform
    · obtain ⟨rfl, rfl⟩ := Prod.mk.inj (Option.some.inj hform)
      obtain ⟨b, bs, rfl, hb, hfollow⟩ := followBytes_ok hfollow
      obtain ⟨c, bs, rfl, hc, hfollow⟩ := followBytes_ok hfollow
      cases hfollow
      obtain ⟨hb, hlong, hsurrogate⟩ := (second_bounds (by decide) (by decide) (by decide)).mp hb
      exact ⟨[a, b, c], _, .three (by omega) hb hlong hsurrogate hc, rfl, rfl⟩
    split at hform
    · obtain ⟨rfl, rfl⟩ := Prod.mk.inj (Option.some.inj hform)
      obtain ⟨b, bs, rfl, hb, hfollow⟩ := followBytes_ok hfollow
      obtain ⟨c, bs, rfl, hc, hfollow⟩ := followBytes_ok hfollow
      obtain ⟨d, bs, rfl, hd, hfollow⟩ := followBytes_ok hfollow
      cases hfollow
      obtain ⟨hb, hlong, hlarge⟩ := (second_bounds (by decide) (by decide) (by decide)).mp hb
      exact ⟨[a, b, c, d], _, .four (by omega) hb hlong hlarge hc hd, rfl, rfl⟩
    · cases hform

/-- A step reads a character exactly where its encoding stands. -/
theorem decodeStep_eq_ok_iff {b : UInt8} {bs rest : List UInt8} {c : Char} :
    decodeStep b bs = .ok (c, rest) ↔ b :: bs = String.utf8EncodeChar c ++ rest := by
  constructor
  · intro h
    obtain ⟨bytes, n, hform, heq, rfl⟩ := form_of_decodeStep h
    rw [heq, encode_of_form hform]
  · intro h
    obtain ⟨b', bs', heq, hstep⟩ := decodeStep_of_form (form_encode c) rest
    cases h.trans heq
    rw [hstep, Char.ofNat_toNat]

/-! ## Reading a text -/

/-- At the end of the bytes the text ends. -/
theorem decodeFrom_nil {total left : Nat} {done cs : List Char} :
    decodeFrom total left done [] = .ok cs ↔ ∃ ds, cs = done.reverse ++ ds ∧ [] = utf8 ds := by
  have hend : decodeFrom total left done [] = .ok done.reverse := by
    cases left <;> rfl
  rw [hend]
  constructor
  · intro h
    cases h
    exact ⟨[], (List.append_nil _).symm, rfl⟩
  · rintro ⟨ds, rfl, hds⟩
    cases ds with
    | nil => rw [List.append_nil]
    | cons c ds =>
      obtain ⟨b, bs, heq, -⟩ := decodeStep_of_form (form_encode c) (utf8 ds)
      cases hds.trans heq

/-- Bytes are decoded if they encode a text, by induction on the steps that are left. -/
theorem decodeFrom_eq_ok_iff {total left : Nat} {done cs : List Char} {bs : List UInt8}
    (hleft : bs.length ≤ left) :
    decodeFrom total left done bs = .ok cs ↔ ∃ ds, cs = done.reverse ++ ds ∧ bs = utf8 ds := by
  induction left generalizing done bs with
  | zero =>
    cases List.length_eq_zero_iff.mp (Nat.le_zero.mp hleft)
    exact decodeFrom_nil
  | succ left ih =>
    cases bs with
    | nil => exact decodeFrom_nil
    | cons b bs =>
      -- A text with this encoding has a first character, and it is decoded.
      have hstep {ds : List Char} (h : b :: bs = utf8 ds) :
          ∃ c ds', ds = c :: ds' ∧ decodeStep b bs = .ok (c, utf8 ds') := by
        cases ds with
        | nil => cases h
        | cons c ds' => exact ⟨c, ds', rfl, decodeStep_eq_ok_iff.mpr h⟩
      rw [decodeFrom]
      cases hdecode : decodeStep b bs with
      | error e =>
        refine ⟨nofun, ?_⟩
        rintro ⟨ds, -, hds⟩
        obtain ⟨c, ds', -, hok⟩ := hstep hds
        rw [hdecode] at hok
        cases hok
      | ok r =>
        obtain ⟨c, rest⟩ := r
        have heq := decodeStep_eq_ok_iff.mp hdecode
        have hrest : rest.length ≤ left := by
          have hpos := (form_encode c).length_pos
          have hlength := congrArg List.length heq
          rw [List.length_append] at hlength
          omega
        dsimp only
        rw [ih hrest]
        constructor
        · rintro ⟨ds, rfl, rfl⟩
          exact ⟨c :: ds, by simp, heq⟩
        · rintro ⟨ds, rfl, hds⟩
          obtain ⟨c', ds', rfl, hok⟩ := hstep hds
          rw [hdecode] at hok
          cases hok
          exact ⟨ds', by simp, rfl⟩

/-- Bytes are read as a text exactly if they are its encoding. -/
theorem decode_eq_ok_iff {bs : List UInt8} {cs : List Char} :
    decode bs = .ok cs ↔ bs = utf8 cs := by
  rw [decode, decodeFrom_eq_ok_iff (Nat.le_refl _)]
  simp

end Marginalia.Text
