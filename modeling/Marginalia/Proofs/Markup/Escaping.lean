import Marginalia.Markup.Basic

/-!
# Escaping makes no tags

`escape` puts an odd number of backslashes before each tag of a text, so that no tag counts when the
result is read as markup.  What has to be seen is that the backslashes do not make a tag where there
was none (`escapedTag?_escapeTags`): a bracket that opens no tag still opens none when backslashes are
put before a later one, since these stand within what would be the tag and do not close it.
-/

namespace Marginalia.Markup

/-! ## Tags and backslashes -/

/-- A backslash more before a tag. -/
theorem escapedTag?_backslash (cs : List Char) :
    escapedTag? ('\\' :: cs) = (escapedTag? cs).map fun (n, t) => (n + 1, t) := by
  simp only [escapedTag?, List.takeWhile_cons, beq_self_eq_true, if_true, List.length_cons,
    List.drop_succ_cons]
  split
  · rw [Option.map_map]
    rfl
  · rfl

theorem escapedTag?_bracket (cs : List Char) :
    escapedTag? ('[' :: cs) = (tag? cs).map fun t => (0, t) := rfl

/-- Other characters begin no tag. -/
theorem escapedTag?_other {c : Char} (hslash : c ≠ '\\') (hbracket : c ≠ '[') (cs : List Char) :
    escapedTag? (c :: cs) = none := by
  unfold escapedTag?
  dsimp only
  rw [List.takeWhile_cons, if_neg (by simpa using hslash), List.length_nil, List.drop_zero]
  split
  · rename_i heq
    cases heq
    exact absurd rfl hbracket
  · rfl

/-- Can the character be part of a tag behind its first character? -/
def inTag (c : Char) : Bool := c != '[' && c != ']'

/-- What is left behind the first characters of a kind. -/
theorem drop_length_takeWhile (p : Char → Bool) (cs : List Char) :
    cs.drop (cs.takeWhile p).length = cs.dropWhile p := by
  induction cs with
  | nil => rfl
  | cons c cs ih => cases h : p c <;> simp [h, ih]

/-- A tag has a first character, and then goes on to a closing bracket. -/
theorem tag?_eq_some_iff {c : Char} {cs body after : List Char} :
    tag? (c :: cs) = some (body, after) ↔
      startsTag c = true ∧ body = c :: cs.takeWhile inTag ∧ cs.dropWhile inTag = ']' :: after := by
  have hbody : (cs.takeWhile fun d => d != '[' && d != ']') = cs.takeWhile inTag := rfl
  simp only [tag?, hbody, drop_length_takeWhile]
  cases startsTag c with
  | false => simp
  | true =>
    simp only [if_true, true_and]
    split
    · rename_i rest hrest
      simp [hrest, eq_comm]
    · rename_i hrest
      refine ⟨nofun, ?_⟩
      rintro ⟨-, h⟩
      exact absurd h (hrest after)

/-- There is no tag if the first character begins none or no bracket ends it. -/
theorem tag?_eq_none_iff {c : Char} {cs : List Char} :
    tag? (c :: cs) = none ↔
      (startsTag c = true → (cs.dropWhile inTag).head? ≠ some ']') := by
  constructor
  · intro h hc hhead
    obtain ⟨after, hafter⟩ := List.head?_eq_some_iff.mp hhead
    rw [tag?_eq_some_iff.mpr ⟨hc, rfl, hafter⟩] at h
    cases h
  · intro h
    cases htag : tag? (c :: cs) with
    | none => rfl
    | some t =>
      obtain ⟨hc, -, hafter⟩ := tag?_eq_some_iff.mp htag
      exact absurd (by rw [hafter]; rfl) (h hc)

/-- A tag is its body and the bracket behind it. -/
theorem eq_of_tag? {cs body after : List Char} (h : tag? cs = some (body, after)) :
    cs = body ++ ']' :: after := by
  cases cs with
  | nil => cases h
  | cons c cs =>
    obtain ⟨-, rfl, hafter⟩ := tag?_eq_some_iff.mp h
    rw [List.cons_append, ← hafter, List.takeWhile_append_dropWhile]

/-- A tag is read again whatever follows it. -/
theorem tag?_again {cs body after : List Char} (h : tag? cs = some (body, after))
    (rest : List Char) : tag? (body ++ ']' :: rest) = some (body, rest) := by
  cases cs with
  | nil => cases h
  | cons c cs =>
    obtain ⟨hc, rfl, -⟩ := tag?_eq_some_iff.mp h
    have hmem : ∀ d ∈ cs.takeWhile inTag, inTag d = true := List.all_eq_true.mp List.all_takeWhile
    rw [List.cons_append]
    refine tag?_eq_some_iff.mpr ⟨hc, ?_, ?_⟩
    · rw [List.takeWhile_append_of_pos hmem, List.takeWhile_cons, if_neg (by decide),
        List.append_nil]
    · rw [List.dropWhile_append_of_pos hmem, List.dropWhile_cons, if_neg (by decide)]

theorem backslashes_succ (n : Nat) : backslashes (n + 1) = '\\' :: backslashes n := rfl

/-- What stands where a tag with backslashes is read. -/
theorem escapedTag?_some {cs body after : List Char} {n : Nat}
    (h : escapedTag? cs = some (n, body, after)) :
    cs = backslashes n ++ '[' :: (body ++ ']' :: after) ∧
      tag? (body ++ ']' :: after) = some (body, after) := by
  induction cs generalizing n with
  | nil => cases h
  | cons c cs ih =>
    by_cases hslash : c = '\\'
    · rw [hslash, escapedTag?_backslash] at h
      obtain ⟨⟨n', t⟩, ht, heq⟩ := Option.map_eq_some_iff.mp h
      cases heq
      obtain ⟨hcs, htag⟩ := ih ht
      exact ⟨by rw [hslash, backslashes_succ, List.cons_append, ← hcs], htag⟩
    by_cases hbracket : c = '['
    · rw [hbracket, escapedTag?_bracket] at h
      obtain ⟨t, ht, heq⟩ := Option.map_eq_some_iff.mp h
      cases heq
      exact ⟨by rw [hbracket, eq_of_tag? ht]; rfl, tag?_again ht after⟩
    · rw [escapedTag?_other hslash hbracket] at h
      cases h

/-- Backslashes before a tag are counted. -/
theorem escapedTag?_backslashes (k : Nat) {cs body after : List Char}
    (h : tag? cs = some (body, after)) :
    escapedTag? (backslashes k ++ '[' :: cs) = some (k, body, after) := by
  induction k with
  | zero => exact congrArg (Option.map fun t => (0, t)) h
  | succ k ih => rw [backslashes_succ, List.cons_append, escapedTag?_backslash, ih]; rfl

/-! ## What escaping does not change -/

section

variable {left : Nat} {cs tail : List Char}

/-- A step of escaping: a tag gets its backslashes. -/
theorem escapeTags_tag {body after : List Char} {n : Nat} (hleft : cs.length ≤ left + 1)
    (h : escapedTag? cs = some (n, body, after)) :
    escapeTags (left + 1) cs =
      backslashes (2 * n + 1) ++ '[' :: (body ++ ']' :: escapeTags left after) ∧
        after.length ≤ left := by
  obtain ⟨hcs, -⟩ := escapedTag?_some h
  cases cs with
  | nil => cases h
  | cons c cs =>
    refine ⟨?_, ?_⟩
    · rw [escapeTags, h]
      simp [bracketed]
    · have hlength := congrArg List.length hcs
      simp only [List.length_append, List.length_cons] at hlength hleft
      omega

/-- A step of escaping: any other character stays. -/
theorem escapeTags_char {c : Char} (h : escapedTag? (c :: cs) = none) :
    escapeTags (left + 1) (c :: cs) = c :: escapeTags left cs := by
  rw [escapeTags, h]

theorem escapeTags_nil (left : Nat) : escapeTags left [] = [] := by
  cases left <;> rfl

/-- Backslashes may stand in a tag, but no bracket may. -/
theorem head?_dropWhile_backslashes (n : Nat) (cs : List Char) :
    ((backslashes n ++ '[' :: cs).dropWhile inTag).head? = some '[' := by
  have hmem : ∀ c ∈ backslashes n, inTag c = true := by
    intro c hc
    rw [List.eq_of_mem_replicate hc]
    rfl
  rw [List.dropWhile_append_of_pos hmem]
  rfl

/-- Where what would be a tag ends, it ends after escaping too: the backslashes that are put before
a tag stand before its opening bracket. -/
theorem head?_dropWhile_escapeTags (htail : ∀ c ∈ tail, c = '\\') (hleft : cs.length ≤ left) :
    ((escapeTags left cs ++ tail).dropWhile inTag).head? = (cs.dropWhile inTag).head? := by
  have hend : ((escapeTags left [] ++ tail).dropWhile inTag).head? = none := by
    have hmem : ∀ c ∈ tail, inTag c = true := fun c hc => by rw [htail c hc]; rfl
    rw [escapeTags_nil, List.nil_append, ← List.append_nil tail, List.dropWhile_append_of_pos hmem]
    rfl
  induction left generalizing cs with
  | zero =>
    cases List.length_eq_zero_iff.mp (Nat.le_zero.mp hleft)
    exact hend
  | succ left ih =>
    cases cs with
    | nil => exact hend
    | cons c cs =>
      cases h : escapedTag? (c :: cs) with
      | none =>
        rw [escapeTags_char h, List.cons_append, List.dropWhile_cons, List.dropWhile_cons]
        split
        · exact ih (Nat.le_of_succ_le_succ hleft) (by rwa [escapeTags_nil] at hend ⊢)
        · rfl
      | some t =>
        rw [(escapeTags_tag hleft h).1, (escapedTag?_some h).1, List.append_assoc,
          List.cons_append, head?_dropWhile_backslashes, head?_dropWhile_backslashes]

/-- What is no tag is none after escaping. -/
theorem tag?_escapeTags (htail : ∀ c ∈ tail, c = '\\') (hleft : cs.length ≤ left)
    (h : tag? cs = none) : tag? (escapeTags left cs ++ tail) = none := by
  have hslash (rest : List Char) : tag? ('\\' :: rest) = none :=
    tag?_eq_none_iff.mpr fun h => absurd h (by decide)
  cases cs with
  | nil =>
    rw [escapeTags_nil, List.nil_append]
    cases tail with
    | nil => rfl
    | cons c tail =>
      rw [(List.forall_mem_cons.mp htail).1]
      exact hslash tail
  | cons c cs =>
    obtain ⟨left, rfl⟩ := Nat.exists_eq_add_one_of_ne_zero (Nat.ne_of_gt (Nat.lt_of_lt_of_le
      (Nat.succ_pos _) hleft))
    cases ht : escapedTag? (c :: cs) with
    | none =>
      rw [escapeTags_char ht, List.cons_append, tag?_eq_none_iff,
        head?_dropWhile_escapeTags htail (Nat.le_of_succ_le_succ hleft)]
      exact tag?_eq_none_iff.mp h
    | some t =>
      rw [(escapeTags_tag hleft ht).1, backslashes_succ]
      exact hslash _

/-- Backslashes alone are no tag. -/
theorem escapedTag?_tail (htail : ∀ c ∈ tail, c = '\\') : escapedTag? tail = none := by
  induction tail with
  | nil => rfl
  | cons c tail ih =>
    obtain ⟨rfl, hrest⟩ := List.forall_mem_cons.mp htail
    rw [escapedTag?_backslash, ih hrest]
    rfl

/-- Escaping what follows makes no tag of a character. -/
private theorem escapedTag?_of_ne (htail : ∀ c ∈ tail, c = '\\') {c : Char}
    (hleft : cs.length ≤ left) (hslash : c ≠ '\\') (h : escapedTag? (c :: cs) = none) :
    escapedTag? (c :: (escapeTags left cs ++ tail)) = none := by
  by_cases hbracket : c = '['
  · rw [hbracket, escapedTag?_bracket] at h ⊢
    rw [tag?_escapeTags htail hleft (Option.map_eq_none_iff.mp h)]
    rfl
  · exact escapedTag?_other hslash hbracket _

/-- A character at which no tag is read is not made to start one. -/
theorem escapedTag?_escapeTags (htail : ∀ c ∈ tail, c = '\\') {c : Char} (hleft : cs.length ≤ left)
    (h : escapedTag? (c :: cs) = none) :
    escapedTag? (c :: (escapeTags left cs ++ tail)) = none := by
  induction cs generalizing c left with
  | nil =>
    by_cases hslash : c = '\\'
    · rw [hslash, escapeTags_nil, List.nil_append, escapedTag?_backslash, escapedTag?_tail htail]
      rfl
    · exact escapedTag?_of_ne htail hleft hslash h
  | cons d cs ih =>
    by_cases hslash : c = '\\'
    · obtain ⟨left, rfl⟩ := Nat.exists_eq_add_one_of_ne_zero (Nat.ne_of_gt (Nat.lt_of_lt_of_le
        (Nat.succ_pos _) hleft))
      rw [hslash, escapedTag?_backslash] at h
      have hd := Option.map_eq_none_iff.mp h
      rw [hslash, escapedTag?_backslash, escapeTags_char hd, List.cons_append,
        ih (Nat.le_of_succ_le_succ hleft) hd]
      rfl
    · exact escapedTag?_of_ne htail hleft hslash h

end

end Marginalia.Markup
