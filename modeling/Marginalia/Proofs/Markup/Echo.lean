import Marginalia.Proofs.Markup.Escaping
import Mathlib.Data.List.Infix

/-!
# What is shown of an escaped text

Escaping a text and reading the result as markup gives texts only, and together they are what
`echo` says (`piecesFrom_escape`).  That is the text itself but for two places: a backslash before a
bracket that opens no tag is lost, as reading takes it for one that escaping has put there, and a
single backslash at the end is doubled, as escaping expects a tag to follow.  `echo_eq_self_iff` says
which texts are kept.

A text is shown with pictographs for their names, so it is kept if it has no such name in it
(`shownText_of_unnamed`).
-/

namespace Marginalia.Markup

/-- An escaped text as it is read again, but for its end: a backslash stays before a tag, and is lost
before any other bracket. -/
def reread : List Char → List Char
  | '\\' :: '[' :: cs =>
    if (tag? cs).isSome then '\\' :: '[' :: reread cs else '[' :: reread cs
  | c :: cs => c :: reread cs
  | [] => []

/-- The last two characters of a text, the last one first. -/
def lastTwo (cs : List Char) : List Char := cs.reverse.take 2

/-- The backslash that is put after a text that ends in a single one. -/
def addedSlash (cs : List Char) : List Char :=
  match lastTwo cs with
  | ['\\', '\\'] => []
  | '\\' :: _ => ['\\']
  | _ => []

/-- What is read of a text that was escaped. -/
def echo (cs : List Char) : List Char := reread cs ++ addedSlash cs

/-- No tag is read at a character of the first text, with the second one after it. -/
def Tagless : List Char → List Char → Prop
  | [], _ => True
  | c :: cs, rest => escapedTag? (c :: (cs ++ rest)) = none ∧ Tagless cs rest

instance Tagless.decidable : (cs rest : List Char) → Decidable (Tagless cs rest)
  | [], _ => .isTrue trivial
  | _ :: cs, rest =>
    have := Tagless.decidable cs rest
    inferInstanceAs (Decidable (_ ∧ _))

/-- The last character of the first text can be moved to the second one. -/
theorem tagless_snoc {done cs : List Char} {c : Char} :
    Tagless (done ++ [c]) cs ↔ Tagless done (c :: cs) ∧ escapedTag? (c :: cs) = none := by
  induction done with
  | nil => simp [Tagless]
  | cons d done ih => simp [Tagless, ih, and_assoc]

/-! ## Brackets and backslashes -/

/-- A character is kept unless it is a backslash before a bracket. -/
theorem reread_cons {c : Char} {cs : List Char} (h : c = '\\' → cs.head? ≠ some '[') :
    reread (c :: cs) = c :: reread cs := by
  rw [reread]
  rintro rest rfl rfl
  exact h rfl rfl

/-- So it is where brackets are unescaped. -/
theorem unescapeBrackets_cons {c : Char} {cs : List Char} (h : c = '\\' → cs.head? ≠ some '[') :
    unescapeBrackets (c :: cs) = c :: unescapeBrackets cs := by
  rw [unescapeBrackets]
  rintro rest rfl rfl
  exact h rfl rfl

/-- A text without brackets does not begin with one. -/
theorem head?_ne_bracket {cs : List Char} (h : ∀ c ∈ cs, c ≠ '[') : cs.head? ≠ some '[' :=
  fun hhead => h _ (List.mem_of_head? hhead) rfl

/-- A text without brackets has none to unescape. -/
theorem unescapeBrackets_of_forall {cs : List Char} (h : ∀ c ∈ cs, c ≠ '[') :
    unescapeBrackets cs = cs := by
  induction cs with
  | nil => rfl
  | cons c cs ih =>
    obtain ⟨-, hcs⟩ := List.forall_mem_cons.mp h
    rw [unescapeBrackets_cons fun _ => head?_ne_bracket hcs, ih hcs]

/-- Nor has a tag, which begins with its only bracket. -/
theorem unescapeBrackets_bracketed {body : List Char} (h : ∀ c ∈ body, c ≠ '[') :
    unescapeBrackets (bracketed body) = bracketed body := by
  have hrest : ∀ c ∈ body ++ [']'], c ≠ '[' :=
    List.forall_mem_append.mpr ⟨h, by simp⟩
  rw [bracketed, List.cons_append, unescapeBrackets_cons (c := '[') (by simp),
    unescapeBrackets_of_forall hrest]

/-- A text without brackets is kept up to the end of a tag. -/
theorem reread_word {word : List Char} (h : ∀ c ∈ word, c ≠ '[') (rest : List Char) :
    reread (word ++ ']' :: rest) = word ++ ']' :: reread rest := by
  induction word with
  | nil => exact reread_cons nofun
  | cons c word ih =>
    obtain ⟨-, hword⟩ := List.forall_mem_cons.mp h
    have hhead : (word ++ ']' :: rest).head? ≠ some '[' := by
      cases word with
      | nil => exact fun hd => absurd (Option.some.inj hd) (by decide)
      | cons d word => exact fun hd => (List.forall_mem_cons.mp hword).1 (Option.some.inj hd)
    rw [List.cons_append, reread_cons fun _ => hhead, ih hword, List.cons_append]

/-- There is no opening bracket in the text of a tag. -/
theorem ne_bracket_of_tag? {cs body after : List Char} (h : tag? cs = some (body, after)) :
    ∀ c ∈ body, c ≠ '[' := by
  cases cs with
  | nil => cases h
  | cons c cs =>
    obtain ⟨hc, rfl, -⟩ := tag?_eq_some_iff.mp h
    refine List.forall_mem_cons.mpr ⟨?_, ?_⟩
    · rintro rfl
      exact absurd hc (by decide)
    · rintro d hd rfl
      exact absurd (List.all_eq_true.mp List.all_takeWhile _ hd) (by decide)

/-- A tag and the backslashes before it are kept. -/
theorem reread_tag {cs body after : List Char} {n : Nat}
    (h : escapedTag? cs = some (n, body, after)) :
    reread cs = backslashes n ++ bracketed body ++ reread after := by
  obtain ⟨rfl, htag⟩ := escapedTag?_some h
  have hword : reread (body ++ ']' :: after) = body ++ ']' :: reread after :=
    reread_word (ne_bracket_of_tag? htag) after
  clear h
  induction n with
  | zero =>
    have hbracket : reread ('[' :: (body ++ ']' :: after)) = '[' :: (body ++ ']' :: reread after) := by
      rw [reread_cons (c := '[') nofun, hword]
    simp [backslashes, bracketed, hbracket]
  | succ n ih =>
    cases n with
    | zero =>
      rw [backslashes_succ, backslashes, List.replicate_zero, List.cons_append, List.nil_append,
        reread, if_pos (by rw [htag]; rfl), hword]
      simp [bracketed]
    | succ n =>
      rw [backslashes_succ, List.cons_append, reread_cons fun _ => by simp [backslashes_succ], ih]
      rfl

/-- Up to where a tag is read or the text ends, reading loses each backslash before a bracket. -/
theorem reread_append {done cs : List Char} (hdone : Tagless done cs)
    (hcs : cs ≠ [] → escapedTag? cs ≠ none) :
    reread (done ++ cs) = unescapeBrackets done ++ reread cs := by
  fun_induction unescapeBrackets done with
  | case1 done ih =>
    obtain ⟨hslash, -, hdone⟩ := hdone
    rw [escapedTag?_backslash, List.cons_append, escapedTag?_bracket, Option.map_map,
      Option.map_eq_none_iff] at hslash
    rw [List.cons_append, List.cons_append, reread, if_neg (by simp [hslash]), ih hdone,
      List.cons_append]
  | case2 c done hother ih =>
    obtain ⟨hc, hdone⟩ := hdone
    have hhead : c = '\\' → (done ++ cs).head? ≠ some '[' := by
      rintro rfl hhead
      cases done with
      | cons d done => exact hother done rfl (by simpa using hhead)
      | nil =>
        -- A bracket directly behind the backslash is that of a tag, which would be read with it.
        rw [List.nil_append, escapedTag?_backslash, Option.map_eq_none_iff] at hc
        exact hcs (by rintro rfl; cases hhead) hc
    rw [List.cons_append, reread_cons hhead, ih hdone, List.cons_append]
  | case3 => rfl

/-- Backslashes at the end of a text are kept. -/
theorem unescapeBrackets_append_slashes {tail : List Char} (htail : ∀ c ∈ tail, c = '\\')
    (cs : List Char) : unescapeBrackets (cs ++ tail) = unescapeBrackets cs ++ tail := by
  have hne : ∀ c ∈ tail, c ≠ '[' := fun c hc => by rw [htail c hc]; decide
  fun_induction unescapeBrackets cs with
  | case1 cs ih => rw [List.cons_append, List.cons_append, unescapeBrackets, ih, List.cons_append]
  | case2 c cs hother ih =>
    have hhead : c = '\\' → (cs ++ tail).head? ≠ some '[' := by
      rintro rfl hhead
      cases cs with
      | cons d cs => exact hother cs rfl (by simpa using hhead)
      | nil => exact head?_ne_bracket hne hhead
    rw [List.cons_append, unescapeBrackets_cons hhead, ih, List.cons_append]
  | case3 => exact unescapeBrackets_of_forall hne

/-! ## The pieces of an escaped text -/

/-- A piece of text shows the text, if there is any. -/
theorem textPiece_texts (cs : List Char) : ∃ ps : List (List Char),
    textPiece cs = ps.map .text ∧ ps.flatMap unescapeBrackets = unescapeBrackets cs := by
  unfold textPiece
  split
  · rename_i h
    exact ⟨[], rfl, by rw [List.isEmpty_iff.mp h]; rfl⟩
  · exact ⟨[cs], rfl, List.flatMap_singleton ..⟩

/-- Characters at which no tag is read are text. -/
theorem piecesFrom_tagless {word rest : List Char} (hword : Tagless word rest)
    (left position : Nat) (done : List Char) :
    piecesFrom (left + word.length) position done (word ++ rest) =
      piecesFrom left (position + word.length) (word.reverse ++ done) rest := by
  induction word generalizing position done with
  | nil => rfl
  | cons c word ih =>
    obtain ⟨hc, hword⟩ := hword
    have hleft : left + (c :: word).length = left + word.length + 1 := by
      rw [List.length_cons, Nat.add_assoc]
    have hposition : position + (c :: word).length = position + 1 + word.length := by
      rw [List.length_cons, Nat.add_right_comm, Nat.add_assoc]
    rw [hleft, hposition, List.cons_append, piecesFrom, hc, List.reverse_cons, List.append_assoc]
    exact ih hword (position + 1) (c :: done)

theorem piecesFrom_nil (left position : Nat) (done : List Char) :
    piecesFrom left position done [] = textPiece done.reverse := by
  cases left <;> rfl

/-- A tag with an odd number of backslashes before it is text. -/
theorem piecesFrom_escaped {left position n : Nat} {done cs body after : List Char}
    (h : escapedTag? cs = some (2 * n + 1, body, after)) :
    piecesFrom (left + 1) position done cs =
      textPiece done.reverse ++ textPiece (backslashes n) ++ [.text (bracketed body)] ++
        piecesFrom left (position + (2 * n + 1) + body.length + 2) [] after := by
  cases cs with
  | nil => cases h
  | cons c cs =>
    have hhalf : (2 * n + 1) / 2 = n := by omega
    have hodd : (2 * n + 1) % 2 = 1 := by omega
    rw [piecesFrom, h]
    dsimp only
    rw [hhalf, if_pos hodd]

/-- A text without backslashes and brackets has no tags. -/
theorem tagless_of_forall {word : List Char} (h : ∀ c ∈ word, c ≠ '\\' ∧ c ≠ '[')
    (rest : List Char) : Tagless word rest := by
  induction word with
  | nil => trivial
  | cons c word ih =>
    obtain ⟨⟨hslash, hbracket⟩, hword⟩ := List.forall_mem_cons.mp h
    exact ⟨escapedTag?_other hslash hbracket _, ih hword⟩

/-- Nor has one of backslashes only. -/
theorem tagless_slashes {tail : List Char} (htail : ∀ c ∈ tail, c = '\\') : Tagless tail [] := by
  induction tail with
  | nil => trivial
  | cons c tail ih =>
    refine ⟨?_, ih (List.forall_mem_cons.mp htail).2⟩
    rw [List.append_nil]
    exact escapedTag?_tail htail

section

variable {tail : List Char} (htail : ∀ c ∈ tail, c = '\\')

include htail

/-- Backslashes at the end of a text are read as text. -/
theorem piecesFrom_slashes {done : List Char} (hdone : Tagless done.reverse []) {left : Nat}
    (hleft : tail.length ≤ left) (position : Nat) :
    ∃ ps : List (List Char), piecesFrom left position done tail = ps.map .text ∧
      ps.flatMap unescapeBrackets = reread done.reverse ++ tail := by
  obtain ⟨left, rfl⟩ := Nat.exists_eq_add_of_le' hleft
  have hpieces := piecesFrom_tagless (tagless_slashes htail) left position done
  rw [List.append_nil, piecesFrom_nil, List.reverse_append, List.reverse_reverse] at hpieces
  have hread := reread_append hdone fun h => absurd rfl h
  rw [List.append_nil, reread, List.append_nil] at hread
  rw [hpieces, hread, ← unescapeBrackets_append_slashes htail]
  exact textPiece_texts _

/-- The pieces of a text with escaped tags are texts, and show what is read again of it. -/
theorem piecesFrom_escapeTags {m : Nat} {cs : List Char} (hm : cs.length ≤ m) {done : List Char}
    (hdone : Tagless done.reverse cs) {left : Nat} (hleft : (escapeTags m cs ++ tail).length ≤ left)
    (position : Nat) :
    ∃ ps : List (List Char), piecesFrom left position done (escapeTags m cs ++ tail) =
      ps.map .text ∧ ps.flatMap unescapeBrackets = reread (done.reverse ++ cs) ++ tail := by
  -- The invariant: no tag is read in what was taken before the rest of the text.
  induction m generalizing cs done left position with
  | zero =>
    cases List.length_eq_zero_iff.mp (Nat.le_zero.mp hm)
    rw [escapeTags_nil, List.nil_append] at hleft ⊢
    rw [List.append_nil]
    exact piecesFrom_slashes htail hdone hleft position
  | succ m ih =>
    cases cs with
    | nil =>
      rw [escapeTags_nil, List.nil_append] at hleft ⊢
      rw [List.append_nil]
      exact piecesFrom_slashes htail hdone hleft position
    | cons c cs =>
      cases h : escapedTag? (c :: cs) with
      | none =>
        rw [escapeTags_char h, List.cons_append, List.length_cons] at hleft
        obtain ⟨left, rfl⟩ := Nat.exists_eq_add_one_of_ne_zero (Nat.ne_of_gt (Nat.lt_of_lt_of_le
          (Nat.succ_pos _) hleft))
        have hm' := Nat.le_of_succ_le_succ hm
        have hdone' : Tagless (c :: done).reverse cs := by
          rw [List.reverse_cons]
          exact tagless_snoc.mpr ⟨hdone, h⟩
        obtain ⟨ps, hps, hread⟩ := ih hm' hdone' (Nat.le_of_succ_le_succ hleft) (position + 1)
        refine ⟨ps, ?_, ?_⟩
        · rw [escapeTags_char h, List.cons_append, piecesFrom, escapedTag?_escapeTags htail hm' h]
          exact hps
        · rw [hread, List.reverse_cons, List.append_assoc, List.singleton_append]
      | some t =>
        obtain ⟨n, body, after⟩ := t
        obtain ⟨heq, hafter⟩ := escapeTags_tag hm h
        have htag := (escapedTag?_some h).2
        have hagain := escapedTag?_backslashes (2 * n + 1)
          (tag?_again htag (escapeTags m after ++ tail))
        have hcs : escapeTags (m + 1) (c :: cs) ++ tail = backslashes (2 * n + 1) ++
            '[' :: (body ++ ']' :: (escapeTags m after ++ tail)) := by
          rw [heq, List.append_assoc, List.cons_append, List.append_assoc, List.cons_append]
        rw [hcs] at hleft ⊢
        rw [List.length_append, List.length_cons, List.length_append, List.length_cons] at hleft
        obtain ⟨left, rfl⟩ : ∃ l, left = l + 1 := ⟨left - 1, by omega⟩
        have hrest : (escapeTags m after ++ tail).length ≤ left := by omega
        have hnone : Tagless ([] : List Char).reverse after := trivial
        obtain ⟨ps, hps, hread⟩ := ih hafter hnone hrest (position + (2 * n + 1) + body.length + 2)
        obtain ⟨before, hbefore, hdoneRead⟩ := textPiece_texts done.reverse
        obtain ⟨slashes, hslashes, hslashesRead⟩ := textPiece_texts (backslashes n)
        refine ⟨before ++ slashes ++ [bracketed body] ++ ps, ?_, ?_⟩
        · rw [piecesFrom_escaped hagain, hbefore, hslashes, hps]
          simp only [List.map_append, List.map_cons, List.map_nil]
        · have hbody := unescapeBrackets_bracketed (ne_bracket_of_tag? htag)
          have hslash : unescapeBrackets (backslashes n) = backslashes n :=
            unescapeBrackets_of_forall (by simp [backslashes])
          rw [reread_append hdone fun _ => by rw [h]; nofun, reread_tag h]
          simp only [List.flatMap_append, List.flatMap_singleton, hdoneRead, hslashesRead, hread,
            hbody, hslash, List.reverse_nil, List.nil_append, List.append_assoc]

end

/-! ## The end of an escaped text -/

/-- A backslash is doubled by adding one. -/
theorem doubleLast_eq (cs : List Char) : doubleLast cs = cs ++ addedSlash cs := by
  unfold doubleLast addedSlash lastTwo
  rcases cs.reverse with _ | ⟨c, _ | ⟨d, rest⟩⟩
  · simp
  · by_cases hc : c = '\\' <;> simp [hc]
  · by_cases hc : c = '\\' <;> by_cases hd : d = '\\' <;> simp [hc, hd]

/-- Nothing but a backslash is added. -/
theorem eq_slash_of_mem_addedSlash (cs : List Char) : ∀ c ∈ addedSlash cs, c = '\\' := by
  unfold addedSlash
  split <;> simp

/-- What stands before does not matter if the last two agree. -/
theorem lastTwo_append {cs ds : List Char} (h : lastTwo cs = lastTwo ds) (before : List Char) :
    lastTwo (before ++ cs) = lastTwo (before ++ ds) := by
  unfold lastTwo at h ⊢
  have hlength := congrArg List.length h
  rw [List.length_take, List.length_take] at hlength
  rw [List.reverse_append, List.reverse_append, List.take_append, List.take_append, h]
  congr 2
  omega

/-- What stands before two characters does not matter. -/
theorem lastTwo_append_of_length {cs : List Char} (h : 2 ≤ cs.length) (before : List Char) :
    lastTwo (before ++ cs) = lastTwo cs := by
  rw [lastTwo, List.reverse_append, List.take_append_of_le_length (by rwa [List.length_reverse]),
    lastTwo]

/-- Escaping tags does not change how a text ends. -/
theorem lastTwo_escapeTags {m : Nat} {cs : List Char} (hm : cs.length ≤ m) :
    lastTwo (escapeTags m cs) = lastTwo cs := by
  induction m generalizing cs with
  | zero =>
    cases List.length_eq_zero_iff.mp (Nat.le_zero.mp hm)
    rfl
  | succ m ih =>
    cases cs with
    | nil => rfl
    | cons c cs =>
      cases h : escapedTag? (c :: cs) with
      | none =>
        rw [escapeTags_char h]
        exact lastTwo_append (ih (Nat.le_of_succ_le_succ hm)) [c]
      | some t =>
        obtain ⟨n, body, after⟩ := t
        obtain ⟨heq, hafter⟩ := escapeTags_tag hm h
        have hlength (rest : List Char) : 2 ≤ ('[' :: (body ++ ']' :: rest)).length := by
          simp only [List.length_cons, List.length_append]
          omega
        have hrest := lastTwo_append (ih hafter) ('[' :: (body ++ [']']))
        simp only [List.cons_append, List.append_assoc, List.nil_append] at hrest
        rw [heq, (escapedTag?_some h).1, lastTwo_append_of_length (hlength _),
          lastTwo_append_of_length (hlength _), hrest]

/-- A text is escaped tag by tag, and then at its end. -/
theorem escape_eq (cs : List Char) : escape cs = escapeTags cs.length cs ++ addedSlash cs := by
  rw [escape, doubleLast_eq, addedSlash, lastTwo_escapeTags (Nat.le_refl _), addedSlash]

/-- A space and an escaped text are read as texts, which show the space and what is read again of the
text. -/
theorem piecesFrom_escape (cs : List Char) {left : Nat} (hleft : (escape cs).length < left)
    (position : Nat) :
    ∃ ps : List (List Char), piecesFrom left position [] (' ' :: escape cs) = ps.map .text ∧
      ps.flatMap unescapeBrackets = ' ' :: echo cs := by
  obtain ⟨left, rfl⟩ := Nat.exists_eq_add_one_of_ne_zero (Nat.ne_of_gt (Nat.lt_of_le_of_lt
    (Nat.zero_le _) hleft))
  have hspace (rest : List Char) : Tagless [' '] rest := tagless_of_forall (by simp) rest
  have hdone : Tagless [' '].reverse cs := hspace cs
  rw [piecesFrom, show escapedTag? (' ' :: escape cs) = none from (hspace _).1]
  rw [escape_eq] at hleft ⊢
  obtain ⟨ps, hps, hread⟩ := piecesFrom_escapeTags (eq_slash_of_mem_addedSlash cs) (Nat.le_refl _)
    hdone (Nat.le_of_lt_succ hleft) (position + 1)
  refine ⟨ps, hps, ?_⟩
  rw [hread, echo, List.reverse_singleton, List.singleton_append, reread_cons (c := ' ') nofun,
    List.cons_append]

/-! ## Texts that are kept -/

/-- Each backslash before an opening bracket stands before a tag. -/
def SlashesTags (cs : List Char) : Prop :=
  ∀ before after, cs = before ++ '\\' :: '[' :: after → (tag? after).isSome = true

/-- Backslashes are before tags in a text if they are at its first character and behind it. -/
theorem slashesTags_cons {c : Char} {cs : List Char} :
    SlashesTags (c :: cs) ↔
      (∀ after, c = '\\' → cs = '[' :: after → (tag? after).isSome = true) ∧ SlashesTags cs := by
  constructor
  · intro h
    exact ⟨fun after hc hcs => h [] after (by rw [hc, hcs]; rfl),
      fun before after hcs => h (c :: before) after (by rw [hcs]; rfl)⟩
  · rintro ⟨hfirst, hrest⟩ before after heq
    cases before with
    | nil =>
      obtain ⟨hc, hcs⟩ := List.cons.inj heq
      exact hfirst after hc hcs
    | cons d before => exact hrest before after (List.cons.inj heq).2

/-- A text is read again as it is if every backslash before a bracket is before a tag. -/
theorem reread_eq_self_iff {cs : List Char} : reread cs = cs ↔ SlashesTags cs := by
  fun_induction reread cs with
  | case1 cs htag ih => simp [slashesTags_cons, htag, ih]
  | case2 cs htag ih => simp [slashesTags_cons, htag]
  | case3 c cs hother ih =>
    have hfirst : ∀ after, c = '\\' → cs = '[' :: after → (tag? after).isSome = true :=
      fun after hc hcs => (hother after hc hcs).elim
    rw [slashesTags_cons, and_iff_right hfirst, List.cons_inj_right, ih]
  | case4 => simp [SlashesTags]

/-- Reading again does not change the last character. -/
theorem getLast?_reread (cs : List Char) : (reread cs).getLast? = cs.getLast? := by
  fun_induction reread cs with
  | case1 cs htag ih => simp [List.getLast?_cons, ih]
  | case2 cs htag ih => simp [List.getLast?_cons, ih]
  | case3 c cs hother ih => simp [List.getLast?_cons, ih]
  | case4 => rfl

/-- A backslash is added to a text that ends in one. -/
theorem getLast?_of_addedSlash {cs : List Char} (h : addedSlash cs ≠ []) :
    addedSlash cs = ['\\'] ∧ cs.getLast? = some '\\' := by
  unfold addedSlash at h ⊢
  split at h
  · exact absurd rfl h
  · rename_i hlast
    have hhead := congrArg List.head? hlast
    rw [lastTwo, List.head?_take, if_neg (by decide), List.head?_reverse] at hhead
    exact ⟨rfl, hhead⟩
  · exact absurd rfl h

/-- The texts that are read again as they are: each backslash before an opening bracket stands before
a tag, and there is no single backslash at the end. -/
theorem echo_eq_self_iff {cs : List Char} :
    echo cs = cs ↔ SlashesTags cs ∧ addedSlash cs = [] := by
  constructor
  · intro h
    have hslash : addedSlash cs = [] := by
      by_contra hne
      -- Then two backslashes stand at the end of what is read, but a single one in the text.
      obtain ⟨hadded, hlast⟩ := getLast?_of_addedSlash hne
      obtain ⟨before, hbefore⟩ := List.getLast?_eq_some_iff.mp ((getLast?_reread cs).trans hlast)
      have htwo : lastTwo (echo cs) = ['\\', '\\'] := by
        rw [echo, hadded, hbefore, lastTwo]
        simp
      rw [h] at htwo
      rw [addedSlash, htwo] at hadded
      cases hadded
    rw [echo, hslash, List.append_nil] at h
    exact ⟨reread_eq_self_iff.mp h, hslash⟩
  · rintro ⟨htags, hslash⟩
    rw [echo, hslash, List.append_nil, reread_eq_self_iff.mpr htags]

/-- What is read again has the characters of the text, and perhaps a backslash. -/
theorem forall_mem_echo {P : Char → Prop} (hslash : P '\\') {cs : List Char} (h : ∀ c ∈ cs, P c) :
    ∀ c ∈ echo cs, P c := by
  have hread : ∀ c ∈ reread cs, c ∈ cs := by
    fun_induction reread cs with
    | case1 cs htag ih => grind
    | case2 cs htag ih => grind
    | case3 c cs hother ih => grind
    | case4 => grind
  intro c hc
  obtain hc | hc := List.mem_append.mp hc
  · exact h c (hread c hc)
  · rw [eq_slash_of_mem_addedSlash cs c hc]
    exact hslash

/-! ## Names of pictographs -/

/-- The text is the name of a pictograph, as it may stand between two colons. -/
def NamesPictograph (body : List Char) : Prop :=
  (∀ c ∈ body, c ≠ ':' ∧ Text.isBlank c.toNat = false) ∧
    pictograph? (Text.lowerText (splitVariant body).1) ≠ none

/-- No name of a pictograph stands between two colons of the text. -/
def Unnamed (cs : List Char) : Prop :=
  ∀ body, NamesPictograph body → ¬ ':' :: (body ++ [':']) <:+: cs

/-- A part of a text without names has no names. -/
theorem Unnamed.of_infix {cs ds : List Char} (h : Unnamed ds) (hcs : cs <:+: ds) : Unnamed cs :=
  fun body hbody hin => h body hbody (hin.trans hcs)

/-- A name begins with a colon. -/
theorem Unnamed.cons {c : Char} {cs : List Char} (h : Unnamed cs) (hc : c ≠ ':') :
    Unnamed (c :: cs) := by
  intro body hbody hin
  obtain hfirst | hrest := List.infix_cons_iff.mp hin
  · exact hc (List.cons_prefix_cons.mp hfirst).1.symm
  · exact h body hbody hrest

/-- A name has two colons. -/
theorem unnamed_of_count {cs : List Char} (h : cs.count ':' < 2) : Unnamed cs := by
  intro body _ hin
  have hcount := hin.sublist.count_le ':'
  simp only [List.count_cons, List.count_append, List.count_nil, beq_self_eq_true, if_true]
    at hcount
  omega

/-- What is taken for a name ends at the first colon and has no blanks. -/
theorem named?_some {cs body rest : List Char} (h : named? cs = some (body, rest)) :
    cs = body ++ ':' :: rest ∧ ∀ c ∈ body, c ≠ ':' ∧ Text.isBlank c.toNat = false := by
  simp only [named?, drop_length_takeWhile] at h
  split at h
  · rename_i rest' hrest
    cases h
    refine ⟨by rw [← hrest, List.takeWhile_append_dropWhile], fun c hc => ?_⟩
    simpa using List.all_eq_true.mp List.all_takeWhile c hc
  · cases h

/-- A text without names is left as it is, by induction on the steps that are left. -/
theorem replaceNames_of_unnamed {m : Nat} {cs : List Char} (h : Unnamed cs) :
    replaceNames m cs = cs := by
  induction m generalizing cs with
  | zero => cases cs <;> rfl
  | succ m ih =>
    cases cs with
    | nil => rfl
    | cons c cs =>
      have hcs := ih (h.of_infix (List.infix_cons (List.infix_refl cs)))
      rw [replaceNames]
      split
      · rename_i hc
        split
        · rename_i body rest hnamed
          obtain ⟨rfl, hbody⟩ := named?_some hnamed
          have hin : ':' :: (body ++ [':']) <:+: c :: (body ++ ':' :: rest) :=
            ⟨[], rest, by simp [hc]⟩
          have hnone : pictograph? (Text.lowerText (splitVariant body).1) = none :=
            not_not.mp fun hsome => h body ⟨hbody, hsome⟩ hin
          have hrest : rest <:+: c :: (body ++ ':' :: rest) :=
            ⟨c :: (body ++ [':']), [], by simp⟩
          simp [pictographFor, hnone, ih (h.of_infix hrest), hc]
        · rw [hcs]
      · rw [hcs]

/-- A text without names and control characters is shown as it is. -/
theorem shownText_of_unnamed {cs : List Char} (h : Unnamed cs)
    (hchars : ∀ c ∈ cs, Text.isDropped c = false) : shownText cs = cs := by
  rw [shownText, withPictographs, replaceNames_of_unnamed h, Text.sanitize]
  exact List.filter_eq_self.mpr fun c hc => by rw [hchars c hc]; rfl

/-- Texts that have no names together are shown as they are. -/
theorem shownTexts_of_unnamed {parts : List (List Char)} (h : Unnamed parts.flatten)
    (hchars : ∀ c ∈ parts.flatten, Text.isDropped c = false) :
    parts.flatMap shownText = parts.flatten := by
  induction parts with
  | nil => rfl
  | cons part parts ih =>
    rw [List.flatten_cons] at h hchars
    obtain ⟨hpart, hparts⟩ := List.forall_mem_append.mp hchars
    rw [List.flatMap_cons, List.flatten_cons,
      shownText_of_unnamed (h.of_infix (List.infix_append' [] part parts.flatten)) hpart,
      ih (h.of_infix (List.suffix_append part parts.flatten).isInfix) hparts]

end Marginalia.Markup
