import Marginalia.Language.Builtin
import Marginalia.Proofs.Extraction.Lexing

/-!
# Comments of the C family

The grammar of the first built-in languages is a set of patterns; what they mean together is a lexer
of a few lines.  Two slashes start a comment up to the end of the line, and a slash with a star one
up to the first star with a slash.  Literals in quotes are stepped over.  A comment or a literal
that is not closed is none, and the lexer goes on behind its first character.
-/

namespace Marginalia.Language

open Pattern

/-! ## The lexer -/

/-- The length of the rest of a block comment: up to the first star with a slash behind it. -/
def blockLength? : List Char → Option Nat
  | [] => none
  | '*' :: '/' :: _ => some 2
  | _ :: cs => (blockLength? cs).map (· + 1)

/-- The length of the rest of a literal, the closing quote included.  A backslash takes the next
character with it, unless that is a line feed; a line feed on its own is allowed if the literal may
have several lines. -/
def literalLength? (quote : Char) (severalLines : Bool) : List Char → Option Nat
  | [] => none
  | ['\\'] => none
  | '\\' :: c :: cs =>
    if c = '\n' then none else (literalLength? quote severalLines cs).map (· + 2)
  | c :: cs =>
    if c = quote then some 1
    else if c = '\n' && !severalLines then none
    else (literalLength? quote severalLines cs).map (· + 1)

/-- The comment or the literal with which a text begins. -/
def cLexeme? : List Char → Option Lexeme
  | '/' :: '/' :: cs => some ⟨true, (cs.takeWhile (· != '\n')).length + 2⟩
  | '/' :: '*' :: cs => (blockLength? cs).map fun n => ⟨true, n + 2⟩
  | '"' :: cs => (literalLength? '"' false cs).map fun n => ⟨false, n + 1⟩
  | '\'' :: cs => (literalLength? '\'' false cs).map fun n => ⟨false, n + 1⟩
  | '`' :: cs => (literalLength? '`' true cs).map fun n => ⟨false, n + 1⟩
  | _ => none

/-- A block comment ends within the text. -/
theorem blockLength?_le {cs : List Char} {n : Nat} (h : blockLength? cs = some n) :
    n ≤ cs.length := by
  fun_induction blockLength? cs generalizing n with
  | case1 => cases h
  | case2 cs =>
    cases h
    simp
  | case3 c cs _ ih =>
    obtain ⟨n, hn, rfl⟩ := Option.map_eq_some_iff.mp h
    exact Nat.succ_le_succ (ih hn)

/-- So does a literal. -/
theorem literalLength?_le {quote : Char} {severalLines : Bool} {cs : List Char} {n : Nat}
    (h : literalLength? quote severalLines cs = some n) : n ≤ cs.length := by
  fun_induction literalLength? quote severalLines cs generalizing n with
  | case1 | case2 | case3 => cases h
  | case4 c cs _ ih =>
    obtain ⟨n, hn, rfl⟩ := Option.map_eq_some_iff.mp h
    exact Nat.succ_le_succ (Nat.succ_le_succ (ih hn))
  | case5 =>
    cases h
    simp
  | case6 => cases h
  | case7 c cs _ _ _ _ ih =>
    obtain ⟨n, hn, rfl⟩ := Option.map_eq_some_iff.mp h
    exact Nat.succ_le_succ (ih hn)

/-- A lexeme is not empty and ends within the text. -/
theorem cLexeme?_bounds {cs : List Char} {x : Lexeme} (h : cLexeme? cs = some x) :
    0 < x.length ∧ x.length ≤ cs.length := by
  unfold cLexeme? at h
  split at h
  · cases h
    exact ⟨Nat.succ_pos _, Nat.succ_le_succ (Nat.succ_le_succ (List.takeWhile_sublist _).length_le)⟩
  · obtain ⟨n, hn, rfl⟩ := Option.map_eq_some_iff.mp h
    exact ⟨Nat.succ_pos _, Nat.succ_le_succ (Nat.succ_le_succ (blockLength?_le hn))⟩
  · obtain ⟨n, hn, rfl⟩ := Option.map_eq_some_iff.mp h
    exact ⟨Nat.succ_pos _, Nat.succ_le_succ (literalLength?_le hn)⟩
  · obtain ⟨n, hn, rfl⟩ := Option.map_eq_some_iff.mp h
    exact ⟨Nat.succ_pos _, Nat.succ_le_succ (literalLength?_le hn)⟩
  · obtain ⟨n, hn, rfl⟩ := Option.map_eq_some_iff.mp h
    exact ⟨Nat.succ_pos _, Nat.succ_le_succ (literalLength?_le hn)⟩
  · cases h

/-- The lexer of the C family. -/
def cLexer : Lexer := ⟨cLexeme?, cLexeme?_bounds⟩

/-! ## The fragments -/

/-- A comment from two slashes to the end of the line. -/
def slashesNode : Node :=
  .both (.single (.literal '/'.toNat))
    (.both (.single (.literal '/'.toNat)) (.rounds .greedy 0 none (.single .any)))

/-- A comment between a slash with a star and a star with a slash. -/
def slashStarNode : Node :=
  .both (.single (.literal '/'.toNat))
    (.both (.single (.literal '*'.toNat))
      (.both (.rounds .lazy 0 none
          (.single (.oneOf false [.named .space false, .named .space true])))
        (.both (.single (.literal '*'.toNat)) (.single (.literal '/'.toNat)))))

/-- A literal in quotes that has none of the barred characters but behind a backslash. -/
def quotedNode (quote : Char) (barred : List Char) : Node :=
  .both (.single (.literal quote.toNat))
    (.both
      (.rounds .greedy 0 none
        (.either (.single (.oneOf true (barred.map fun c => .char c.toNat)))
          (.both (.single (.literal '\\'.toNat)) (.single .any))))
      (.single (.literal quote.toNat)))

variable {text : Array Char}

/-- Two slashes take the rest of the line. -/
theorem takesAt_slashes (i : Nat) : (slashesNode.run text {} false none Step.done).TakesAt text
    (.one (· == '/') (.one (· == '/') (.run (· != '\n')))) i :=
  takesAt_then (accepts_literal rfl '/') fun _ =>
    takesAt_then (accepts_literal rfl '/') fun _ => takesAt_greedy (accepts_any rfl) false _

/-- Looking for a star with a slash at each place comes to the first of them. -/
theorem upTo_eq_blockLength? (cs : List Char) :
    Extent.upTo (.one (· == '*') (.one (· == '/') fun _ => some 0)) cs = blockLength? cs := by
  fun_induction blockLength? cs with
  | case1 => rfl
  | case2 cs => rfl
  | case3 c cs hne ih =>
    have hnone : Extent.one (· == '*') (.one (· == '/') fun _ => some 0) (c :: cs) = none := by
      cases cs with
      | nil => simp [Extent.one]
      | cons d ds =>
        have hcd : c = '*' → ¬ d = '/' := fun hc hd => hne ds hc (by rw [hd])
        simpa [Extent.one] using hcd
    rw [Extent.upTo, ih, hnone, Option.none_or]

/-- A slash and a star take a block. -/
theorem takesAt_slashStar (i : Nat) : (slashStarNode.run text {} false none Step.done).TakesAt text
    (.one (· == '/') (.one (· == '*') blockLength?)) i := by
  have hspace : ∀ c : Char, (Single.oneOf false [.named .space false, .named .space true]).accepts
      {} c.toNat = true := by
    intro c
    simp [Single.accepts, Flags.memberOf, Flags.foldsClass, ClassItem.contains]
  have hend : ∀ i, ((Node.both (.single (.literal '*'.toNat)) (.single (.literal '/'.toNat))).run
      text {} false none Step.done).TakesAt text
        (.one (· == '*') (.one (· == '/') fun _ => some 0)) i := fun i =>
    takesAt_then (accepts_literal rfl '*') fun _ =>
      takesAt_single (accepts_literal rfl '/') (fun _ => Step.takesAt_done text _) _ _
  refine takesAt_then (accepts_literal rfl '/') fun _ =>
    takesAt_then (accepts_literal rfl '*') fun _ => ?_
  rw [Node.run]
  exact (takesAt_lazy hspace hend _ _ _).congr upTo_eq_blockLength?

private theorem ne_backslash {c : Char} {cs : List Char} (hlast : c = '\\' → cs = [] → False)
    (hescape : ∀ d ds, c = '\\' → cs = d :: ds → False) : c ≠ '\\' := by
  intro hc
  cases cs with
  | nil => exact hlast hc rfl
  | cons d ds => exact hescape d ds hc rfl

/-- A literal is read on over a character that is not barred, or over a backslash and the character
behind it; where neither is there, it has to be closed. -/
theorem literalLength?_eq {quote : Char} {severalLines : Bool} {barred : List Char}
    (hquote : quote ≠ '\\')
    (hbarred : ∀ c, c ∈ barred ↔ c = quote ∨ c = '\\' ∨ c = '\n' ∧ severalLines = false)
    (cs : List Char) :
    literalLength? quote severalLines cs =
      ((Extent.one (!barred.contains ·) (literalLength? quote severalLines) cs).or
        (Extent.one (· == '\\') (.one (· != '\n') (literalLength? quote severalLines)) cs)).or
        (Extent.one (· == quote) (fun _ => some 0) cs) := by
  fun_cases literalLength? quote severalLines cs with
  | case1 => rfl
  | case2 => simp [Extent.one, hbarred, hquote.symm]
  | case3 => simp [Extent.one, hbarred, hquote.symm]
  | case4 c cs hc => simp [Extent.one, hbarred, hquote.symm, hc, Function.comp_def]
  | case5 cs _ _ => simp [Extent.one, hbarred, hquote]
  | case6 c cs hlast hescape hc hline =>
    have hbackslash := ne_backslash hlast hescape
    simp_all [Extent.one]
  | case7 c cs hlast hescape hc hline =>
    have hbackslash := ne_backslash hlast hescape
    simp_all [Extent.one]

/-- A quote takes a literal. -/
theorem takesAt_quoted {quote : Char} {severalLines : Bool} {barred : List Char}
    (hquote : quote ≠ '\\')
    (hbarred : ∀ c, c ∈ barred ↔ c = quote ∨ c = '\\' ∨ c = '\n' ∧ severalLines = false)
    (i : Nat) : ((quotedNode quote barred).run text {} false none Step.done).TakesAt text
      (.one (· == quote) (literalLength? quote severalLines)) i := by
  refine takesAt_then (accepts_literal rfl quote) fun _ => ?_
  rw [Node.run]
  refine takesAt_rounds rfl (fun round i hround => ?_)
    (fun i => takesAt_single (accepts_literal rfl quote) (fun _ => Step.takesAt_done text _) _ _)
    (literalLength?_eq hquote hbarred) _ _ _
  refine takesAt_either ?_ ?_ rfl _
  · exact takesAt_single (accepts_notAmong rfl barred) (fun hlt => hround _ (by omega) hlt) _ _
  · exact takesAt_then (accepts_literal rfl '\\') fun _ =>
      takesAt_single (accepts_any rfl) (fun hlt => hround _ (by omega) hlt) _ _

/-! ## The language -/

/-- The language of a row of the built-in table. -/
def Builtin.language (b : Builtin) : Language where
  ids := idSet b.ids
  lineComments := b.line.map .text
  blockComments := b.block.map .text
  skippedBlocks := b.skipped.map .text

/-- A row of the built-in table is a valid entry of a configuration. -/
theorem ofConfig_toConfig {b : Builtin} (h : b.ids ≠ []) :
    ofConfig b.toConfig = .ok b.language := by
  have hids : b.ids.isEmpty = false := List.isEmpty_eq_false_iff.mpr h
  have hfields : field? b.entries "languageIds" "language_ids" = textList b.ids ∧
      field? b.entries "lineComments" "line_comments" = textList b.line ∧
      field? b.entries "blockComments" "block_comments" = textList b.block ∧
      field? b.entries "skippedBlocks" "skipped_blocks" = textList b.skipped :=
    ⟨rfl, rfl, rfl, rfl⟩
  simp only [ofConfig, Builtin.toConfig, hfields, textList, texts_list]
  change (if b.ids.isEmpty = true then _ else _) = _
  rw [hids]
  rfl

/-- The extents of the fragments of the C family, with whether they are comments. -/
def cExtents : List (Bool × Extent) :=
  [(true, .one (· == '/') (.one (· == '/') (.run (· != '\n')))),
   (true, .one (· == '/') (.one (· == '*') blockLength?)),
   (false, .one (· == '"') (literalLength? '"' false)),
   (false, .one (· == '\'') (literalLength? '\'' false)),
   (false, .one (· == '`') (literalLength? '`' true))]

/-- Every fragment takes what its extent takes. -/
theorem cFamily_takes : List.Forall₂ (fun r e => r.1 = e.1 ∧ r.2.Takes e.2)
    cFamily.language.roles cExtents := by
  refine .cons ⟨rfl, ?line⟩ (.cons ⟨rfl, ?block⟩ (.cons ⟨rfl, ?double⟩ (.cons ⟨rfl, ?single⟩
    (.cons ⟨rfl, ?back⟩ .nil))))
  case line =>
    exact Fragment.takes_of_takesAt (n := slashesNode) (f := {}) (by decide +kernel)
      fun _ => takesAt_slashes
  case block =>
    exact Fragment.takes_of_takesAt (n := slashStarNode) (f := {}) (by decide +kernel)
      fun _ => takesAt_slashStar
  case double =>
    exact Fragment.takes_of_takesAt (n := quotedNode '"' ['"', '\\', '\n']) (f := {})
      (by decide +kernel) fun _ => takesAt_quoted (by decide) (by simp)
  case single =>
    exact Fragment.takes_of_takesAt (n := quotedNode '\'' ['\'', '\\', '\n']) (f := {})
      (by decide +kernel) fun _ => takesAt_quoted (by decide) (by simp)
  case back =>
    exact Fragment.takes_of_takesAt (n := quotedNode '`' ['`', '\\']) (f := {})
      (by decide +kernel) fun _ => takesAt_quoted (by decide) (by simp)

/-- The lexer takes what the first of the extents takes. -/
theorem cLexeme?_eq (cs : List Char) :
    cLexeme? cs = cExtents.findSome? fun e => (e.2 cs).map fun n => ⟨e.1, n⟩ := by
  unfold cExtents
  fun_cases cLexeme? cs with
  | case1 cs => rfl
  | case2 cs => cases h : blockLength? cs <;> simp [Extent.one, h]
  | case3 cs => cases h : literalLength? '"' false cs <;> simp [Extent.one, h]
  | case4 cs => cases h : literalLength? '\'' false cs <;> simp [Extent.one, h]
  | case5 cs => cases h : literalLength? '`' true cs <;> simp [Extent.one, h]
  | case6 cs hslashes hstar hdouble hsingle hback =>
    cases cs with
    | nil => rfl
    | cons c cs =>
      have hc : c ≠ '"' ∧ c ≠ '\'' ∧ c ≠ '`' :=
        ⟨fun h => hdouble cs (by rw [h]), fun h => hsingle cs (by rw [h]),
          fun h => hback cs (by rw [h])⟩
      by_cases hslash : c = '/'
      · cases cs with
        | nil => simp [Extent.one, hc]
        | cons d cs =>
          have hd : d ≠ '/' ∧ d ≠ '*' :=
            ⟨fun h => hslashes cs (by rw [hslash, h]), fun h => hstar cs (by rw [hslash, h])⟩
          simp [Extent.one, hc, hd]
      · simp [Extent.one, hc, hslash]

/-- The comments that the first of the built-in languages finds are those of the lexer, whatever
kinds of annotations it is compiled with. -/
theorem cFamily_comments_eq_lexer :
    ∃ b, builtins.head? = some b ∧ ∀ kinds : AnnotationMatcher, ∃ l d,
      (LanguageEntry.value b.toConfig).grammar = .ok l ∧ compileLanguage kinds l = .ok d ∧
        ∀ text, d.comments text = .ok (cLexer.comments text) := by
  refine ⟨cFamily, rfl, fun kinds => ?_⟩
  have hgrammar : (LanguageEntry.value cFamily.toConfig).grammar = .ok cFamily.language := by
    rw [LanguageEntry.grammar, LanguageEntry.configured, ofConfig_toConfig (by decide)]
    · rfl
    · exact nofun
  have hplain : cFamily.language.commentMatcher.toOption.any (·.pattern.isPlain) = true := by
    decide +kernel
  have hnumberless : ∀ f ∈ cFamily.language.fragments, f.isNumberless = true :=
    List.all_eq_true.mp (by decide +kernel)
  cases hm : cFamily.language.commentMatcher with
  | error e =>
    rw [hm] at hplain
    cases hplain
  | ok m =>
    rw [hm] at hplain
    have hcompile : compileLanguage kinds cFamily.language = .ok
        { language := cFamily.language, commentMatcher := some m,
          annotationMatcher := some kinds } := by
      rw [compileLanguage, hm]
    refine ⟨_, _, hgrammar, hcompile, fun text => ?_⟩
    have hreads : CommentMatcher.Reads cFamily.language cLexer :=
      CommentMatcher.reads_of_takes cFamily_takes cLexeme?_eq
    have hcomments := CommentMatcher.comments_eq_lexed hm hnumberless hplain hreads text
    simp only [Descriptor.comments, hcomments]

-- A quote behind a backslash, a slash that opens and would close, and a literal that is not closed.
example : cLexer.comments (Text.chars "'\\'//' /*/ */ '//x") =
    [⟨"/*/ */", 7⟩, ⟨"//x", 15⟩] := by decide +kernel

end Marginalia.Language
