import Marginalia.Proofs.Extraction.Coverage
import Marginalia.Proofs.Pattern.Extents

/-!
# Comments by a lexer

A lexer knows of each text which lexeme it begins with, if any: a comment, or a part in which
nothing is a comment.  It reads from left to right, takes the lexeme ahead and goes on behind it,
and where there is none it goes on by one character.

The fragments of a language do the same by searching.  If at each position the fragment that wins
takes what the lexer takes, the comments that are found are those of the lexer
(`CommentMatcher.comments_eq_lexed`).
-/

namespace Marginalia

open Pattern

/-- A number of characters that are taken together, as a comment or not. -/
structure Lexeme where
  isComment : Bool
  length : Nat
deriving DecidableEq, Repr

/-- The lexeme with which a text begins, if any.  It is not empty and lies in the text. -/
structure Lexer where
  next? : List Char → Option Lexeme
  bounds : ∀ {cs : List Char} {x : Lexeme}, next? cs = some x → 0 < x.length ∧ x.length ≤ cs.length

namespace Lexer

variable (L : Lexer)

/-- The comments from the position `i` on, where the text `cs` is ahead.  The first `taken`
characters of it belong to a lexeme that begins before. -/
def lexed : Nat → Nat → List Char → List Comment
  | _, _, [] => []
  | taken + 1, i, _ :: cs => lexed taken (i + 1) cs
  | 0, i, c :: cs =>
    match L.next? (c :: cs) with
    | none => lexed 0 (i + 1) cs
    | some x =>
      let rest := lexed (x.length - 1) (i + 1) cs
      if x.isComment then ⟨String.ofList ((c :: cs).take x.length), i⟩ :: rest else rest

/-- The comments of a text. -/
def comments (text : Array Char) : List Comment := L.lexed 0 0 text.toList

variable {L} {i : Nat} {cs : List Char}

/-- Characters that were taken are skipped. -/
theorem lexed_taken (taken i : Nat) (cs : List Char) :
    L.lexed taken i cs = L.lexed 0 (i + taken) (cs.drop taken) := by
  induction cs generalizing taken i with
  | nil => cases taken <;> simp [lexed]
  | cons c cs ih =>
    cases taken with
    | zero => rfl
    | succ taken => rw [lexed, ih, List.drop_succ_cons, Nat.add_right_comm, Nat.add_assoc]

/-- Where no lexeme begins, the lexer goes on to the next position. -/
theorem lexed_none (h : L.next? cs = none) : L.lexed 0 i cs = L.lexed 0 (i + 1) cs.tail := by
  cases cs with
  | nil => rfl
  | cons c cs =>
    rw [lexed, h]
    rfl

/-- A lexeme is taken as a whole. -/
theorem lexed_some {x : Lexeme} (h : L.next? cs = some x) :
    L.lexed 0 i cs = (if x.isComment then [⟨String.ofList (cs.take x.length), i⟩] else []) ++
      L.lexed 0 (i + x.length) (cs.drop x.length) := by
  obtain ⟨hpos, hle⟩ := L.bounds h
  obtain ⟨isComment, length⟩ := x
  obtain ⟨n, rfl⟩ := Nat.exists_eq_add_one_of_ne_zero (Nat.ne_of_gt hpos)
  cases cs with
  | nil => exact absurd hle (Nat.not_succ_le_zero n)
  | cons c cs =>
    rw [lexed, h]
    simp only [Nat.add_sub_cancel, List.drop_succ_cons]
    rw [lexed_taken n, Nat.add_right_comm, Nat.add_assoc]
    cases isComment <;> rfl

/-- Without a lexeme in between the lexer comes from one position to another. -/
theorem lexed_passes {text : Array Char} {position s : Nat} (hle : position ≤ s)
    (h : ∀ s', position ≤ s' → s' < s → L.next? (text.toList.drop s') = none) :
    L.lexed 0 position (text.toList.drop position) = L.lexed 0 s (text.toList.drop s) := by
  induction s, hle using Nat.le_induction with
  | base => rfl
  | succ s hle ih =>
    rw [ih fun s' hs' hlt => h s' hs' (Nat.lt_succ_of_lt hlt), lexed_none (h s hle s.lt_succ_self),
      List.tail_drop]

end Lexer

/-- Behind the text there is nothing to take. -/
theorem Lexer.lexed_past {L : Lexer} {text : Array Char} {position : Nat}
    (h : text.size ≤ position) : L.lexed 0 position (text.toList.drop position) = [] := by
  rw [List.drop_of_length_le h]
  rfl

theorem Text.slice_eq (text : Array Char) (i n : Nat) :
    Text.slice text i (i + n) = String.ofList ((text.toList.drop i).take n) := by
  rw [Text.slice, Array.toList_extract, List.extract_eq_take_drop, Nat.add_sub_cancel_left]

/-- Wherever the fragment is tried on its own it takes what the extent takes. -/
def Fragment.Takes (f : Fragment) (e : Extent) : Prop :=
  ∀ (text : Array Char) (s : Nat), f.matchAt? text s =
    (e (text.toList.drop s)).map fun n => ⟨s, s + n, {}⟩

/-- A fragment takes what its pattern takes. -/
theorem Fragment.takes_of_takesAt {source : String} {n : Node} {f : Flags} {e : Extent}
    (hcompile : (Pattern.compile (Fragment.normalise source)).toOption.map
      (fun p => (p.root, p.flags)) = some (n, f))
    (hn : ∀ text i, (n.run text f false none Step.done).TakesAt text e i) :
    (Fragment.text source).Takes e := by
  intro text s
  obtain ⟨p, hp, heq⟩ := Option.map_eq_some_iff.mp hcompile
  cases heq
  simp only [matchAt?, source?, Option.bind_eq_bind, Option.bind_some, hp]
  exact matchAt_of_takesAt (hn text s)

namespace CommentMatcher

variable {l : Language} {m : CommentMatcher} {L : Lexer} {text : Array Char}

/-- The fragment that wins at a position takes the lexeme there. -/
def Reads (l : Language) (L : Lexer) : Prop :=
  ∀ (text : Array Char) (s : Nat), winner? l.roles text s =
    (L.next? (text.toList.drop s)).map fun x => (x.isComment, ⟨s, s + x.length, {}⟩)

/-- A lexer that takes what the first of the fragments' extents takes. -/
theorem reads_of_takes {es : List (Bool × Extent)}
    (hes : List.Forall₂ (fun r e => r.1 = e.1 ∧ r.2.Takes e.2) l.roles es)
    (hL : ∀ cs, L.next? cs = es.findSome? fun e => (e.2 cs).map fun n => ⟨e.1, n⟩) :
    Reads l L := by
  intro text s
  rw [winner?, hL]
  clear hL
  generalize l.roles = rs at hes ⊢
  induction hes with
  | nil => rfl
  | @cons r e rs es hr _ ih =>
    rw [List.findSome?_cons, List.findSome?_cons, hr.1, hr.2 text s, ih]
    cases e.2 (text.toList.drop s) <;> rfl

/-- The hit that a lexeme stands for. -/
def lexemeHit (text : Array Char) (s : Nat) (x : Lexeme) : CommentMatch :=
  commentHit text (s, x.isComment, ⟨s, s + x.length, {}⟩)

/-- A lexeme is a comment or is skipped. -/
theorem comment?_lexemeHit {s : Nat} {x : Lexeme} (h : L.next? (text.toList.drop s) = some x) :
    (lexemeHit text s x).comment?.toList = if x.isComment then
      [⟨String.ofList ((text.toList.drop s).take x.length), s⟩] else [] := by
  obtain ⟨hpos, hle⟩ := L.bounds h
  unfold lexemeHit commentHit CommentMatch.comment?
  rw [Text.slice_eq]
  cases x.isComment with
  | false => rfl
  | true =>
    have hne : (text.toList.drop s).take x.length ≠ [] := by
      rw [← List.length_pos_iff, List.length_take]
      omega
    simp only [if_true]
    rw [if_neg (by simpa using hne)]
    rfl

section

variable (h : l.commentMatcher = .ok m) (hnumberless : ∀ f ∈ l.fragments, f.isNumberless = true)
  (hplain : m.pattern.isPlain = true) (hreads : Reads l L)
include h hnumberless hplain hreads

/-- A round of the loop: nothing is left for the lexer, or the loop and the lexer take one lexeme.
-/
theorem search_eq_lexed {position : Nat} (hle : position ≤ text.size) :
    (m.search text position = .ok none ∧
        L.lexed 0 position (text.toList.drop position) = []) ∨
      ∃ s x, position ≤ s ∧ L.next? (text.toList.drop s) = some x ∧
        m.search text position = .ok (some (lexemeHit text s x)) ∧
        L.lexed 0 position (text.toList.drop position) =
          (lexemeHit text s x).comment?.toList ++
            L.lexed 0 (s + x.length) (text.toList.drop (s + x.length)) := by
  obtain ⟨found, hfound, hsearch⟩ := (search_leftmost h hnumberless hle).2 hplain
  have hnext {s : Nat} (hs : winner? l.roles text s = none) :
      L.next? (text.toList.drop s) = none := by
    rw [hreads] at hs
    exact Option.map_eq_none_iff.mp hs
  cases hfound with
  | nowhere hnone =>
    refine .inl ⟨hsearch, ?_⟩
    rw [Lexer.lexed_passes hle fun s hs hlt => hnext (hnone s ⟨hs, Nat.le_of_lt hlt⟩),
      Lexer.lexed_past (Nat.le_refl text.size)]
  | @first s w hs hw hfirst =>
    rw [hreads] at hw
    obtain ⟨x, hx, rfl⟩ := Option.map_eq_some_iff.mp hw
    refine .inr ⟨s, x, hs.1, hx, hsearch, ?_⟩
    rw [Lexer.lexed_passes hs.1 fun s' hs' hlt =>
        hnext (hfirst s' hlt ⟨hs', Nat.le_trans (Nat.le_of_lt hlt) hs.2⟩),
      Lexer.lexed_some hx, comment?_lexemeHit hx, List.drop_drop]

/-- The loop has a round for each position, and each round but the last moves on. -/
theorem run_eq_lexed {left position : Nat} (hleft : text.size < position + left) :
    ∃ xs, (m.scanner text).run left position = (xs, none) ∧
      xs.filterMap CommentMatch.comment? = L.lexed 0 position (text.toList.drop position) := by
  induction left generalizing position with
  | zero => exact ⟨[], rfl, (Lexer.lexed_past (Nat.le_of_lt hleft)).symm⟩
  | succ left ih =>
    obtain hlt | hle := Nat.lt_or_ge text.size position
    · exact ⟨[], Scanner.run_past hlt _, (Lexer.lexed_past (Nat.le_of_lt hlt)).symm⟩
    obtain ⟨hsearch, hlexed⟩ | ⟨s, x, hs, hx, hsearch, hlexed⟩ :=
      search_eq_lexed h hnumberless hplain hreads hle
    · exact ⟨[], Scanner.run_nothing hle (congrArg (Except.mapError _) hsearch) left, hlexed.symm⟩
    · have hpos := (L.bounds hx).1
      have hafter : (m.scanner text).after (lexemeHit text s x) = s + x.length :=
        if_neg (Nat.ne_of_gt (Nat.lt_add_of_pos_right hpos))
      obtain ⟨xs, hxs, hrest⟩ := @ih (s + x.length) (by omega)
      refine ⟨lexemeHit text s x :: xs, ?_, ?_⟩
      · rw [Scanner.run_hit hle (congrArg (Except.mapError _) hsearch), hafter, hxs]
      · rw [hlexed, ← hrest, List.filterMap_cons]
        cases (lexemeHit text s x).comment? <;> rfl

/-- The comments that the fragments of a language find are those of a lexer that takes at each
position what the winning fragment takes. -/
theorem comments_eq_lexed (text : Array Char) : m.comments text = (L.comments text, none) := by
  obtain ⟨xs, hxs, hlexed⟩ := run_eq_lexed h hnumberless hplain hreads
    (show text.size < 0 + (text.size + 1) by omega)
  unfold comments
  rw [pass_eq]
  exact (congrArg (fun r => (r.1.filterMap CommentMatch.comment?, r.2)) hxs).trans
    (congrArg (·, none) hlexed)

end

end CommentMatcher

end Marginalia
