import Marginalia.Proofs.Extraction.Coverage

/-!
# Fragments with references by number

A fragment that refers to its own first group by the number one compiles on its own, and means what
it says there.  In a combined pattern the number counts from the start of that pattern.  The first
group is then the one around all comments, or the one of the first annotation kind.  A skipped block
and a later kind are tried only after that group has failed, so it is never set then, and the
reference fails.

So a fragment that can only match by way of such a reference (`Fragment.NeedsFirst`) does not match at
all, and the combined pattern does what the other fragments do (`stop_of_numberless`).  If all blocks
of a language are of this kind, nothing is skipped: every hit of a pass is a comment, also inside of
what the blocks describe.
-/

namespace Marginalia

open Pattern

/-- A quoted string, which ends with the quote that it starts with. -/
def quotedBlock : Fragment := .text "([\"']).*?\\1"

example : (Fragment.text "([\"']).*?\\1").isNumberless = false := by decide +kernel

theorem quotedBlock_needsFirst : quotedBlock.NeedsFirst := by
  refine ⟨"([\"']).*?\\1", rfl, by decide +kernel, fun w => ?_⟩
  have hread : (readBehind (some w) "([\"']).*?\\1").any (fun ns => (Node.sequence ns).needs 1) =
      true := by cbv
  cases hns : readBehind (some w) "([\"']).*?\\1" with
  | none =>
    rw [hns] at hread
    cases hread
  | some ns =>
    rw [hns] at hread
    exact ⟨ns, rfl, hread⟩

/-- How far the first of the fragments that matches at a position matches on its own. -/
def firstStop? {α : Type} (fragments : List (α × Fragment)) (text : Array Char) (s : Nat) :
    Option Nat :=
  (winner? fragments text s).map (·.2.stop)

/-- The fragments that have no references by number. -/
def withoutNumbers {α : Type} (fragments : List (α × Fragment)) : List (α × Fragment) :=
  fragments.filter (·.2.isNumberless)

theorem CommentMatcher.stop_of_numberless {l : Language} {m : CommentMatcher}
    (h : l.commentMatcher = .ok m)
    (hcomments : ∀ f ∈ l.lineComments ++ l.blockComments, f.isNumberless = true)
    (hskipped : ∀ f ∈ l.skippedBlocks, f.isNumberless = true ∨ f.NeedsFirst) {text : Array Char}
    {s : Nat} (hs : s ≤ text.size) :
    (m.pattern.matchAt text s).map (·.stop) = firstStop? (withoutNumbers l.roles) text s := by
  obtain ⟨comments, skipped, hcompiles, hcompiles', hp⟩ := Language.commentMatcher_ok h
  unfold firstStop? withoutNumbers
  obtain ⟨hnone, hwinner⟩ | ⟨r, w, hr, hwinner, hshows⟩ :=
    comment_winner hcompiles hcompiles' hp hcomments hskipped hs
  · rw [hnone, hwinner]
    rfl
  · rw [hr, hwinner]
    exact congrArg some hshows.shows.stop

theorem AnnotationMatcher.stop_of_numberless {kinds : List (Value × Fragment)}
    {m : AnnotationMatcher} (h : AnnotationMatcher.ofKinds kinds = .ok m) (hlost : KindsLost kinds)
    {text : Array Char} {s : Nat} (hs : s ≤ text.size) :
    (m.pattern.matchAt text s).map (·.stop) =
      firstStop? (withoutNumbers (kindFragments kinds)) text s := by
  obtain ⟨es, hes, hp⟩ := AnnotationMatcher.ofKinds_ok h
  unfold firstStop? withoutNumbers
  obtain ⟨hnone, hwinner⟩ | ⟨r, w, hr, hwinner, hshows⟩ := kind_winner hes hp hlost hs
  · rw [hnone, hwinner]
    rfl
  · rw [hr, hwinner]
    exact congrArg some hshows.shows.stop

/-- If every skipped block needs the first group, every hit of a search is a comment. -/
theorem CommentMatcher.body_of_needsFirst {l : Language} {m : CommentMatcher}
    (h : l.commentMatcher = .ok m) (hfirst : ∀ f ∈ l.skippedBlocks, f.NeedsFirst)
    {text : Array Char} {position : Nat} (hle : position ≤ text.size) {x : CommentMatch}
    (hx : m.search text position = .ok (some x)) :
    x.body = some (Text.slice text x.start x.stop) := by
  obtain ⟨comments, skipped, -, hskipped, hp⟩ := Language.commentMatcher_ok h
  have hneeds : ∀ e ∈ skipped, Pattern.NeedsFirst e.1 :=
    forall_mem_of_forall₂ hskipped hfirst fun _ _ hf he => he.needsFirst hf
  unfold search Pattern.search at hx
  cases hfind : m.pattern.find? text position with
  | none => simp [hfind] at hx
  | some r =>
    obtain ⟨htries, hmatch, -⟩ := (find?_eq_some_iff hle).mp hfind
    cases hcrossed : r.captures.isCrossed with
    | true => simp [hfind, hcrossed] at hx
    | false =>
      have hhit : x = hitOf text r := by simpa [hfind, hcrossed, eq_comm] using hx
      have hmark := hp.mark?_of_needsFirst hneeds (htries.le_size hle) hmatch
      rcases hp.hitOf_cases (htries.le_size hle) hmatch hcrossed with ⟨hnone, -⟩ | ⟨-, -, hcomment⟩
      · cases hmark.symm.trans hnone
      · rw [hhit, hcomment]

/-- Let the comments of a language and the first kind have no references by number, and let the skipped
blocks and kinds that have some need the first group.  Then each combined pattern matches where, and as
far as, the first fragment without references by number does.  So it does what its fragments do on
their own exactly where the others make no difference to that.  If all blocks are by number, a pass
over a text skips nothing: its hits are comments. -/
theorem fragments_by_number_never_match {l : Language} {comments : CommentMatcher}
    {kinds : List (Value × Fragment)} {annotations : AnnotationMatcher}
    (hcompiles : l.commentMatcher = .ok comments)
    (hcompiles' : AnnotationMatcher.ofKinds kinds = .ok annotations)
    (hcomments : ∀ f ∈ l.lineComments ++ l.blockComments, f.isNumberless = true)
    (hskipped : ∀ f ∈ l.skippedBlocks, f.isNumberless = true ∨ f.NeedsFirst)
    (hkinds : KindsLost kinds) (text : Array Char) :
    (∀ s ≤ text.size,
      let stop? := (comments.pattern.matchAt text s).map (·.stop)
      stop? = firstStop? (withoutNumbers l.roles) text s ∧
        (stop? = firstStop? l.roles text s ↔
          firstStop? (withoutNumbers l.roles) text s = firstStop? l.roles text s)) ∧
    (∀ s ≤ text.size,
      let stop? := (annotations.pattern.matchAt text s).map (·.stop)
      stop? = firstStop? (withoutNumbers (kindFragments kinds)) text s ∧
        (stop? = firstStop? (kindFragments kinds) text s ↔
          firstStop? (withoutNumbers (kindFragments kinds)) text s =
            firstStop? (kindFragments kinds) text s)) ∧
    ((∀ f ∈ l.skippedBlocks, f.NeedsFirst) →
      ∀ x ∈ (comments.pass text).1, x.body = some (Text.slice text x.start x.stop)) := by
  refine ⟨fun s hs => ?_, fun s hs => ?_, fun hfirst x hx => ?_⟩
  · have hstop := CommentMatcher.stop_of_numberless hcompiles hcomments hskipped hs
    exact ⟨hstop, by rw [hstop]⟩
  · have hstop := AnnotationMatcher.stop_of_numberless hcompiles' hkinds hs
    exact ⟨hstop, by rw [hstop]⟩
  · rw [CommentMatcher.pass_eq] at hx
    obtain ⟨position, hle, hsearch⟩ := Scanner.mem_run hx
    refine CommentMatcher.body_of_needsFirst hcompiles hfirst hle ?_
    simp only [CommentMatcher.scanner] at hsearch
    cases hfound : comments.search text position with
    | error e =>
      rw [hfound] at hsearch
      cases hsearch
    | ok found =>
      rw [hfound] at hsearch
      exact congrArg _ (Except.ok.inj hsearch)

/-- A language with line comments, in which quoted strings are to be skipped. -/
def numberingLanguage : Language :=
  { ids := ["t"], lineComments := [.text "//.*"], skippedBlocks := [quotedBlock] }

/-- Two kinds, the second for quoted strings. -/
def numberingKinds : List (Value × Fragment) :=
  [(.str "WORD", .text "\\w+"), (.str "QUOTED", quotedBlock)]

/-- A comment is found in a quoted string: the string is not skipped where it starts, although the
block matches there on its own.  It is not found as an annotation either. -/
theorem fragments_by_number_never_match_quoted :
    ∃ comments annotations, numberingLanguage.commentMatcher = .ok comments ∧
      AnnotationMatcher.ofKinds numberingKinds = .ok annotations ∧
      (comments.pass (Text.chars "\"//\"")).1 = [⟨1, 4, some "//\""⟩] ∧
      (∀ x ∈ (comments.pass (Text.chars "\"//\"")).1,
        x.body = some (Text.slice (Text.chars "\"//\"") x.start x.stop)) ∧
      (comments.pattern.matchAt (Text.chars "\"//\"") 0).map (·.stop) ≠
        firstStop? numberingLanguage.roles (Text.chars "\"//\"") 0 ∧
      (annotations.pattern.matchAt (Text.chars "\"//\"") 0).map (·.stop) ≠
        firstStop? (kindFragments numberingKinds) (Text.chars "\"//\"") 0 := by
  have hpass : (numberingLanguage.commentMatcher.toOption.map fun m =>
      (m.pass (Text.chars "\"//\"")).1) = some [⟨1, 4, some "//\""⟩] := by decide +kernel
  have hkinds : (AnnotationMatcher.ofKinds numberingKinds).toOption.isSome = true := by
    decide +kernel
  have hroles : firstStop? (withoutNumbers numberingLanguage.roles) (Text.chars "\"//\"") 0 ≠
      firstStop? numberingLanguage.roles (Text.chars "\"//\"") 0 := by decide +kernel
  have hnames : firstStop? (withoutNumbers (kindFragments numberingKinds))
      (Text.chars "\"//\"") 0 ≠
      firstStop? (kindFragments numberingKinds) (Text.chars "\"//\"") 0 := by decide +kernel
  have hlost : KindsLost numberingKinds := by
    refine ⟨by decide +kernel, List.forall_mem_cons.mpr ⟨.inl (by decide +kernel), ?_⟩⟩
    exact List.forall_mem_singleton.mpr (.inr quotedBlock_needsFirst)
  obtain ⟨comments, hcomments, hpass⟩ := Option.map_eq_some_iff.mp hpass
  obtain ⟨annotations, hannotations⟩ := Option.isSome_iff_exists.mp hkinds
  have hcomments := eq_ok_of_toOption hcomments
  have hannotations := eq_ok_of_toOption hannotations
  obtain ⟨hcomment, hkind, hbody⟩ := fragments_by_number_never_match hcomments hannotations
    (List.forall_mem_singleton.mpr (by decide +kernel))
    (List.forall_mem_singleton.mpr (.inr quotedBlock_needsFirst)) hlost (Text.chars "\"//\"")
  exact ⟨comments, annotations, hcomments, hannotations, hpass,
    hbody (List.forall_mem_singleton.mpr quotedBlock_needsFirst),
    fun h => hroles ((hcomment 0 (Nat.zero_le _)).2.mp h),
    fun h => hnames ((hkind 0 (Nat.zero_le _)).2.mp h)⟩

/-- On its own the block matches the whole quoted string, and the comment does not match where the
string starts; but the combined pattern finds nothing there. -/
theorem quoted_string_not_skipped :
    ∃ m own comment, numberingLanguage.commentMatcher = .ok m ∧
      Pattern.compile "([\"']).*?\\1" = .ok own ∧ Pattern.compile "//.*" = .ok comment ∧
      (own.matchAt (Text.chars "\"//\"") 0).map (·.stop) = some 4 ∧
      comment.matchAt (Text.chars "\"//\"") 0 = none ∧
      m.pattern.matchAt (Text.chars "\"//\"") 0 = none := by
  have hvalue : (numberingLanguage.commentMatcher.toOption.map fun m =>
      (Pattern.compile "([\"']).*?\\1").toOption.map fun own =>
        (Pattern.compile "//.*").toOption.map fun comment =>
          ((own.matchAt (Text.chars "\"//\"") 0).map (·.stop),
            (comment.matchAt (Text.chars "\"//\"") 0).isNone,
            (m.pattern.matchAt (Text.chars "\"//\"") 0).isNone)) =
      some (some (some (some 4, true, true))) := by decide +kernel
  obtain ⟨m, hm, hvalue⟩ := Option.map_eq_some_iff.mp hvalue
  obtain ⟨own, hown, hvalue⟩ := Option.map_eq_some_iff.mp hvalue
  obtain ⟨comment, hcomment, hvalue⟩ := Option.map_eq_some_iff.mp hvalue
  obtain ⟨hstop, hrest⟩ := Prod.mk.inj hvalue
  obtain ⟨hnone, hcombined⟩ := Prod.mk.inj hrest
  exact ⟨m, own, comment, eq_ok_of_toOption hm, eq_ok_of_toOption hown, eq_ok_of_toOption hcomment,
    hstop, Option.isNone_iff_eq_none.mp hnone, Option.isNone_iff_eq_none.mp hcombined⟩

end Marginalia
