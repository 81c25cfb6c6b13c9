import Marginalia.Proofs.Extraction.Passes
import Marginalia.Proofs.Matcher.Winner

/-!
# Nothing is missed

The loops over comments and over annotations, as passes of a `Scanner`.  Both search with their
combined pattern, and the place of a hit is that of the match (`CommentMatcher.follows`,
`AnnotationMatcher.follows`), although the hit is told from a group.

* A hit of an annotation never ends before it starts, so that the loop over annotations always ends.
  A skipped block may, if it repeats possessively more than one character; the loop over comments
  then goes back, perhaps for ever (`pass_misses_and_returns`).
* What a pass has consumed when it ends covers every position at which a search can find a match
  (`Scanner.Complete`), and what is reported of it are the hits that are not empty, in order.
-/

namespace Marginalia

open Pattern

/-- The cursor behind a hit. -/
theorem Cursor.advance_eq {σ : Type} (w : Scanner σ) (c : Cursor) (x : σ) :
    c.advance (w.start x) (w.stop x) = ⟨(w.after x : Nat)⟩ := by
  unfold advance Scanner.after
  split
  · rename_i h
    rw [if_pos (Int.ofNat.inj h)]
    rfl
  · rename_i h
    rw [if_neg fun heq => h (congrArg Int.ofNat heq)]

/-- What a loop comes to: a list, unless it broke off. -/
def outcome {α : Type} : List α × Option ScanError → Except ScanError (List α)
  | (xs, none) => .ok xs
  | (_, some e) => .error e

/-! ## The loop over comments -/

namespace CommentMatcher

variable {l : Language} {m : CommentMatcher} {text : Array Char}

/-- The comments of a text, as a scanner. -/
def scanner (m : CommentMatcher) (text : Array Char) : Scanner CommentMatch where
  size := text.size
  search position := (m.search text position).mapError .crossedGroup
  start := CommentMatch.start
  stop := CommentMatch.stop

/-- A pass is a run of the scanner. -/
theorem passFrom_eq (m : CommentMatcher) (text : Array Char) (left position : Nat) :
    m.passFrom text left ⟨position⟩ = (m.scanner text).run left position := by
  induction left generalizing position with
  | zero => rfl
  | succ left ih =>
    unfold passFrom
    rcases Nat.lt_or_ge text.size position with hlt | hle
    · rw [if_pos (Int.ofNat_lt.mpr hlt), Scanner.run_past hlt]
    · rw [if_neg (Int.not_lt.mpr (Int.ofNat_le.mpr hle))]
      cases hsearch : m.search text position with
      | error e => rw [Scanner.run_failed hle (congrArg (Except.mapError _) hsearch)]
      | ok found =>
        cases found with
        | none => rw [Scanner.run_nothing hle (congrArg (Except.mapError _) hsearch)]
        | some x =>
          rw [Scanner.run_hit hle (congrArg (Except.mapError _) hsearch), ← ih,
            ← Cursor.advance_eq _ ⟨position⟩]
          rfl

theorem pass_eq (m : CommentMatcher) (text : Array Char) :
    m.pass text = (m.scanner text).run ((m.scanner text).size + 1) 0 :=
  m.passFrom_eq text (text.size + 1) 0

/-- What a search answers. A comment has the text of the match as its body. -/
theorem search_cases (h : l.commentMatcher = .ok m) {position : Nat} (hle : position ≤ text.size) :
    (m.pattern.find? text position = none ∧ m.search text position = .ok none) ∨
      (∃ r, m.pattern.find? text position = some r ∧ r.captures.isCrossed = true ∧
        m.search text position = .error ⟨⟩) ∨
      ∃ r body, m.pattern.find? text position = some r ∧
        m.search text position = .ok (some ⟨r.start, r.stop, body⟩) ∧
        (body = none ∨ r.start ≤ r.stop ∧ body = some (Text.slice text r.start r.stop)) := by
  obtain ⟨comments, skipped, -, -, hp⟩ := Language.commentMatcher_ok h
  unfold search Pattern.search
  cases hfind : m.pattern.find? text position with
  | none => exact .inl ⟨rfl, rfl⟩
  | some r =>
    obtain ⟨htries, hmatch, -⟩ := (find?_eq_some_iff hle).mp hfind
    cases hcrossed : r.captures.isCrossed with
    | true => exact .inr (.inl ⟨r, rfl, hcrossed, by simp [hcrossed]⟩)
    | false =>
      refine .inr (.inr ⟨r, (hitOf text r).body, rfl, ?_⟩)
      rcases hp.hitOf_cases (htries.le_size hle) hmatch hcrossed with ⟨-, hhit⟩ | ⟨-, hforward, hhit⟩
      · simp [hcrossed, hhit]
      · simp [hcrossed, hhit, hforward]

/-- The scanner follows the pattern. -/
theorem follows (h : l.commentMatcher = .ok m) (text : Array Char) :
    (m.scanner text).Follows m.pattern text := by
  refine ⟨rfl, fun position hle => ?_⟩
  simp only [scanner]
  rcases search_cases h hle with ⟨hfind, hsearch⟩ | ⟨r, hfind, hcrossed, hsearch⟩ |
      ⟨r, body, hfind, hsearch, -⟩
  · rw [hfind, hsearch]
    exact .none
  · rw [hfind, hsearch]
    exact .crossed hcrossed
  · rw [hfind, hsearch]
    exact .hit rfl rfl

/-- What is known of a hit: a comment does not end before it starts, and its body is its text. -/
def IsHit (text : Array Char) (x : CommentMatch) : Prop :=
  x.stop ≤ text.size ∧
    (x.body = none ∨ x.start ≤ x.stop ∧ x.body = some (Text.slice text x.start x.stop))

/-- What a pass finds lies within the text. -/
theorem isHit_of_mem_pass (h : l.commentMatcher = .ok m) {x : CommentMatch}
    (hx : x ∈ (m.pass text).1) : IsHit text x := by
  rw [pass_eq] at hx
  obtain ⟨position, hle, hsearch⟩ := Scanner.mem_run hx
  refine ⟨((follows h text).place hle hsearch).2.2, ?_⟩
  simp only [scanner] at hle hsearch
  rcases search_cases h hle with ⟨-, heq⟩ | ⟨r, -, -, heq⟩ | ⟨r, body, -, heq, hbody⟩
  · rw [heq] at hsearch
    cases hsearch
  · rw [heq] at hsearch
    cases hsearch
  · rw [heq] at hsearch
    cases hsearch
    exact hbody

/-- A pass breaks off only where groups cross, which takes a pattern that does not keep its place. -/
theorem pass_broken (h : l.commentMatcher = .ok m) (text : Array Char) :
    (m.pass text).2 = none ∨
      (m.pass text).2 = some (.crossedGroup ⟨⟩) ∧ m.pattern.root.keepsPlace = false := by
  obtain ⟨comments, skipped, -, -, hp⟩ := Language.commentMatcher_ok h
  have hfollows := follows h text
  rw [pass_eq]
  cases hbroken : ((m.scanner text).run ((m.scanner text).size + 1) 0).2 with
  | none => exact .inl rfl
  | some e =>
    obtain ⟨position, hle, hsearch⟩ := Scanner.run_broken hbroken
    obtain ⟨rfl, -⟩ := hfollows.of_failed hle hsearch
    refine .inr ⟨rfl, Bool.eq_false_iff.mpr fun hplace => ?_⟩
    exact hfollows.not_failed hp.compiles hplace hle hsearch

/-- With a pattern that keeps its place no hit ends before it starts. -/
theorem forward_of_mem_pass (h : l.commentMatcher = .ok m)
    (hplace : m.pattern.root.keepsPlace = true) {x : CommentMatch} (hx : x ∈ (m.pass text).1) :
    x.start ≤ x.stop := by
  obtain ⟨comments, skipped, -, -, hp⟩ := Language.commentMatcher_ok h
  rw [pass_eq] at hx
  obtain ⟨position, hle, hsearch⟩ := Scanner.mem_run hx
  exact (follows h text).forward hp.compiles hplace hle hsearch

/-- The loop over comments ends if no hit that it consumes ends before it starts. -/
theorem runs_pass (h : l.commentMatcher = .ok m)
    (hforward : ∀ x ∈ (m.pass text).1, x.start ≤ x.stop) :
    (m.scanner text).Runs 0 (m.pass text).1 (m.pass text).2 := by
  rw [pass_eq] at hforward ⊢
  exact (follows h text).runs_run (Nat.lt_succ_self _) hforward

end CommentMatcher

/-! ## The loop over annotations -/

namespace AnnotationMatcher

variable {kinds : List (Value × Fragment)} {m : AnnotationMatcher} {text : Array Char}

/-- The annotations of a text, as a scanner. -/
def scanner (m : AnnotationMatcher) (text : Array Char) : Scanner AnnotationMatch where
  size := text.size
  search position := m.search text position
  start := AnnotationMatch.start
  stop := AnnotationMatch.stop

/-- Hits are a run of the scanner. -/
theorem hitsFrom_eq (m : AnnotationMatcher) (text : Array Char) (left position : Nat) :
    m.hitsFrom text left ⟨position⟩ = outcome ((m.scanner text).run left position) := by
  induction left generalizing position with
  | zero => rfl
  | succ left ih =>
    unfold hitsFrom
    rcases Nat.lt_or_ge text.size position with hlt | hle
    · rw [if_pos (Int.ofNat_lt.mpr hlt), Scanner.run_past hlt]
      rfl
    · rw [if_neg (Int.not_lt.mpr (Int.ofNat_le.mpr hle))]
      cases hsearch : m.search text position with
      | error e =>
        rw [Scanner.run_failed hle hsearch]
        rfl
      | ok found =>
        cases found with
        | none =>
          rw [Scanner.run_nothing hle hsearch]
          rfl
        | some x =>
          have hcursor : Cursor.advance ⟨position⟩ x.start x.stop = ⟨(m.scanner text).after x⟩ :=
            Cursor.advance_eq (m.scanner text) ⟨position⟩ x
          rw [Scanner.run_hit hle hsearch]
          dsimp only
          rw [hcursor, ih]
          rcases (m.scanner text).run left ((m.scanner text).after x) with ⟨hs, _ | e⟩
          · rfl
          · rfl

theorem hits_eq (m : AnnotationMatcher) (text : Array Char) :
    m.hits text = outcome ((m.scanner text).run ((m.scanner text).size + 1) 0) :=
  m.hitsFrom_eq text (text.size + 1) 0

/-- What a search answers. An annotation does not end before it starts, and its value is its text. -/
theorem search_cases (h : ofKinds kinds = .ok m) {position : Nat} (hle : position ≤ text.size) :
    (m.pattern.find? text position = none ∧ m.search text position = .ok none) ∨
      (∃ r, m.pattern.find? text position = some r ∧ r.captures.isCrossed = true ∧
        m.search text position = .error (.crossedGroup ⟨⟩)) ∨
      ∃ r name, m.pattern.find? text position = some r ∧ r.start ≤ r.stop ∧
        m.search text position =
          .ok (some ⟨name, r.start, r.stop, Text.slice text r.start r.stop⟩) := by
  obtain ⟨es, -, hp⟩ := ofKinds_ok h
  unfold search Pattern.search
  cases hfind : m.pattern.find? text position with
  | none => exact .inl ⟨rfl, rfl⟩
  | some r =>
    obtain ⟨htries, hmatch, -⟩ := (find?_eq_some_iff hle).mp hfind
    cases hcrossed : r.captures.isCrossed with
    | true => exact .inr (.inl ⟨r, rfl, hcrossed, by simp [hcrossed]⟩)
    | false =>
      rcases hp.matchAt_cases (htries.le_size hle) with ⟨hnone, -⟩ | ⟨name, r', hr', hlabelled, -⟩
      · rw [hmatch] at hnone
        cases hnone
      · cases hmatch.symm.trans hr'
        -- A match that ends before it starts would have crossed the group of its kind.
        have hforward : r.start ≤ r.stop := by
          refine Nat.le_of_not_lt fun hlt => ?_
          rw [hlabelled.crossed hlt] at hcrossed
          cases hcrossed
        exact .inr (.inr ⟨r, name, rfl, hforward, by simp [hcrossed, hlabelled.label hforward]⟩)

/-- The scanner of kinds follows their pattern. -/
theorem follows (h : ofKinds kinds = .ok m) (text : Array Char) :
    (m.scanner text).Follows m.pattern text := by
  refine ⟨rfl, fun position hle => ?_⟩
  simp only [scanner]
  rcases search_cases h hle with ⟨hfind, hsearch⟩ | ⟨r, hfind, hcrossed, hsearch⟩ |
      ⟨r, name, hfind, -, hsearch⟩
  · rw [hfind, hsearch]
    exact .none
  · rw [hfind, hsearch]
    exact .crossed hcrossed
  · rw [hfind, hsearch]
    exact .hit rfl rfl

/-- What is known of a hit: it does not end before it starts, and its value is its text. -/
structure IsHit (text : Array Char) (x : AnnotationMatch) : Prop where
  forward : x.start ≤ x.stop
  stop_le : x.stop ≤ text.size
  value : x.value = Text.slice text x.start x.stop

/-- What a run finds lies within the text. -/
theorem isHit_of_mem_run (h : ofKinds kinds = .ok m) {left position : Nat} {x : AnnotationMatch}
    (hx : x ∈ ((m.scanner text).run left position).1) : IsHit text x := by
  obtain ⟨position, hle, hsearch⟩ := Scanner.mem_run hx
  have hstop := ((follows h text).place hle hsearch).2.2
  simp only [scanner] at hle hsearch
  rcases search_cases h hle with ⟨-, heq⟩ | ⟨r, -, -, heq⟩ | ⟨r, name, -, hforward, heq⟩
  · rw [heq] at hsearch
    cases hsearch
  · rw [heq] at hsearch
    cases hsearch
  · rw [heq] at hsearch
    cases hsearch
    exact ⟨hforward, hstop, rfl⟩

theorem isHit_of_runs (h : ofKinds kinds = .ok m) {hits : List AnnotationMatch}
    {broken : Option ScanError} (hruns : (m.scanner text).Runs 0 hits broken) :
    ∀ x ∈ hits, IsHit text x := by
  intro x hx
  have hmem : x ∈ ((m.scanner text).run ((m.scanner text).size + 1) 0).1 := by
    rw [hruns.run_eq]
    exact hx
  exact isHit_of_mem_run h hmem

/-- The loop over annotations ends. -/
theorem exists_runs (h : ofKinds kinds = .ok m) (text : Array Char) :
    ∃ hits broken, (m.scanner text).Runs 0 hits broken :=
  ⟨_, _, (follows h text).runs_run (Nat.lt_succ_self _) fun _ hx => (isHit_of_mem_run h hx).forward⟩

end AnnotationMatcher

/-! ## What is reported -/

/-- The comments among the hits: those with a body that is not empty. -/
def reportedComments (hits : List CommentMatch) : List Comment :=
  (hits.filter fun h => h.body.any (!·.isEmpty)).map fun h => ⟨h.body.getD "", h.start⟩

/-- The annotations among the hits in a body at `offset`: those with a value that is not empty. -/
def reportedHits (offset : Int) (hits : List AnnotationMatch) : List Hit :=
  (hits.filter fun h => !h.value.isEmpty).map fun h =>
    ⟨h.kind, offset + h.start, offset + h.stop, h.value⟩

theorem filterMap_comment? (hits : List CommentMatch) :
    hits.filterMap CommentMatch.comment? = reportedComments hits := by
  unfold reportedComments
  rw [← List.filterMap_eq_map', List.filterMap_filter]
  congr 1
  funext h
  unfold CommentMatch.comment?
  rcases h with ⟨start, stop, _ | body⟩
  · rfl
  · cases hbody : body.isEmpty <;> simp [hbody]

theorem filterMap_hit? (offset : Int) (hits : List AnnotationMatch) :
    hits.filterMap (·.hit? offset) = reportedHits offset hits := by
  unfold reportedHits
  rw [← List.filterMap_eq_map', List.filterMap_filter]
  congr 1
  funext h
  unfold AnnotationMatch.hit?
  cases h.value.isEmpty <;> simp

/-- What is reported of a pass over comments. -/
theorem CommentMatcher.comments_of_runs {m : CommentMatcher} {text : Array Char}
    {hits : List CommentMatch} {broken : Option ScanError}
    (h : (m.scanner text).Runs 0 hits broken) :
    m.pass text = (hits, broken) ∧ m.comments text = (reportedComments hits, broken) := by
  have hpass : m.pass text = (hits, broken) := (m.pass_eq text).trans h.run_eq
  refine ⟨hpass, ?_⟩
  unfold comments
  rw [hpass, ← filterMap_comment?]

/-- What is reported of a pass over annotations. -/
theorem AnnotationMatcher.annotationsIn_of_runs {m : AnnotationMatcher} {text : Array Char}
    {hits : List AnnotationMatch} {broken : Option ScanError}
    (h : (m.scanner text).Runs 0 hits broken) (offset : Int) :
    annotationsIn (some m) text offset = outcome (reportedHits offset hits, broken) := by
  unfold annotationsIn
  dsimp only
  rw [m.hits_eq, h.run_eq, ← filterMap_hit?]
  cases broken with
  | none => rfl
  | some e => rfl

/-! ## Both loops -/

/-- The loop over annotations ends, and so does the loop over comments if no hit that it consumes ends
before it starts, which takes a possessive repeat of more than one character.  When a loop has ended
and no search of it has failed, each position at which a search can find a match is the start of a
consumed hit or strictly within one; with a plain pattern no search fails, and these are all
positions at which the pattern matches.  What is reported are the hits with a body, or a value, that
is not empty, in order. -/
theorem extraction_complete {kinds : List (Value × Fragment)} {annotations : AnnotationMatcher}
    {language : Language} {comments : CommentMatcher}
    (hannotations : AnnotationMatcher.ofKinds kinds = .ok annotations)
    (hcomments : language.commentMatcher = .ok comments) (text : Array Char) (offset : Int) :
    (∃ hits broken,
      (annotations.scanner text).Complete annotations.pattern text hits broken ∧
      annotationsIn (some annotations) text offset =
        outcome (reportedHits offset hits, broken)) ∧
    ((∀ h ∈ (comments.pass text).1, h.start ≤ h.stop) ∨
        comments.pattern.root.keepsPlace = true →
      ∃ hits broken, (comments.scanner text).Runs 0 hits broken) ∧
    ∀ hits broken, (comments.scanner text).Runs 0 hits broken →
      (comments.scanner text).Complete comments.pattern text hits broken ∧
      comments.pass text = (hits, broken) ∧
      comments.comments text = (reportedComments hits, broken) := by
  obtain ⟨es, -, hkinds⟩ := AnnotationMatcher.ofKinds_ok hannotations
  obtain ⟨bodies, blocks, -, -, hlanguage⟩ := Language.commentMatcher_ok hcomments
  refine ⟨?_, fun hends => ?_, fun hits broken hruns => ?_⟩
  · obtain ⟨hits, broken, hruns⟩ := AnnotationMatcher.exists_runs hannotations text
    exact ⟨hits, broken, hruns.complete (AnnotationMatcher.follows hannotations text) hkinds.compiles,
      AnnotationMatcher.annotationsIn_of_runs hruns offset⟩
  · refine ⟨_, _, CommentMatcher.runs_pass hcomments ?_⟩
    rcases hends with hforward | hplace
    · exact hforward
    · exact fun x hx => CommentMatcher.forward_of_mem_pass hcomments hplace hx
  · exact ⟨hruns.complete (CommentMatcher.follows hcomments text) hlanguage.compiles,
      CommentMatcher.comments_of_runs hruns⟩

/-- A kind that matches the empty text at the end of a line. -/
def trailingKinds : List (Value × Fragment) := [(.str "RUN", .text "x+|$")]

/-- Comments up to the end of a line, an empty comment before each `a`, and quoted strings. -/
def pointingLanguage : Language :=
  { ids := ["t"], lineComments := [.text "//.*"], blockComments := [.text "(?=a)"],
    skippedBlocks := [.text "'[^']*'"] }

/-- Right behind an empty hit, behind one that is not empty and at the very end of the text. -/
theorem extraction_complete_pointing :
    ∃ annotations comments, AnnotationMatcher.ofKinds trailingKinds = .ok annotations ∧
      pointingLanguage.commentMatcher = .ok comments ∧
      (annotations.scanner (Text.chars "a'//'//x")).Complete annotations.pattern
        (Text.chars "a'//'//x") [⟨"RUN", 7, 8, "x"⟩, ⟨"RUN", 8, 8, ""⟩] none ∧
      annotationsIn (some annotations) (Text.chars "a'//'//x") 40 = .ok [⟨"RUN", 47, 48, "x"⟩] ∧
      (comments.scanner (Text.chars "a'//'//x")).Complete comments.pattern
        (Text.chars "a'//'//x") [⟨0, 0, some ""⟩, ⟨1, 5, none⟩, ⟨5, 8, some "//x"⟩] none ∧
      comments.comments (Text.chars "a'//'//x") = ([⟨"//x", 5⟩], none) := by
  have hkinds : ((AnnotationMatcher.ofKinds trailingKinds).toOption.map fun m =>
      (m.scanner (Text.chars "a'//'//x")).run 9 0) =
        some ([⟨"RUN", 7, 8, "x"⟩, ⟨"RUN", 8, 8, ""⟩], none) := by decide +kernel
  have hlanguage : (pointingLanguage.commentMatcher.toOption.map fun m =>
      (m.pass (Text.chars "a'//'//x"), m.pattern.root.keepsPlace)) =
        some (([⟨0, 0, some ""⟩, ⟨1, 5, none⟩, ⟨5, 8, some "//x"⟩], none), true) := by
    decide +kernel
  obtain ⟨annotations, ha, hrun⟩ := Option.map_eq_some_iff.mp hkinds
  obtain ⟨comments, hc, hpass⟩ := Option.map_eq_some_iff.mp hlanguage
  obtain ⟨hpass, hplace⟩ := Prod.mk.inj hpass
  obtain ⟨⟨hits, broken, hcomplete, hreported⟩, hends, hall⟩ := extraction_complete
    (eq_ok_of_toOption ha) (eq_ok_of_toOption hc) (Text.chars "a'//'//x") 40
  obtain ⟨rfl, rfl⟩ := Prod.mk.inj (hcomplete.runs.run_eq.symm.trans hrun)
  obtain ⟨hits, broken, hruns⟩ := hends (.inr hplace)
  obtain ⟨hcomplete', hpass', hcomments⟩ := hall hits broken hruns
  obtain ⟨rfl, rfl⟩ := Prod.mk.inj (hpass'.symm.trans hpass)
  exact ⟨annotations, comments, eq_ok_of_toOption ha, eq_ok_of_toOption hc, hcomplete, hreported,
    hcomplete', hcomments.trans (by decide)⟩

/-- The loop goes to and fro between the first two positions if the hit at the second one leads back,
and so does not end. -/
theorem CommentMatcher.not_runs_of_returns {m : CommentMatcher} {text : Array Char}
    (hsize : 1 ≤ text.size) (hfirst : (m.scanner text).search 0 = .ok (some ⟨0, 0, none⟩))
    (hsecond : (m.scanner text).search 1 = .ok (some ⟨1, 0, none⟩)) (hits : List CommentMatch)
    (broken : Option ScanError) : ¬(m.scanner text).Runs 0 hits broken := by
  intro hruns
  have hforth : (m.scanner text).Advances 0 1 := ⟨Nat.zero_le _, _, hfirst, rfl⟩
  have hback : (m.scanner text).Advances 1 0 := ⟨hsize, _, hsecond, rfl⟩
  exact hruns.not_returns hforth (.single hback)

/-- A class that is compared in ASCII at the beginning: a pass does not come to a position at which
the pattern matches.  A possessive repeat that looks back: the loop goes to and fro between the first
two positions and does not end. -/
theorem pass_misses_and_returns :
    (∃ m, Language.commentMatcher { ids := ["t"], lineComments := [.text "(?a:\\W)"] } = .ok m ∧
      m.pattern.matchAt (Text.chars "é") 0 ≠ none ∧ m.pass (Text.chars "é") = ([], none)) ∧
    ∃ m, Language.commentMatcher
        { ids := ["t"], skippedBlocks := [.text "(?:(?<=x)y)*+"] } = .ok m ∧
      ∀ hits broken, ¬ (m.scanner (Text.chars "a")).Runs 0 hits broken := by
  constructor
  · have h : ((Language.commentMatcher
        { ids := ["t"], lineComments := [.text "(?a:\\W)"] }).toOption.map fun m =>
          ((m.pattern.matchAt (Text.chars "é") 0).isSome, m.pass (Text.chars "é"))) =
            some (true, [], none) := by decide +kernel
    obtain ⟨m, hm, heq⟩ := Option.map_eq_some_iff.mp h
    obtain ⟨hmatch, hpass⟩ := Prod.mk.inj heq
    exact ⟨m, eq_ok_of_toOption hm, Option.isSome_iff_ne_none.mp hmatch, hpass⟩
  · have h : ((Language.commentMatcher
        { ids := ["t"], skippedBlocks := [.text "(?:(?<=x)y)*+"] }).toOption.map fun m =>
          ((m.scanner (Text.chars "a")).search 0, (m.scanner (Text.chars "a")).search 1)) =
            some (.ok (some ⟨0, 0, none⟩), .ok (some ⟨1, 0, none⟩)) := by decide +kernel
    obtain ⟨m, hm, heq⟩ := Option.map_eq_some_iff.mp h
    obtain ⟨hfirst, hsecond⟩ := Prod.mk.inj heq
    exact ⟨m, eq_ok_of_toOption hm,
      CommentMatcher.not_runs_of_returns (Nat.le_refl 1) hfirst hsecond⟩

end Marginalia
