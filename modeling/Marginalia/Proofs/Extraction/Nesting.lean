import Marginalia.Proofs.Extraction.Coverage
import Mathlib.Data.List.Pairwise

/-!
# Annotations lie in comments

What the two stages find in a text lies within each other: a comment is a part of the text, and an
annotation is a part of the text that lies in a comment.  The place of an annotation is told from its
comment, and that of a comment from a group, but all places are those of the document
(`Hit.IsPartOf`, `Comment.IsPartOf`).

Comments and annotations come in the order of the text and do not overlap, and no annotation meets a
block that was skipped (`Apart`), provided that the pass over the comments does not go back.  It goes
back behind a skipped block that ends before it starts; `annotations_overlap` has such a block.
-/

namespace Marginalia

/-! ## Parts of a text -/

namespace Text

theorem chars_slice (text : Array Char) (i j : Nat) : chars (slice text i j) = text.extract i j := by
  rw [chars, slice, String.toList_ofList, Array.toArray_toList]

/-- A slice within the text has its length. -/
theorem length_slice {text : Array Char} {i j : Nat} (hj : j ≤ text.size) :
    (slice text i j).length = j - i := by
  rw [slice, String.length_ofList, Array.length_toList, Array.size_extract, Nat.min_eq_left hj]

/-- A slice that is not empty has a length. -/
theorem lt_of_slice_nonempty {text : Array Char} {i j : Nat} (hj : j ≤ text.size)
    (h : (slice text i j).isEmpty = false) : i < j := by
  have hlength := length_slice (i := i) hj
  refine Nat.lt_of_not_le fun hle => ?_
  have hzero : (slice text i j).length = 0 := by omega
  rw [String.isEmpty_iff.mpr (String.length_eq_zero_iff.mp hzero)] at h
  cases h

/-- A part of a part, in the places of the whole. -/
theorem slice_chars_slice {text : Array Char} {i j a b : Nat} (hij : i ≤ j) (hb : b ≤ j - i) :
    slice (chars (slice text i j)) a b = slice text (i + a) (i + b) := by
  have hmin : min (i + b) j = i + b := by omega
  rw [chars_slice, slice, Array.extract_extract, hmin, slice]

end Text

/-- The comment is a part of the text, and not an empty one. -/
structure Comment.IsPartOf (text : Array Char) (c : Comment) : Prop where
  nonempty : c.offset < c.stop
  stop_le : c.stop ≤ text.size
  text_eq : c.text = Text.slice text c.offset c.stop

/-- The annotation is a part of the text, and not an empty one. -/
structure Hit.IsPartOf (text : Array Char) (h : Hit) : Prop where
  nonneg : 0 ≤ h.start
  nonempty : h.start < h.stop
  stop_le : h.stop ≤ text.size
  value : h.value = Text.slice text h.start.toNat h.stop.toNat

/-- The annotation lies in the comment. -/
def Hit.LiesIn (h : Hit) (c : Comment) : Prop := c.offset ≤ h.start ∧ h.stop ≤ c.stop

/-- The comment of a hit has the place of the hit. -/
theorem CommentMatch.comment?_place {text : Array Char} {x : CommentMatch} {c : Comment}
    (hx : CommentMatcher.IsHit text x) (hc : x.comment? = some c) :
    x.body ≠ none ∧ c.offset = x.start ∧ c.stop = x.stop ∧ c.IsPartOf text := by
  obtain ⟨hsize, hbody⟩ := hx
  unfold comment? at hc
  rcases hbody with hnone | ⟨hforward, hsome⟩
  · rw [hnone] at hc
    cases hc
  · rw [hsome] at hc ⊢
    dsimp only at hc
    split at hc
    · cases hc
    · rename_i hne
      cases hc
      have hlength := Text.length_slice (i := x.start) hsize
      have hlt := Text.lt_of_slice_nonempty hsize (Bool.eq_false_iff.mpr hne)
      have hstop : x.start + (Text.slice text x.start x.stop).length = x.stop := by omega
      exact ⟨Option.some_ne_none _, rfl, hstop, hlt.trans_eq hstop.symm, hstop.trans_le hsize,
        congrArg (Text.slice text x.start) hstop.symm⟩

/-! ## The annotations of a comment -/

section

variable {kinds : List (Value × Fragment)} {m : AnnotationMatcher} {text : Array Char}

/-- The annotations of a comment, unless groups cross. -/
theorem annotationsIn_cases (h : AnnotationMatcher.ofKinds kinds = .ok m) (body : Array Char)
    (offset : Int) :
    (annotationsIn (some m) body offset = .error (.crossedGroup ⟨⟩) ∧
        m.pattern.root.keepsPlace = false) ∨
      ∃ hits, (m.scanner body).Runs 0 hits none ∧
        annotationsIn (some m) body offset = .ok (reportedHits offset hits) := by
  obtain ⟨es, -, hp⟩ := AnnotationMatcher.ofKinds_ok h
  have hfollows := AnnotationMatcher.follows h body
  obtain ⟨hits, broken, hruns⟩ := AnnotationMatcher.exists_runs h body
  have hreported := AnnotationMatcher.annotationsIn_of_runs hruns offset
  rcases hruns.broken_eq hfollows with rfl | rfl
  · exact .inr ⟨hits, hruns, hreported⟩
  · refine .inl ⟨hreported, Bool.eq_false_iff.mpr fun hplace => ?_⟩
    cases hruns.not_broken hfollows hp.compiles hplace

/-- An annotation of a comment lies in it, and has its place in the document. -/
theorem reportedHits_lieIn (h : AnnotationMatcher.ofKinds kinds = .ok m) {c : Comment}
    (hc : c.IsPartOf text) {hits : List AnnotationMatch}
    (hruns : (m.scanner (Text.chars c.text)).Runs 0 hits none) :
    ∀ x ∈ reportedHits c.offset hits, x.IsPartOf text ∧ x.LiesIn c := by
  intro x hx
  obtain ⟨y, hy, rfl⟩ := List.mem_map.mp hx
  obtain ⟨hmem, hvalue⟩ := List.mem_filter.mp hy
  obtain ⟨hforward, hstop, hslice⟩ := AnnotationMatcher.isHit_of_runs h hruns y hmem
  have hlt : y.start < y.stop := by
    refine Text.lt_of_slice_nonempty hstop ?_
    rwa [← hslice, ← Bool.not_eq_true']
  have hsize : (Text.chars c.text).size = c.stop - c.offset := by
    rw [hc.text_eq, Text.chars_slice, Array.size_extract, Nat.min_eq_left hc.stop_le]
  have hnonempty := hc.nonempty
  have hbound := hc.stop_le
  rw [hsize] at hstop
  refine ⟨⟨by dsimp only; omega, by dsimp only; omega, by dsimp only; omega, ?_⟩, ?_⟩
  · have hstart : ((c.offset : Int) + y.start).toNat = c.offset + y.start := by omega
    have hstop' : ((c.offset : Int) + y.stop).toNat = c.offset + y.stop := by omega
    dsimp only
    rw [hstart, hstop', hslice, hc.text_eq, Text.slice_chars_slice (Nat.le_of_lt hnonempty) hstop]
  · unfold Hit.LiesIn
    dsimp only
    omega

/-- The annotations of a comment come in order. -/
theorem reportedHits_ordered (h : AnnotationMatcher.ofKinds kinds = .ok m) {body : Array Char}
    {hits : List AnnotationMatch} (hruns : (m.scanner body).Runs 0 hits none) (offset : Int) :
    (reportedHits offset hits).Pairwise fun x y => x.stop ≤ y.start := by
  obtain ⟨-, hpairwise⟩ := hruns.ordered (AnnotationMatcher.follows h body) fun x hx =>
    (AnnotationMatcher.isHit_of_runs h hruns x hx).forward
  unfold reportedHits
  rw [List.pairwise_map]
  refine (hpairwise.filter _).imp fun {x y} hle => ?_
  have hle : x.stop ≤ y.start := hle
  change offset + (x.stop : Int) ≤ offset + y.start
  omega

/-- The annotations of comments that are parts of a text, unless groups cross: each lies in one of
the comments, and they come in order if the comments do. -/
theorem annotationsInAll_cases (h : AnnotationMatcher.ofKinds kinds = .ok m) {cs : List Comment}
    (hcs : ∀ c ∈ cs, c.IsPartOf text) :
    (annotationsInAll (some m) cs = .error (.crossedGroup ⟨⟩) ∧
        m.pattern.root.keepsPlace = false) ∨
      ∃ hits, annotationsInAll (some m) cs = .ok hits ∧
        (∀ x ∈ hits, x.IsPartOf text ∧ ∃ c ∈ cs, x.LiesIn c) ∧
        (cs.Pairwise (fun c c' => c.stop ≤ c'.offset) →
          hits.Pairwise fun x y => x.stop ≤ y.start) := by
  induction cs with
  | nil => exact .inr ⟨[], rfl, nofun, fun _ => .nil⟩
  | cons c cs ih =>
    obtain ⟨hc, hcs⟩ := List.forall_mem_cons.mp hcs
    rcases annotationsIn_cases h (Text.chars c.text) c.offset with ⟨he, hplace⟩ | ⟨hs, hruns, hok⟩
    · exact .inl ⟨by simp [annotationsInAll, he], hplace⟩
    rcases ih hcs with ⟨he, hplace⟩ | ⟨rest, hrest, hinside, hordered⟩
    · exact .inl ⟨by simp [annotationsInAll, hok, he], hplace⟩
    have hfirst := reportedHits_lieIn h hc hruns
    refine .inr ⟨reportedHits c.offset hs ++ rest, by simp [annotationsInAll, hok, hrest],
      List.forall_mem_append.mpr ⟨fun x hx => ?_, fun x hx => ?_⟩, fun hpairwise => ?_⟩
    · exact ⟨(hfirst x hx).1, c, List.mem_cons_self, (hfirst x hx).2⟩
    · obtain ⟨hpart, c', hc', hlies⟩ := hinside x hx
      exact ⟨hpart, c', List.mem_cons_of_mem _ hc', hlies⟩
    · obtain ⟨hbefore, hpairwise⟩ := List.pairwise_cons.mp hpairwise
      refine List.pairwise_append.mpr
        ⟨reportedHits_ordered h hruns c.offset, hordered hpairwise, fun x hx y hy => ?_⟩
      -- The first comment ends before the comment of `y` starts.
      obtain ⟨-, -, hstop⟩ := hfirst x hx
      obtain ⟨-, c', hc', hstart, -⟩ := hinside y hy
      have hapart := hbefore c' hc'
      omega

end

/-- An annotation is found in one of the comments. -/
theorem mem_annotationsInAll {matcher : Option AnnotationMatcher} {cs : List Comment}
    {xs : List Hit} (h : annotationsInAll matcher cs = .ok xs) {x : Hit} (hx : x ∈ xs) :
    ∃ c ∈ cs, ∃ ys, annotationsIn matcher (Text.chars c.text) c.offset = .ok ys ∧ x ∈ ys := by
  induction cs generalizing xs with
  | nil =>
    cases h
    cases hx
  | cons c cs ih =>
    unfold annotationsInAll at h
    split at h
    · rename_i first rest hfirst hrest
      cases h
      rcases List.mem_append.mp hx with hx | hx
      · exact ⟨c, List.mem_cons_self, first, hfirst, hx⟩
      · obtain ⟨c', hc', hfound⟩ := ih hrest hx
        exact ⟨c', List.mem_cons_of_mem _ hc', hfound⟩
    · cases h
    · cases h

/-! ## Both stages -/

/-- The comments of a text and the annotations in them come in order and do not overlap, each
annotation lies in one comment only, and none meets a block that the pass has skipped. -/
structure Apart (consumed : List CommentMatch) (cs : List Comment) (xs : List Hit) : Prop where
  comments : cs.Pairwise fun c c' => c.stop ≤ c'.offset
  annotations : xs.Pairwise fun x y => x.stop ≤ y.start
  unique : ∀ x ∈ xs, ∃! c, c ∈ cs ∧ x.LiesIn c
  blocks : ∀ b ∈ consumed, b.body = none → ∀ x ∈ xs, x.stop ≤ b.start ∨ b.stop ≤ x.start

/-- Two different members of a list whose members come in order are apart. -/
private theorem apart_of_mem {α : Type} {start stop : α → Nat} {xs : List α}
    (h : xs.Pairwise fun x y => stop x ≤ start y) {x y : α} (hx : x ∈ xs) (hy : y ∈ xs)
    (hne : x ≠ y) : stop x ≤ start y ∨ stop y ≤ start x := by
  have hsymm : Std.Symm fun x y => stop x ≤ start y ∨ stop y ≤ start x := ⟨fun _ _ hor => hor.symm⟩
  exact (h.imp Or.inl : xs.Pairwise fun x y => stop x ≤ start y ∨ stop y ≤ start x).forall hx hy hne

section

variable {l : Language} {m : CommentMatcher} {text : Array Char}

/-- A comment of a pass has the place of a hit with a body. -/
theorem exists_hit_of_mem_comments (h : l.commentMatcher = .ok m) {c : Comment}
    (hc : c ∈ (m.pass text).1.filterMap CommentMatch.comment?) :
    ∃ x ∈ (m.pass text).1, x.body ≠ none ∧ c.offset = x.start ∧ c.stop = x.stop ∧
      c.IsPartOf text := by
  obtain ⟨x, hx, hcx⟩ := List.mem_filterMap.mp hc
  exact ⟨x, hx, CommentMatch.comment?_place (CommentMatcher.isHit_of_mem_pass h hx) hcx⟩

/-- The comments of a pass are parts of the text. -/
theorem isPartOf_of_mem_comments (h : l.commentMatcher = .ok m) :
    ∀ c ∈ (m.pass text).1.filterMap CommentMatch.comment?, c.IsPartOf text := by
  intro c hc
  obtain ⟨-, -, -, -, -, hpart⟩ := exists_hit_of_mem_comments h hc
  exact hpart

/-- If no hit of the pass ends before it starts, the hits come in order. -/
theorem pass_ordered (h : l.commentMatcher = .ok m)
    (hforward : ∀ x ∈ (m.pass text).1, x.start ≤ x.stop) :
    (m.pass text).1.Pairwise fun x y => x.stop ≤ y.start :=
  ((CommentMatcher.runs_pass h hforward).ordered (CommentMatcher.follows h text) hforward).2

/-- Then the comments come in order as well. -/
theorem comments_ordered (h : l.commentMatcher = .ok m)
    (hforward : ∀ x ∈ (m.pass text).1, x.start ≤ x.stop) :
    ((m.pass text).1.filterMap CommentMatch.comment?).Pairwise fun c c' => c.stop ≤ c'.offset := by
  refine List.pairwise_filterMap.mpr ((pass_ordered h hforward).imp_of_mem ?_)
  intro x y hx hy hle c hc c' hc'
  obtain ⟨-, -, hstop, -⟩ :=
    CommentMatch.comment?_place (CommentMatcher.isHit_of_mem_pass h hx) hc
  obtain ⟨-, hstart, -, -⟩ :=
    CommentMatch.comment?_place (CommentMatcher.isHit_of_mem_pass h hy) hc'
  omega

/-- What lies in comments of a pass that does not go back is apart. -/
theorem apart_of_forward (h : l.commentMatcher = .ok m)
    (hforward : ∀ x ∈ (m.pass text).1, x.start ≤ x.stop) {xs : List Hit}
    (hinside : ∀ x ∈ xs, x.IsPartOf text ∧
      ∃ c ∈ (m.pass text).1.filterMap CommentMatch.comment?, x.LiesIn c)
    (hordered : ((m.pass text).1.filterMap CommentMatch.comment?).Pairwise
        (fun c c' => c.stop ≤ c'.offset) → xs.Pairwise fun x y => x.stop ≤ y.start) :
    Apart (m.pass text).1 ((m.pass text).1.filterMap CommentMatch.comment?) xs := by
  have hcomments := comments_ordered h hforward
  refine ⟨hcomments, hordered hcomments, fun x hx => ?_, fun b hb hbody x hx => ?_⟩
  · obtain ⟨hpart, c, hc, hlies⟩ := hinside x hx
    refine ⟨c, ⟨hc, hlies⟩, ?_⟩
    rintro c' ⟨hc', hlies'⟩
    by_contra hne
    have hnonempty := hpart.nonempty
    unfold Hit.LiesIn at hlies hlies'
    rcases apart_of_mem hcomments hc' hc hne with hle | hle <;> omega
  · obtain ⟨-, c, hc, hlies⟩ := hinside x hx
    obtain ⟨y, hy, hsome, hstart, hstop, -⟩ := exists_hit_of_mem_comments h hc
    have hne : b ≠ y := fun heq => hsome (heq ▸ hbody)
    unfold Hit.LiesIn at hlies
    rcases apart_of_mem (pass_ordered h hforward) hb hy hne with hle | hle <;> omega

end

/-- What the two stages come to, unless groups cross: the comments of the pass, and the annotations in
them, each of which lies in a comment.  They come in order if the comments do. -/
theorem extraction_cases {kinds : List (Value × Fragment)} {annotations : AnnotationMatcher}
    {language : Language} {comments : CommentMatcher}
    (hannotations : AnnotationMatcher.ofKinds kinds = .ok annotations)
    (hcomments : language.commentMatcher = .ok comments) (text : Array Char) :
    let d : Descriptor := ⟨language, some comments, some annotations⟩
    let cs := (comments.pass text).1.filterMap CommentMatch.comment?
    (d.annotations text = .error (.crossedGroup ⟨⟩) ∧
        (comments.pattern.root.keepsPlace = false ∨
          annotations.pattern.root.keepsPlace = false)) ∨
      ∃ xs, d.comments text = .ok cs ∧ d.annotations text = .ok xs ∧
        annotationsInAll (some annotations) cs = .ok xs ∧
        (∀ x ∈ xs, x.IsPartOf text ∧ ∃ c ∈ cs, x.LiesIn c) ∧
        (cs.Pairwise (fun c c' => c.stop ≤ c'.offset) →
          xs.Pairwise fun x y => x.stop ≤ y.start) := by
  intro d cs
  have hreported : comments.comments text = (cs, (comments.pass text).2) := rfl
  have hparts : ∀ c ∈ cs, c.IsPartOf text := isPartOf_of_mem_comments hcomments
  rcases annotationsInAll_cases hannotations hparts with ⟨he, hplace⟩ | ⟨xs, hok, hinside, hordered⟩
  · exact .inl ⟨by simp [d, cs, Descriptor.annotations, hreported, he], .inr hplace⟩
  rcases CommentMatcher.pass_broken hcomments text with hnone | ⟨hbroken, hplace⟩
  · exact .inr ⟨xs, by simp [d, Descriptor.comments, hreported, hnone],
      by simp [d, cs, Descriptor.annotations, hreported, hok, hnone], hok, hinside, hordered⟩
  · exact .inl ⟨by simp [d, cs, Descriptor.annotations, hreported, hok, hbroken], .inl hplace⟩

/-- Extraction of a text ends in an error only if groups cross, which takes a possessive repeat of more
than one character.  Otherwise each comment is a part of the text that is not empty, and so is each
annotation, which lies in one of the comments.  If no hit of the pass over comments ends before it
starts, which again takes such a repeat, comments and annotations come in order and do not overlap,
each annotation lies in one comment only and none meets a skipped block. -/
theorem annotations_nested {kinds : List (Value × Fragment)} {annotations : AnnotationMatcher}
    {language : Language} {comments : CommentMatcher}
    (hannotations : AnnotationMatcher.ofKinds kinds = .ok annotations)
    (hcomments : language.commentMatcher = .ok comments) (text : Array Char) :
    let d : Descriptor := ⟨language, some comments, some annotations⟩
    (d.annotations text = .error (.crossedGroup ⟨⟩) ∧
        (comments.pattern.root.keepsPlace = false ∨
          annotations.pattern.root.keepsPlace = false)) ∨
      ∃ cs xs, d.comments text = .ok cs ∧ d.annotations text = .ok xs ∧
        (∀ c ∈ cs, c.IsPartOf text) ∧
        (∀ x ∈ xs, x.IsPartOf text ∧ ∃ c ∈ cs, x.LiesIn c) ∧
        ((∀ h ∈ (comments.pass text).1, h.start ≤ h.stop) ∨
            comments.pattern.root.keepsPlace = true →
          Apart (comments.pass text).1 cs xs) := by
  intro d
  rcases extraction_cases hannotations hcomments text with
    hcrossed | ⟨xs, hcs, hxs, -, hinside, hordered⟩
  · exact .inl hcrossed
  refine .inr ⟨_, xs, hcs, hxs, isPartOf_of_mem_comments hcomments, hinside, fun hends => ?_⟩
  refine apart_of_forward hcomments ?_ hinside hordered
  rcases hends with hforward | hplace
  · exact hforward
  · exact fun x hx => CommentMatcher.forward_of_mem_pass hcomments hplace hx

/-- A kind within a word, and one that is also found where nothing stands. -/
def letterKinds : List (Value × Fragment) := [(.str "RUN", .text "x+"), (.str "TAIL", .text "y|$")]

/-- Behind a quoted string that seems to hold a comment, two comments with two kinds in them. -/
theorem annotations_nested_quoted :
    ∃ annotations comments, AnnotationMatcher.ofKinds letterKinds = .ok annotations ∧
      quotingLanguage.commentMatcher = .ok comments ∧
      (Descriptor.annotations ⟨quotingLanguage, some comments, some annotations⟩
        (Text.chars "'//x'//xy\n//xx")) =
          .ok [⟨"RUN", 7, 8, "x"⟩, ⟨"TAIL", 8, 9, "y"⟩, ⟨"RUN", 12, 14, "xx"⟩] ∧
      Apart [⟨0, 5, none⟩, ⟨5, 9, some "//xy"⟩, ⟨10, 14, some "//xx"⟩] [⟨"//xy", 5⟩, ⟨"//xx", 10⟩]
        [⟨"RUN", 7, 8, "x"⟩, ⟨"TAIL", 8, 9, "y"⟩, ⟨"RUN", 12, 14, "xx"⟩] := by
  have hkinds : ((AnnotationMatcher.ofKinds letterKinds).toOption.map fun a =>
      quotingLanguage.commentMatcher.toOption.map fun m =>
        (m.pass (Text.chars "'//x'//xy\n//xx"), m.pattern.root.keepsPlace,
          (Descriptor.annotations ⟨quotingLanguage, some m, some a⟩
            (Text.chars "'//x'//xy\n//xx")).toOption)) =
      some (some (([⟨0, 5, none⟩, ⟨5, 9, some "//xy"⟩, ⟨10, 14, some "//xx"⟩], none), true,
        some [⟨"RUN", 7, 8, "x"⟩, ⟨"TAIL", 8, 9, "y"⟩, ⟨"RUN", 12, 14, "xx"⟩])) := by
    decide +kernel
  obtain ⟨annotations, ha, hrest⟩ := Option.map_eq_some_iff.mp hkinds
  obtain ⟨comments, hc, hrest⟩ := Option.map_eq_some_iff.mp hrest
  obtain ⟨hpass, hrest⟩ := Prod.mk.inj hrest
  obtain ⟨hplace, hxs⟩ := Prod.mk.inj hrest
  have hxs := eq_ok_of_toOption hxs
  have hcs : Descriptor.comments ⟨quotingLanguage, some comments, some annotations⟩
      (Text.chars "'//x'//xy\n//xx") = .ok [⟨"//xy", 5⟩, ⟨"//xx", 10⟩] := by
    unfold Descriptor.comments CommentMatcher.comments
    dsimp only
    rw [hpass]
    rfl
  refine ⟨annotations, comments, eq_ok_of_toOption ha, eq_ok_of_toOption hc, hxs, ?_⟩
  rcases annotations_nested (eq_ok_of_toOption ha) (eq_ok_of_toOption hc)
      (Text.chars "'//x'//xy\n//xx") with ⟨he, -⟩ | ⟨cs, xs, hcs', hxs', -, -, hapart⟩
  · rw [hxs] at he
    cases he
  · cases hcs.symm.trans hcs'
    cases hxs.symm.trans hxs'
    have happly := hapart (.inr hplace)
    rwa [hpass] at happly

/-- Two comments that share a letter, and a skipped block that looks back. -/
def revertingLanguage : Language :=
  { ids := ["t"], lineComments := [.text "ab", .text "bcd"],
    skippedBlocks := [.text "(?:(?<=x)y)*+(?=bcd)"] }

/-- The skipped block ends before it starts: the pass goes back into a comment that it has consumed
and finds the other one there, so that two annotations overlap. -/
theorem annotations_overlap :
    ∃ annotations comments,
      AnnotationMatcher.ofKinds [(.str "K", .text "b.*")] = .ok annotations ∧
      revertingLanguage.commentMatcher = .ok comments ∧
      (comments.pass (Text.chars "abcd")) =
        ([⟨0, 2, some "ab"⟩, ⟨2, 1, none⟩, ⟨1, 4, some "bcd"⟩], none) ∧
      Descriptor.annotations ⟨revertingLanguage, some comments, some annotations⟩
        (Text.chars "abcd") = .ok [⟨"K", 1, 2, "b"⟩, ⟨"K", 1, 4, "bcd"⟩] := by
  have h : ((AnnotationMatcher.ofKinds [(.str "K", .text "b.*")]).toOption.map fun a =>
      revertingLanguage.commentMatcher.toOption.map fun m =>
        (m.pass (Text.chars "abcd"),
          (Descriptor.annotations ⟨revertingLanguage, some m, some a⟩
            (Text.chars "abcd")).toOption)) =
      some (some (([⟨0, 2, some "ab"⟩, ⟨2, 1, none⟩, ⟨1, 4, some "bcd"⟩], none),
        some [⟨"K", 1, 2, "b"⟩, ⟨"K", 1, 4, "bcd"⟩])) := by decide +kernel
  obtain ⟨annotations, ha, hrest⟩ := Option.map_eq_some_iff.mp h
  obtain ⟨comments, hc, hrest⟩ := Option.map_eq_some_iff.mp hrest
  obtain ⟨hpass, hxs⟩ := Prod.mk.inj hrest
  exact ⟨annotations, comments, eq_ok_of_toOption ha, eq_ok_of_toOption hc, hpass,
    eq_ok_of_toOption hxs⟩

end Marginalia
