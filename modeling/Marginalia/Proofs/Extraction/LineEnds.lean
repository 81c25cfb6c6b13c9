import Marginalia.Config.Basic
import Marginalia.Proofs.Document.Positions
import Marginalia.Proofs.Extraction.Nesting
import Marginalia.Proofs.Pattern.Extents
import Marginalia.Proofs.Registry.Accepted

/-!
# Annotations that fill their lines

A pattern that ends with any characters, as many as there are, matches to the end of a line, whatever
stands before that (`Node.reached_of_runsOut`).  If all kinds have such patterns, and none of them
starts with a line feed, an annotation ends where its line or its comment does, and the next one in the
comment starts on a later line.  Whether this is so can be seen from the combined pattern of the kinds
(`Node.fillsLine`), and it is so for the built-in kinds (`builtin_annotations_fill_lines`).
-/

namespace Marginalia

namespace Pattern

variable {text : Array Char} {f : Flags} {inRepeat : Bool} {next : Option Nat} {k : Step}
  {i : Nat} {m r : Memory}

/-- The position is where a line ends: before a line feed, or behind the last character. -/
def EndsLine (text : Array Char) (i : Nat) : Prop := ∀ c ∈ text[i]?, c = '\n'

/-- The step ends the match where it starts. -/
def Step.Stays (k : Step) : Prop := ∀ j m, ∃ c, k j m = .matched ⟨j, c⟩

/-- Such a step does not look at marks. -/
theorem Step.Stays.alike (hk : k.Stays) (text : Array Char) :
    Step.Alike text (Captures.Keeps []) false (fun _ _ => True) k k := by
  intro j m m' _ _
  obtain ⟨c, hc⟩ := hk j m
  obtain ⟨c', hc'⟩ := hk j m'
  rw [hc, hc']
  exact .matched trivial

/-- If what follows matches wherever it starts, nothing is given back. -/
theorem giveBack_of_stays (hk : k.Stays) {before : Captures} {base count : Nat} :
    ∃ c, giveBack text none inRepeat before k base count m = .matched ⟨base + count, c⟩ := by
  obtain ⟨c, hc⟩ := hk (base + count) (m.goTo (base + count))
  have hat : giveBack.attemptAt text none inRepeat before k (base + count) m =
      .matched ⟨base + count, c⟩ := by
    unfold giveBack.attemptAt
    rw [Option.all_none, if_pos rfl, hc]
  refine ⟨c, ?_⟩
  cases count with
  | zero => exact hat
  | succ count => rw [giveBack, hat]

/-- A run ends where no character is accepted. -/
theorem not_accepts_runEnd {accepts : Nat → Bool} {size limit : Nat}
    (ha : ∀ j, accepts j = true → j < size) (hlimit : size - i ≤ limit) :
    accepts (runEnd accepts limit i) = false := by
  induction limit generalizing i with
  | zero =>
    refine Bool.eq_false_iff.mpr fun h => ?_
    have hlt := ha i h
    omega
  | succ limit ih =>
    unfold runEnd
    split
    · exact ih (by omega)
    · rename_i h
      exact Bool.eq_false_iff.mpr h

namespace Node

/-- Does the pattern end with any characters, as many as possible? -/
def runsOut : Node → Bool
  | .rounds .greedy 0 none (.single .any) => true
  | .both _ second => second.runsOut
  | _ => false

/-- Does every match of the pattern go from a character other than a line feed to the end of a line, as
far as this can be seen? -/
def fillsLine (f : Flags) : Node → Bool
  | .group _ body => body.fillsLine f
  | .either first second => first.fillsLine f && second.fillsLine f
  | .both (.anchor _) second => second.fillsLine f
  | n => (n.firstLiteral? f).any (· != '\n'.toNat) && n.runsOut

/-- What matches comes to the step that follows, and that matches too. -/
theorem goesOn_of_matched {n : Node} {Q : Memory → Memory → Prop}
    (hk : Step.Alike text (Captures.Keeps []) false Q k k) (hi : i ≤ text.size)
    (h : n.run text f inRepeat next k i m = .matched r) :
    ∃ j m', j ≤ text.size ∧ k j m' = .matched r := by
  have hn : n.LiesBeyond [] := indexed_of_forall (fun g => Nat.zero_le _) (fun _ => trivial) _
  -- The run is compared with itself, and what is asked of its matches is that they come from `k`.
  have hgoes : Step.Alike text (Captures.Keeps []) false
      (fun r _ => ∃ j m', j ≤ text.size ∧ k j m' = .matched r) k k := by
    intro j m₁ m₂ hj hm
    rcases (hk j m₁ m₂ hj hm).cases with ⟨r, r', e, e', -⟩ | ⟨r, r', e, e', hr⟩
    · rw [e, e']
      exact .matched ⟨j, m₁, hj, e⟩
    · rw [e, e']
      exact .failed hr
  have hrun := run_alike (Captures.keeps_correspondence text []) hn f inRepeat next hgoes i m m hi
    ⟨⟨rfl, List.nil_prefix⟩, nofun⟩
  rw [renumber_id] at hrun
  rcases hrun.cases with ⟨r, r', e, -, hgoes⟩ | ⟨r, r', e, -, -⟩
  · cases e.symm.trans h
    exact hgoes
  · cases e.symm.trans h

/-- A match of such a pattern ends where a line ends.  The repeat at the end takes all up to there, and
nothing that follows makes it give any of it back. -/
theorem reached_of_runsOut {n : Node} (hn : n.runsOut = true) (hf : f.dotAll = false)
    (hk : k.Stays) (hi : i ≤ text.size) (h : n.run text f inRepeat none k i m = .matched r) :
    EndsLine text r.reached := by
  fun_induction runsOut n generalizing i m inRepeat with
  | case1 =>
    simp only [run, soleStep?, unitRounds, Option.elim_none, Nat.not_lt_zero, if_false, Nat.add_zero,
      Nat.not_lt_of_le (le_runEnd _ _ _)] at h
    -- The match ends where the run of characters does, and there is no further one to accept.
    obtain ⟨c, hc⟩ := giveBack_of_stays hk
    cases hc.symm.trans h
    intro x hx
    rw [Nat.add_sub_cancel' (le_runEnd _ _ _)] at hx
    have hend : Single.any.acceptsAt text f (runEnd (Single.any.acceptsAt text f) (text.size - i) i) =
        false :=
      not_accepts_runEnd (fun _ => Single.lt_size_of_acceptsAt) (Nat.le_refl _)
    rw [Single.acceptsAt_eq, hx, Option.any_some, accepts_any hf] at hend
    simpa using hend
  | case2 first second ih =>
    have hsecond := run_alike (Captures.keeps_correspondence text [])
      (indexed_of_forall (fun g => Nat.zero_le _) (fun _ => trivial) second) f inRepeat none
      (hk.alike text)
    rw [renumber_id] at hsecond
    obtain ⟨j, m', hj, h'⟩ := goesOn_of_matched hsecond hi h
    exact ih hn hj h'
  | case3 => cases hn

/-- A match of a pattern that fills lines starts in a line and ends where a line ends. -/
theorem fillsLine_sound {n : Node} (hn : n.fillsLine f = true) (hf : f.dotAll = false)
    (hk : k.Stays) (hi : i ≤ text.size) (h : n.run text f inRepeat none k i m = .matched r) :
    ¬EndsLine text i ∧ EndsLine text r.reached := by
  fun_induction fillsLine f n generalizing k i m inRepeat with
  | case1 g body ih =>
    exact ih hn (fun j m => hk j _) hi h
  | case2 first second ih₁ ih₂ =>
    obtain ⟨hfirst, hsecond⟩ := Bool.and_eq_true_iff.mp hn
    obtain ⟨m', h'⟩ | ⟨next', m', rfl | rfl, h'⟩ := alternative_of_matched h
    · exact ih₁ hfirst hk hi h'
    · exact ih₂ hsecond hk hi h'
    · exact ih₂ hsecond hk hi h'
  | case3 a second ih =>
    unfold run run at h
    split at h
    · exact ih hn hk hi h
    · cases h
  | case4 n _ _ _ =>
    obtain ⟨hfirst, hout⟩ := Bool.and_eq_true_iff.mp hn
    obtain ⟨c, hc, hne⟩ := (Option.any_eq_true _ _).mp hfirst
    obtain ⟨x, hx, rfl⟩ := firstLiteral_of_matched hc h
    refine ⟨fun hend => ?_, reached_of_runsOut hout hf hk hi h⟩
    rw [hend x hx] at hne
    cases hne

end Node

/-- A match that fills its line ends where the line does. -/
theorem fillsLine_matchAt {p : Pattern} (hp : p.root.fillsLine p.flags = true)
    (hf : p.flags.dotAll = false) (hi : i ≤ text.size) {found : Match}
    (h : p.matchAt text i = some found) : ¬EndsLine text i ∧ EndsLine text found.stop := by
  rw [matchAt_eq] at h
  obtain ⟨r, hr, rfl⟩ := Option.map_eq_some_iff.mp h
  exact Node.fillsLine_sound hp hf (fun j m => ⟨m.captures, rfl⟩) hi (Verdict.found?_eq_some.mp hr)

end Pattern

open Pattern

/-! ## Annotations -/

/-- Do all annotations that the matcher finds fill their lines, as far as its pattern shows? -/
def AnnotationMatcher.fillsLines (m : AnnotationMatcher) : Bool :=
  m.pattern.root.keepsPlace && !m.pattern.flags.dotAll && m.pattern.root.fillsLine m.pattern.flags

/-- A character of a comment in the places of the text. -/
theorem Comment.IsPartOf.getElem?_chars {text : Array Char} {c : Comment} (hc : c.IsPartOf text)
    {j : Nat} (hj : c.offset + j < c.stop) : (Text.chars c.text)[j]? = text[c.offset + j]? := by
  rw [hc.text_eq, Text.chars_slice, Array.getElem?_extract, Nat.min_eq_left hc.stop_le, if_pos (by omega)]

/-- An annotation starts in a line, and ends where the line or the comment ends. -/
theorem annotationsIn_fill {kinds : List (Value × Fragment)} {m : AnnotationMatcher}
    (h : AnnotationMatcher.ofKinds kinds = .ok m) (hm : m.fillsLines = true) {text : Array Char}
    {c : Comment} (hc : c.IsPartOf text) {xs : List Hit}
    (hxs : annotationsIn (some m) (Text.chars c.text) c.offset = .ok xs) {x : Hit} (hx : x ∈ xs) :
    x.LiesIn c ∧ text[x.start.toNat]? ≠ some '\n' ∧
      (x.stop = c.stop ∨ text[x.stop.toNat]? = some '\n') := by
  obtain ⟨hrest, hfills⟩ := Bool.and_eq_true_iff.mp hm
  obtain ⟨hplace, hdot⟩ := Bool.and_eq_true_iff.mp hrest
  rw [Bool.not_eq_true'] at hdot
  rcases annotationsIn_cases h (Text.chars c.text) c.offset with ⟨he, -⟩ | ⟨hits, hruns, hok⟩
  · cases he.symm.trans hxs
  cases hok.symm.trans hxs
  obtain ⟨hpart, hlies⟩ := reportedHits_lieIn h hc hruns x hx
  refine ⟨hlies, ?_⟩
  obtain ⟨y, hy, rfl⟩ := List.mem_map.mp hx
  have hmem : y ∈ ((m.scanner (Text.chars c.text)).run
      ((m.scanner (Text.chars c.text)).size + 1) 0).1 := by
    rw [hruns.run_eq]
    exact (List.mem_filter.mp hy).1
  -- The hit is a match of the combined pattern at its start.
  obtain ⟨position, hle, hsearch⟩ := Scanner.mem_run hmem
  have hfollows := AnnotationMatcher.follows h (Text.chars c.text)
  obtain ⟨-, hstart, -⟩ := hfollows.place hle hsearch
  obtain ⟨found, hfound, hfrom, hto⟩ := hfollows.of_hit hle hsearch
  obtain ⟨-, hmatch, -⟩ := (find?_eq_some_iff hle).mp hfound
  obtain ⟨hopens, hends⟩ := fillsLine_matchAt hfills hdot (hfrom ▸ hstart) hmatch
  rw [← show y.start = found.start from hfrom] at hopens
  rw [← show y.stop = found.stop from hto] at hends
  have hnonempty : (c.offset : Int) + y.start < c.offset + y.stop := hpart.nonempty
  have hinside : (c.offset : Int) + y.stop ≤ c.stop := hlies.2
  have hfrom' : ((c.offset : Int) + y.start).toNat = c.offset + y.start := by omega
  have hto' : ((c.offset : Int) + y.stop).toNat = c.offset + y.stop := by omega
  dsimp only
  rw [hfrom', hto']
  refine ⟨fun hnewline => hopens ?_, ?_⟩
  · rw [← hc.getElem?_chars (by omega)] at hnewline
    intro z hz
    exact Option.some.inj (Eq.trans (Eq.symm hz) hnewline)
  · -- A hit that ends inside the comment ends before a line feed.
    by_cases hlast : c.offset + y.stop = c.stop
    · exact .inl (by omega)
    · have hsize := hc.stop_le
      have hchar : text[c.offset + y.stop]? = some text[c.offset + y.stop] :=
        Array.getElem?_eq_getElem (by omega)
      rw [← hc.getElem?_chars (by omega)] at hchar
      rw [← hc.getElem?_chars (by omega), hchar, hends _ hchar]
      exact .inr rfl

/-! ## Lines -/

/-- The line on which an annotation starts. -/
def Hit.line (text : Array Char) (x : Hit) : Int :=
  (clampedPosition (lineStarts text.toList) text.size x.start).line

/-- A line feed between the starts of two annotations. -/
theorem Hit.line_lt {text : Array Char} {x y : Hit} {j : Nat} (hx : x.start ≤ j)
    (hy : (j : Int) < y.start) (hstop : y.start ≤ text.size) (hj : text[j]? = some '\n') :
    x.line text < y.line text := by
  have hline {z : Hit} (hz : z.start ≤ text.size) :
      z.line text = (text.toList.take z.start.toNat).count '\n' := by
    have hmin : min z.start.toNat text.size = z.start.toNat := by omega
    unfold Hit.line clampedPosition
    rw [hmin, positionIn_lineStarts (by rw [Array.length_toList]; omega)]
  have hbefore : (text.toList.take x.start.toNat).count '\n' ≤ (text.toList.take j).count '\n' :=
    (List.take_sublist_take_left (by omega)).count_le _
  have hupto : (text.toList.take (j + 1)).count '\n' = (text.toList.take j).count '\n' + 1 := by
    rw [List.take_add_one, Array.getElem?_toList, hj, List.count_append]
    rfl
  have hafter : (text.toList.take (j + 1)).count '\n' ≤
      (text.toList.take y.start.toNat).count '\n' :=
    (List.take_sublist_take_left (by omega)).count_le _
  rw [hline (by omega), hline hstop]
  omega

/-! ## Documents -/

/-- The annotations of a text fill their lines: each lies in one of the comments, ends where its line
or the comment ends, and starts on a line of its own among those in the comment. -/
structure FillLines (text : Array Char) (cs : List Comment) (xs : List Hit) : Prop where
  inside : ∀ x ∈ xs, ∃! c, c ∈ cs ∧ x.LiesIn c
  ends : ∀ x ∈ xs, ∀ c ∈ cs, x.LiesIn c → x.stop = c.stop ∨ text[x.stop.toNat]? = some '\n'
  lines : xs.Pairwise fun x y => ∀ c ∈ cs, x.LiesIn c → y.LiesIn c → x.line text < y.line text

/-- All annotations fill their lines. -/
theorem annotations_fillLines {kinds : List (Value × Fragment)} {m : AnnotationMatcher}
    (hm : AnnotationMatcher.ofKinds kinds = .ok m) (hfills : m.fillsLines = true) {l : Language}
    {c : CommentMatcher} (hc : l.commentMatcher = .ok c) (hplace : c.pattern.root.keepsPlace = true)
    (text : Array Char) :
    ∃ cs xs, Descriptor.comments ⟨l, some c, some m⟩ text = .ok cs ∧
      Descriptor.annotations ⟨l, some c, some m⟩ text = .ok xs ∧ FillLines text cs xs := by
  have hparts : ∀ b ∈ (c.pass text).1.filterMap CommentMatch.comment?, b.IsPartOf text :=
    isPartOf_of_mem_comments hc
  have hreported : c.comments text =
      ((c.pass text).1.filterMap CommentMatch.comment?, (c.pass text).2) := rfl
  have hunbroken : (c.pass text).2 = none := by
    rcases CommentMatcher.pass_broken hc text with hnone | ⟨-, hback⟩
    · exact hnone
    · cases hplace.symm.trans hback
  rcases annotationsInAll_cases hm hparts with ⟨-, hback⟩ | ⟨xs, hok, hinside, hordered⟩
  · rw [AnnotationMatcher.fillsLines, hback] at hfills
    cases hfills
  have hapart := apart_of_forward hc
    (fun x hx => CommentMatcher.forward_of_mem_pass hc hplace hx) hinside hordered
  have hends : ∀ x ∈ xs, text[x.start.toNat]? ≠ some '\n' ∧
      ∀ b ∈ (c.pass text).1.filterMap CommentMatch.comment?, x.LiesIn b →
        x.stop = b.stop ∨ text[x.stop.toNat]? = some '\n' := by
    intro x hx
    obtain ⟨b, hb, ys, hys, hmem⟩ := mem_annotationsInAll hok hx
    obtain ⟨hlies, hstart, hstop⟩ := annotationsIn_fill hm hfills (hparts b hb) hys hmem
    refine ⟨hstart, fun b' hb' hlies' => ?_⟩
    rw [(hapart.unique x hx).unique ⟨hb', hlies'⟩ ⟨hb, hlies⟩]
    exact hstop
  refine ⟨_, xs, by simp [Descriptor.comments, hreported, hunbroken],
    by simp [Descriptor.annotations, hreported, hok, hunbroken], hapart.unique,
    fun x hx => (hends x hx).2, ?_⟩
  refine hapart.annotations.imp_of_mem fun {x y} hx hy hle b hb hxb hyb => ?_
  have hxpart := (hinside x hx).1
  have hypart := (hinside y hy).1
  have hnonneg := hxpart.nonneg
  have hxne := hxpart.nonempty
  have hyne := hypart.nonempty
  have hin := hyb.2
  -- The first of the two ends before the comment does, so that there is a line feed behind it, and
  -- the second does not start with that.
  have hnewline : text[x.stop.toNat]? = some '\n' := by
    rcases (hends x hx).2 b hb hxb with hlast | hnewline
    · omega
    · exact hnewline
  have hne : x.stop ≠ y.start := fun heq => (hends y hy).1 (heq ▸ hnewline)
  have hsize := hypart.stop_le
  exact Hit.line_lt (by omega) (by omega) (by omega) hnewline

namespace Config

/-- The names and patterns of the built-in kinds. -/
def builtinFragments : List (Value × Fragment) :=
  builtinKinds.map fun k => (.str k.name, .text k.pattern)

/-- The pattern of the built-in kinds shows that their annotations fill lines. -/
theorem builtinKinds_fillLines :
    ∃ m, AnnotationMatcher.ofKinds builtinFragments = .ok m ∧ m.fillsLines = true := by
  have hvalue : (AnnotationMatcher.ofKinds builtinFragments).toOption.any (·.fillsLines) = true := by
    decide +kernel
  obtain ⟨m, hm, hfills⟩ := (Option.any_eq_true _ _).mp hvalue
  exact ⟨m, eq_ok_of_toOption hm, hfills⟩

/-- The descriptor of a row of the built-in table. -/
structure Describes (m : AnnotationMatcher) (b : Language.Builtin) (d : Descriptor) : Prop where
  grammar : (LanguageEntry.value b.toConfig).grammar = .ok d.language
  matchers : ∃ c, d.language.commentMatcher = .ok c ∧ c.pattern.root.keepsPlace = true ∧
    d = ⟨d.language, some c, some m⟩

/-- The patterns of the comments of the built-in languages keep their place. -/
theorem exists_describes (m : AnnotationMatcher) {b : Language.Builtin} (hb : b ∈ Language.builtins) :
    ∃ d, Describes m b d := by
  have hvalue : ∀ b ∈ Language.builtins, ((LanguageEntry.value b.toConfig).grammar.toOption.bind
      fun l => l.commentMatcher.toOption.map (l, ·)).any (·.2.pattern.root.keepsPlace) = true :=
    List.all_eq_true.mp (by decide +kernel)
  obtain ⟨⟨l, c⟩, hcompiled, hplace⟩ := (Option.any_eq_true _ _).mp (hvalue b hb)
  obtain ⟨l', hl, hc⟩ := Option.bind_eq_some_iff.mp hcompiled
  obtain ⟨c', hc, heq⟩ := Option.map_eq_some_iff.mp hc
  cases heq
  exact ⟨⟨l, some c, some m⟩, eq_ok_of_toOption hl, c, eq_ok_of_toOption hc, hplace, rfl⟩

/-- The languages that come with the program compile. -/
theorem compileLanguages_builtins (m : AnnotationMatcher) {bs : List Language.Builtin}
    (hbs : ∀ b ∈ bs, b ∈ Language.builtins) :
    ∃ ds, compileLanguages m (bs.map fun b => .value b.toConfig) = .ok ds ∧
      List.Forall₂ (Describes m) bs ds := by
  simp only [compileLanguages_eq_ok, List.forall₂_map_left_iff]
  induction bs with
  | nil => exact ⟨[], .nil, .nil⟩
  | cons b bs ih =>
    obtain ⟨hb, hbs⟩ := List.forall_mem_cons.mp hbs
    obtain ⟨d, hd⟩ := exists_describes m hb
    obtain ⟨ds, hds, hdescribes⟩ := ih hbs
    obtain ⟨c, hc, -, heq⟩ := hd.matchers
    have hcompile : compileLanguage m d.language = .ok d := by
      rw [compileLanguage, hc]
      exact congrArg Except.ok heq.symm
    exact ⟨d :: ds, .cons ⟨d.language, hd.grammar, hcompile⟩ hds, .cons hd hdescribes⟩

/-- The built-in configuration is accepted. -/
theorem exists_builtin_plan {m : AnnotationMatcher}
    (hm : AnnotationMatcher.ofKinds builtinFragments = .ok m) :
    ∃ plan, Plan.of builtinAnnotations builtinLanguages = .ok plan ∧
      List.Forall₂ (Describes m) Language.builtins plan.languages := by
  obtain ⟨ds, hds, hdescribes⟩ := compileLanguages_builtins m fun _ hb => hb
  have hdrafts : (draftsFrom [] (builtinKinds.map fun k => .value (.table k.entries))).map
      (List.map fun k => (k.name, k.pattern)) = .ok builtinFragments := rfl
  cases hd : draftsFrom [] (builtinKinds.map fun k => .value (.table k.entries)) with
  | error e =>
    rw [hd] at hdrafts
    cases hdrafts
  | ok drafts =>
    rw [hd] at hdrafts
    have hm' : AnnotationMatcher.ofKinds (drafts.map fun k => (k.name, k.pattern)) = .ok m := by
      rw [Except.ok.inj hdrafts, hm]
    refine ⟨⟨(drafts.zip m.kinds).map fun e => e.1.named e.2, m, ds⟩,
      (Plan.of_entries _ _).trans ?_, hdescribes⟩
    exact bind_eq_ok.mpr ⟨drafts, hd, bind_eq_ok.mpr ⟨m, hm', bind_eq_ok.mpr ⟨ds, hds, rfl⟩⟩⟩

/-- The built-in configuration is accepted, and with each of its languages the annotations of every
text fill their lines. -/
theorem builtin_annotations_fill_lines :
    ∃ plan, Plan.of builtinAnnotations builtinLanguages = .ok plan ∧
      List.Forall₂ (fun b d => (LanguageEntry.value b.toConfig).grammar = .ok d.language ∧
        ∀ text, ∃ cs xs, d.comments text = .ok cs ∧ d.annotations text = .ok xs ∧
          FillLines text cs xs) Language.builtins plan.languages := by
  obtain ⟨m, hm, hfills⟩ := builtinKinds_fillLines
  obtain ⟨plan, hplan, hlanguages⟩ := exists_builtin_plan hm
  refine ⟨plan, hplan, hlanguages.imp fun b d hd => ⟨hd.grammar, fun text => ?_⟩⟩
  obtain ⟨c, hc, hplace, heq⟩ := hd.matchers
  rw [heq]
  exact annotations_fillLines hm hfills hc hplace text

/-- The first annotation goes on behind its parentheses, which span two lines, over another one; the
second ends with its comment. -/
theorem builtin_annotations_fill_lines_parenthesised :
    let text := "/* TODO(a\nb): FIXME\nHACK */ // XXX y".toList.toArray
    ∃ plan d ds, Plan.of builtinAnnotations builtinLanguages = .ok plan ∧ plan.languages = d :: ds ∧
      d.comments text = .ok [⟨"/* TODO(a\nb): FIXME\nHACK */", 0⟩, ⟨"// XXX y", 28⟩] ∧
      d.annotations text = .ok [⟨"TODO", 3, 19, "TODO(a\nb): FIXME"⟩, ⟨"HACK", 20, 27, "HACK */"⟩,
        ⟨"XXX", 31, 36, "XXX y"⟩] ∧
      FillLines text [⟨"/* TODO(a\nb): FIXME\nHACK */", 0⟩, ⟨"// XXX y", 28⟩]
        [⟨"TODO", 3, 19, "TODO(a\nb): FIXME"⟩, ⟨"HACK", 20, 27, "HACK */"⟩,
          ⟨"XXX", 31, 36, "XXX y"⟩] := by
  intro text
  have hvalue : ((AnnotationMatcher.ofKinds builtinFragments).toOption.map fun m =>
      (LanguageEntry.value Language.cFamily.toConfig).grammar.toOption.map fun l =>
        l.commentMatcher.toOption.map fun c =>
          ((Descriptor.comments ⟨l, some c, some m⟩ text).toOption,
            (Descriptor.annotations ⟨l, some c, some m⟩ text).toOption)) =
      some (some (some (some [⟨"/* TODO(a\nb): FIXME\nHACK */", 0⟩, ⟨"// XXX y", 28⟩],
        some [⟨"TODO", 3, 19, "TODO(a\nb): FIXME"⟩, ⟨"HACK", 20, 27, "HACK */"⟩,
          ⟨"XXX", 31, 36, "XXX y"⟩]))) := by decide +kernel
  obtain ⟨m, hm, -⟩ := builtinKinds_fillLines
  obtain ⟨plan, hplan, hdescribes⟩ := exists_builtin_plan hm
  obtain ⟨plan', hplan', hfill⟩ := builtin_annotations_fill_lines
  cases hplan.symm.trans hplan'
  obtain ⟨d, ds, hd, -, hds⟩ := List.forall₂_cons_left_iff.mp hdescribes
  rw [hds] at hfill
  obtain ⟨cs, xs, hcs, hxs, hlines⟩ := (List.forall₂_cons.mp hfill).1.2 text
  obtain ⟨c, hc, -, heq⟩ := hd.matchers
  have hgrammar := hd.grammar
  rw [hm, hgrammar] at hvalue
  simp only [hc, Except.toOption, Option.map_some, ← heq, hcs, hxs, Option.some.injEq,
    Prod.mk.injEq] at hvalue
  obtain ⟨rfl, rfl⟩ := hvalue
  exact ⟨plan, d, ds, hplan, hds, hcs, hxs, hlines⟩

end Config

end Marginalia
