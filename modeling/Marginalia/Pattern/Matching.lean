import Marginalia.Pattern.Node

/-!
# How a pattern matches a text

Matching is backtracking search.  A `Step` gets a position and what the search remembers, and either
ends the whole match or fails.  A pattern turns the step for what follows it into a step for itself:
`Node.run text n … k` first matches `n` and goes on with `k`; where `n` can match in several ways it
tries them in order and takes the first with which `k` succeeds.  So a sequence is a composition,
and alternatives are a choice between two results.

## What a failure leaves behind

A `Memory` holds the marks of the groups and the place that the search has `reached`.  A failed
attempt gives its memory back, and what tries the next way goes on from it:

* the marks are put back as they were, inside a repeat; elsewhere only the marks beyond those that
  were there before are dropped, so that a mark that was set anew keeps its new place;
* the place reached is where the attempt came to look last.  Only a possessive repeat of more than
  one character ever uses it: after a round that fails it goes on from there.

## Repeats

A round that starts where the round before it started cannot lead anywhere new, so a repeat that has
its least number of rounds starts no further round at a position where it already started one.  A
repeat of one character counts how often the character is accepted and then gives back one by one.

## Groups

A group has two marks, one for its start and one for its end, set when it is opened and closed.  It
took part in a match if both are set, the start not behind the end.
-/

namespace Marginalia.Pattern

/-- The marks of groups: the group `g` starts at mark `2 * g - 2` and ends at mark `2 * g - 1`.
There are as many marks as the last one that was set needs. -/
structure Captures where
  marks : List (Option Nat) := []
deriving DecidableEq, Repr

namespace Captures

/-- Sets a mark. -/
def set (c : Captures) (mark position : Nat) : Captures :=
  if mark < c.marks.length then ⟨c.marks.set mark (some position)⟩
  else ⟨c.marks ++ List.replicate (mark - c.marks.length) none ++ [some position]⟩

/-- The group starts at a position. -/
def openAt (c : Captures) (group position : Nat) : Captures := c.set (2 * group - 2) position

/-- The group ends at a position. -/
def closeAt (c : Captures) (group position : Nat) : Captures := c.set (2 * group - 1) position

/-- The place of a mark, if it is set. -/
def mark? (c : Captures) (mark : Nat) : Option Nat := (c.marks[mark]?).join

/-- The part of the text that a group captured. -/
def span? (c : Captures) (group : Nat) : Option (Nat × Nat) :=
  match c.mark? (2 * group - 2), c.mark? (2 * group - 1) with
  | some i, some j => if i ≤ j then some (i, j) else none
  | _, _ => none

/-- Drops the marks beyond those of an earlier moment. -/
def cutTo (c earlier : Captures) : Captures := ⟨c.marks.take earlier.marks.length⟩

/-- Is there, in pairs of marks, one whose start is behind its end? -/
def crossed : List (Option Nat) → Bool
  | some i :: some j :: marks => j < i || crossed marks
  | _ :: _ :: marks => crossed marks
  | _ => false

/-- Does a group start behind its end? -/
def isCrossed (c : Captures) : Bool := crossed c.marks

end Captures

/-- What the search remembers: the place that it has reached, and the groups. -/
structure Memory where
  reached : Nat := 0
  captures : Captures := {}
deriving DecidableEq, Repr

/-- The search comes to look at a position. -/
def Memory.goTo (m : Memory) (position : Nat) : Memory := { m with reached := position }

/-- What an attempt comes to: a match that ends at the place reached, or a failure. -/
inductive Verdict
  | matched (m : Memory)
  | failed (m : Memory)
deriving DecidableEq, Repr

/-- What to do at a position: end the match, or fail. -/
abbrev Step := Nat → Memory → Verdict

/-- The step that ends the match. -/
def Step.done : Step := fun i m => .matched (m.goTo i)

/-- The step that fails. -/
def Step.fail : Step := fun _ m => .failed m

/-- Puts the groups back after a failed attempt: as they were inside a repeat, and elsewhere without
the marks that are new. -/
def Memory.undo (m : Memory) (inRepeat : Bool) (before : Captures) : Memory :=
  { m with captures := if inRepeat then before else m.captures.cutTo before }

/-! ## Anchors -/

/-- Is there a word character at the position? -/
def wordAt (text : Array Char) (f : Flags) (i : Nat) : Bool :=
  match text[i]? with
  | some c => ClassName.word.contains f.ascii c.toNat
  | none => false

/-- Is there a word character just before the position? -/
def wordBefore (text : Array Char) (f : Flags) : Nat → Bool
  | 0 => false
  | i + 1 => wordAt text f i

/-- Is the position the end of the text? -/
def atEnd (text : Array Char) (i : Nat) : Bool := i == text.size

/-- Does a line start at the position? -/
def lineStartsAt (text : Array Char) : Nat → Bool
  | 0 => true
  | i + 1 => text[i]? == some '\n'

/-- Is the anchor at the position?  An empty text has neither boundaries nor places between them. -/
def Anchor.holds (text : Array Char) (f : Flags) (i : Nat) : Anchor → Bool
  | .textStart => i == 0
  | .textEnd => atEnd text i
  | .lineStart => if f.multiline then lineStartsAt text i else i == 0
  | .lineEnd =>
    if f.multiline then atEnd text i || text[i]? == some '\n'
    else atEnd text i || (i + 1 == text.size && text[i]? == some '\n')
  | .boundary => text.size != 0 && wordBefore text f i != wordAt text f i
  | .notBoundary => text.size != 0 && wordBefore text f i == wordAt text f i

/-! ## How a part begins -/

/-- Does the step accept the character at the position? -/
def Single.acceptsAt (text : Array Char) (f : Flags) (s : Single) (i : Nat) : Bool :=
  match text[i]? with
  | some c => s.accepts f c.toNat
  | none => false

/-- How a part of a pattern begins: with a step that compares one character exactly, or in some
other way. -/
inductive Lead
  | exact (s : Single) (f : Flags)
  | other
deriving DecidableEq, Repr

/-- The literal with which a part begins. -/
def Lead.literal? : Lead → Option Nat
  | .exact (.literal c) _ => some c
  | _ => none

/-- Can the part not match at the position, as far as its beginning shows? -/
def Lead.refuses (text : Array Char) (i : Nat) : Lead → Bool
  | .exact s f => !s.acceptsAt text f i
  | .other => false

namespace Node

/-- How a pattern begins; one that does nothing at all has no beginning. -/
def lead? : Node → Flags → Option Lead
  | .empty, _ => none
  | .single s, f => some (if s.isExact f then .exact s f else .other)
  | .scoped on off body, f => body.lead? (f.scoped on off)
  | .both first second, f => (first.lead? f).or (second.lead? f)
  | _, _ => some .other

/-- The literal with which a pattern begins, if it is followed by something that begins with the
literal `next`. -/
def leadLiteral? (n : Node) (f : Flags) (next : Option Nat) : Option Nat :=
  match n.lead? f with
  | some l => l.literal?
  | none => next

/-- The step that a pattern consists of, with the flags in force there. -/
def soleStep? : Node → Flags → Option (Single × Flags)
  | .single s, f => some (s, f)
  | .scoped on off body, f => body.soleStep? (f.scoped on off)
  | _, _ => none

end Node

/-! ## Repeats of one character -/

/-- The end of a run of accepted characters that starts at `i` and has at most `limit` of them. -/
def runEnd (accepts : Nat → Bool) : Nat → Nat → Nat
  | 0, i => i
  | limit + 1, i => if accepts i then runEnd accepts limit (i + 1) else i

/-- Goes on with `k` after giving back accepted characters one by one, `count` at most and down to
the position `base`.  If `k` begins with the literal `next`, other characters are passed over. -/
def giveBack (text : Array Char) (next : Option Nat) (inRepeat : Bool) (before : Captures)
    (k : Step) (base : Nat) : Nat → Memory → Verdict
  | 0, m => attemptAt base m
  | count + 1, m =>
    match attemptAt (base + (count + 1)) m with
    | .matched r => .matched r
    | .failed r => giveBack text next inRepeat before k base count r
where
  /-- Goes on with `k` at one position. -/
  attemptAt (i : Nat) (m : Memory) : Verdict :=
    if next.all fun c => text[i]?.any (·.toNat == c) then
      match k i (m.goTo i) with
      | .matched r => .matched r
      | .failed r => .failed (r.undo inRepeat before)
    else .failed m

/-- Goes on with `k`, and where that fails takes one more accepted character, `limit` at most.
`folded` says that the place reached moves along with the characters. -/
def takeMore (accepts : Nat → Bool) (folded inRepeat : Bool) (before : Captures) (k : Step) :
    Nat → Step
  | limit, i, m =>
    match k i (m.goTo i) with
    | .matched r => .matched r
    | .failed r =>
      let m := (r.undo inRepeat before).goTo i
      if !accepts i then .failed m
      else match limit with
        | 0 => .failed (m.goTo (if folded then i + 1 else i))
        | limit + 1 => takeMore accepts folded inRepeat before k limit (i + 1) m

/-- Rounds of one accepted character each, then `k`, which begins with the literal `next` if there
is one. -/
def unitRounds (text : Array Char) (accepts : Nat → Bool) (folded inRepeat : Bool) (greed : Greed)
    (least : Nat) (most : Option Nat) (next : Option Nat) (k : Step) : Step := fun i m =>
  let room := text.size - i
  if room < least then .failed m
  else
    let limit := match greed with
      | .lazy => least
      | _ => most.elim room (min room)
    let stop := runEnd accepts limit i
    let m := m.goTo (if folded then stop else i)
    if stop < i + least then .failed m
    else match greed with
      | .greedy => giveBack text next inRepeat m.captures k (i + least) (stop - (i + least)) m
      | .lazy =>
        takeMore accepts folded inRepeat m.captures k
          (most.elim room fun n => min room (n - least)) stop m
      | .possessive => k stop m

/-! ## Other repeats -/

/-- May a further round start at the position `i`, after `count` rounds, the last of which started
at `last`? -/
def mayRepeat (most : Option Nat) (count : Nat) (last : Option Nat) (i : Nat) : Bool :=
  most.all (count < ·) && last != some i

/-- A failure at the position `i` comes back to it. -/
def Verdict.backTo (v : Verdict) (i : Nat) : Verdict :=
  match v with
  | .matched m => .matched m
  | .failed m => .failed (m.goTo i)

/-- As many rounds of `body` as possible, then `k`. -/
def greedyRounds (body : Step → Step) (least : Nat) (most : Option Nat) (k : Step) :
    Nat → Nat → Option Nat → Step
  | 0, _, _ => Step.fail
  | left + 1, count, last => fun i m =>
    let m := m.goTo i
    if count < least then
      (body (greedyRounds body least most k left (count + 1) last) i m).backTo i
    else if mayRepeat most count last i then
      match body (greedyRounds body least most k left (count + 1) (some i)) i m with
      | .matched r => .matched r
      | .failed _ => (k i m).backTo i
    else (k i m).backTo i

/-- As few rounds of `body` as possible, then `k`. -/
def lazyRounds (body : Step → Step) (inRepeat : Bool) (least : Nat) (most : Option Nat) (k : Step) :
    Nat → Nat → Option Nat → Step
  | 0, _, _ => Step.fail
  | left + 1, count, last => fun i m =>
    let m := m.goTo i
    if count < least then
      (body (lazyRounds body inRepeat least most k left (count + 1) last) i m).backTo i
    else match k i m with
      | .matched r => .matched r
      | .failed r =>
        let m := (r.undo inRepeat m.captures).goTo i
        if mayRepeat most count last i then
          (body (lazyRounds body inRepeat least most k left (count + 1) (some i)) i m).backTo i
        else .failed m

/-- The given number of rounds of `round`, each matched once and for all; `i` is where they started.
-/
def firstRounds (round : Step) (i : Nat) : Nat → Memory → Verdict
  | 0, m => .matched m
  | count + 1, m =>
    match round m.reached m with
    | .matched r => firstRounds round i count r
    | .failed r => .failed (r.goTo i)

/-- Further rounds of `round`, as many as possible, each matched once and for all.  The round that
fails leaves the groups alone, but not the place reached. -/
def furtherRounds (round : Step) (most : Option Nat) : Nat → Nat → Option Nat → Memory → Memory
  | 0, _, _, m => m
  | left + 1, count, last, m =>
    if mayRepeat most count last m.reached then
      match round m.reached m with
      | .matched r => furtherRounds round most left (count + 1) (some m.reached) r
      | .failed r => { r with captures := m.captures }
    else m

/-- As many rounds of `round` as possible, each matched once and for all, then `k`. -/
def possessiveRounds (round : Step) (least : Nat) (most : Option Nat) (k : Step) (left : Nat) :
    Step := fun i m =>
  match firstRounds round i least (m.goTo i) with
  | .failed r => .failed r
  | .matched r =>
    let r := furtherRounds round most left least none r
    k r.reached r

/-- A limit on the number of rounds in a text. -/
def roundLimit (text : Array Char) (least : Nat) : Nat := least + Nat.pow (text.size + 2) 2

/-- Does the text from `i` on repeat, up to the flags, the part of the text between `j` and `j + n`?
-/
def repeatsText (text : Array Char) (f : Flags) : Nat → Nat → Nat → Bool
  | 0, _, _ => true
  | n + 1, j, i =>
    match text[j]?, text[i]? with
    | some a, some b =>
      (if f.ignoreCase then f.lower a.toNat == f.lower b.toNat else a == b)
        && repeatsText text f n (j + 1) (i + 1)
    | _, _ => false

/-! ## Whole patterns -/

/-- Looks whether `body` matches from the position `start` on, without moving from `i`, and goes on
with `k` if it does, or if it does not. -/
def lookFrom (negated inRepeat : Bool) (body k : Step) (start i : Nat) (m : Memory) : Verdict :=
  match body start (m.goTo start) with
  | .matched r => if negated then .failed r else k i r
  | .failed r => if negated then k i (r.undo inRepeat m.captures) else .failed r

/-- Tries one alternative, unless its beginning shows that it cannot match. -/
def tryAlternative (text : Array Char) (lead : Option Lead) (alternative : Step) : Step :=
  fun i m =>
    if lead.any (·.refuses text i) then .failed m else alternative i (m.goTo i)

/-- Matches a pattern, then goes on with `k`.  `inRepeat` says that the pattern is part of the body
of a greedy or lazy repeat, and `next` is the literal with which `k` begins, if it begins with one.
-/
def Node.run (text : Array Char) : Node → Flags → Bool → Option Nat → Step → Step
  | .empty, _, _, _, k => k
  | .single s, f, _, _, k => fun i m =>
    if s.acceptsAt text f i then k (i + 1) m else .failed m
  | .anchor a, f, _, _, k => fun i m => if a.holds text f i then k i m else .failed m
  | .group g body, f, inRepeat, _, k => fun i m =>
    body.run text f inRepeat none
      (fun j m => k j { m with captures := m.captures.closeAt g j }) i
      { m with captures := m.captures.openAt g i }
  | .scoped on off body, f, inRepeat, next, k => body.run text (f.scoped on off) inRepeat next k
  | .atomic body, f, inRepeat, _, k => fun i m =>
    match body.run text f inRepeat none Step.done i (m.goTo i) with
    | .matched r => k r.reached r
    | .failed r => .failed (r.goTo i)
  | .rounds greed least most body, f, inRepeat, next, k =>
    match body.soleStep? f with
    | some (s, g) =>
      unitRounds text (s.acceptsAt text g) (s.isFoldedClass g) inRepeat greed least most next k
    | none =>
      let left := roundLimit text least
      match greed with
      | .greedy => greedyRounds (body.run text f true none) least most k left 0 none
      | .lazy => lazyRounds (body.run text f true none) inRepeat least most k left 0 none
      | .possessive =>
        possessiveRounds (body.run text f inRepeat none Step.done) least most k left
  | .ahead negated body, f, inRepeat, _, k => fun i m =>
    lookFrom negated inRepeat (body.run text f inRepeat none Step.done) k i i m
  | .behind negated width body, f, inRepeat, _, k => fun i m =>
    if i < width.least then if negated then k i m else .failed m
    else
      lookFrom negated inRepeat (body.run text f inRepeat none Step.done) k (i - width.least) i m
  | .backref g, f, _, _, k => fun i m =>
    match m.captures.span? g with
    | some (a, b) => if repeatsText text f (b - a) a i then k (i + (b - a)) m else .failed m
    | none => .failed m
  | .conditional g yes no, f, inRepeat, next, k => fun i m =>
    if (m.captures.span? g).isSome then
      yes.run text f inRepeat (if no = .empty then next else none) k i m
    else no.run text f inRepeat next k i m
  | .either first second, f, inRepeat, next, k => fun i m =>
    match tryAlternative text (first.lead? f) (first.run text f inRepeat none k) i m with
    | .matched r => .matched r
    | .failed r =>
      let r := r.undo inRepeat m.captures
      if second.isChoice then second.run text f inRepeat next k i r
      else
        match tryAlternative text (second.lead? f) (second.run text f inRepeat none k) i r with
        | .matched r => .matched r
        | .failed r => .failed (r.undo inRepeat m.captures)
  | .both first second, f, inRepeat, next, k =>
    first.run text f inRepeat (second.leadLiteral? f next) (second.run text f inRepeat next k)

end Marginalia.Pattern
