import Marginalia.Matcher.Annotations

/-!
# Extracting comments and annotations

Both stages run a matcher over a text with a cursor.  A hit moves the cursor to its end; an empty hit
moves it one character further, because a search from the same place would find the same hit again.
As long as no hit ends before it starts, the cursor does not come back to a place where it was, and a
text of length `n` has at most `n + 1` hits.  A skipped block with a possessive repeat may end before
it starts, and then the cursor goes back, perhaps for ever.  No pass makes more than `n + 1` rounds:
that is enough for every loop that ends, and a loop that does not end is cut off there.

* `CommentMatcher.pass` and `AnnotationMatcher.hits` are all hits that a pass consumes.  A pass over
  comments that breaks off keeps what it had found, because the annotations of those comments are
  looked for first;
* `Descriptor.comments` and `annotationsIn` are those that are worth reporting: comments with a body
  and annotations with a value;
* `Descriptor.annotations` runs the second stage over every comment of the first.
-/

namespace Marginalia

/-- The place in a text from which the next search starts. -/
structure Cursor where
  position : Int := 0
deriving DecidableEq, Repr

/-- Moves past a hit; past an empty hit by one character. -/
def Cursor.advance (_ : Cursor) (start stop : Int) : Cursor :=
  ⟨if stop = start then stop + 1 else stop⟩

/-- A language with its compiled matchers, as far as there are any. -/
structure Descriptor where
  language : Language
  commentMatcher : Option CommentMatcher := none
  annotationMatcher : Option AnnotationMatcher := none
deriving Repr

/-- Does the descriptor have both matchers? -/
def Descriptor.isCompiled (d : Descriptor) : Bool :=
  d.commentMatcher.isSome && d.annotationMatcher.isSome

/-- A comment in a text. -/
structure Comment where
  text : String
  offset : Nat
deriving DecidableEq, Repr

/-- The position after the comment. -/
def Comment.stop (c : Comment) : Nat := c.offset + c.text.length

/-- An annotation in a document. -/
structure Hit where
  kind : String
  start : Int
  stop : Int
  value : String
deriving DecidableEq, Repr

namespace CommentMatcher

/-- The hits from a cursor on, at most `left` of them, and why there are no more if the search
broke off.  A pass that is cut off after `left` hits counts as one that has come to its end. -/
def passFrom (m : CommentMatcher) (text : Array Char) :
    Nat → Cursor → List CommentMatch × Option ScanError
  | 0, _ => ([], none)
  | left + 1, cursor =>
    if (text.size : Int) < cursor.position then ([], none)
    else match m.search text cursor.position with
      | .error e => ([], some (.crossedGroup e))
      | .ok none => ([], none)
      | .ok (some h) =>
        let (hs, broken) := passFrom m text left (cursor.advance h.start h.stop)
        (h :: hs, broken)

/-- All comments and skipped blocks of a text, in order, empty ones included, and why there are no
more if the search broke off. -/
def pass (m : CommentMatcher) (text : Array Char) : List CommentMatch × Option ScanError :=
  m.passFrom text (text.size + 1) {}

end CommentMatcher

namespace AnnotationMatcher

/-- The hits from a cursor on, at most `left` of them. -/
def hitsFrom (m : AnnotationMatcher) (text : Array Char) :
    Nat → Cursor → Except ScanError (List AnnotationMatch)
  | 0, _ => .ok []
  | left + 1, cursor =>
    if (text.size : Int) < cursor.position then .ok []
    else match m.search text cursor.position with
      | .error e => .error e
      | .ok none => .ok []
      | .ok (some h) =>
        match hitsFrom m text left (cursor.advance h.start h.stop) with
        | .error e => .error e
        | .ok hs => .ok (h :: hs)

/-- All annotations of a text, in order, empty ones included. -/
def hits (m : AnnotationMatcher) (text : Array Char) : Except ScanError (List AnnotationMatch) :=
  m.hitsFrom text (text.size + 1) {}

end AnnotationMatcher

/-- The comment of a hit, unless the hit is a skipped block or empty. -/
def CommentMatch.comment? (m : CommentMatch) : Option Comment :=
  match m.body with
  | some body => if body.isEmpty then none else some ⟨body, m.start⟩
  | none => none

/-- The comments that a pass over a text finds, and why there are no more if it broke off. -/
def CommentMatcher.comments (m : CommentMatcher) (text : Array Char) :
    List Comment × Option ScanError :=
  let (hs, broken) := m.pass text
  (hs.filterMap CommentMatch.comment?, broken)

/-- The comments of a text. -/
def Descriptor.comments (d : Descriptor) (text : Array Char) : Except ScanError (List Comment) :=
  match d.commentMatcher with
  | none => .error (.staleLanguage d.language.ids)
  | some m =>
    match m.comments text with
    | (cs, none) => .ok cs
    | (_, some e) => .error e

/-- The hit of a match in a text that starts at `offset`, unless its value is empty. -/
def AnnotationMatch.hit? (offset : Int) (m : AnnotationMatch) : Option Hit :=
  if m.value.isEmpty then none else some ⟨m.kind, offset + m.start, offset + m.stop, m.value⟩

/-- The annotations in a body that starts at `offset` of its document. -/
def annotationsIn (matcher : Option AnnotationMatcher) (body : Array Char) (offset : Int) :
    Except ScanError (List Hit) :=
  match matcher with
  | none => .error .staleKinds
  | some m =>
    match m.hits body with
    | .error e => .error e
    | .ok hs => .ok (hs.filterMap (·.hit? offset))

/-- The annotations in a list of comments. -/
def annotationsInAll (matcher : Option AnnotationMatcher) :
    List Comment → Except ScanError (List Hit)
  | [] => .ok []
  | c :: cs =>
    match annotationsIn matcher (Text.chars c.text) c.offset, annotationsInAll matcher cs with
    | .ok hs, .ok rest => .ok (hs ++ rest)
    | .error e, _ => .error e
    | _, .error e => .error e

/-- The annotations of a text. -/
def Descriptor.annotations (d : Descriptor) (text : Array Char) : Except ScanError (List Hit) :=
  match d.commentMatcher with
  | none => .error (.staleLanguage d.language.ids)
  | some m =>
    let (cs, broken) := m.comments text
    match annotationsInAll d.annotationMatcher cs, broken with
    | .error e, _ => .error e
    | .ok _, some e => .error e
    | .ok hs, none => .ok hs

end Marginalia
