import Marginalia.Pattern.Basic
import Marginalia.Registry.Error
import Marginalia.Text.Slice

/-!
# Finding comments

All fragments of a language become one pattern

    (?P<body>LINE_1|LINE_2|BLOCK_1)|(?:SKIPPED_1|SKIPPED_2)

so that at each position the first fragment that matches wins: line comments, then block comments,
then skipped blocks.  A match in which the group `body` took part is a comment; any other match is a
skipped block.  Each fragment has to compile on its own before they are put together.
-/

namespace Marginalia

/-- The pattern that matches nowhere. -/
def neverMatch : String := "(?!)"

/-- A refused pattern as a reason not to build a registry. -/
def refusal (owner : PatternOwner) (shown source : String) : Pattern.Error → RebuildError
  | .malformed fault position => .rejected (.malformedPattern owner shown source fault position)
  | e => .patternLimit e

/-- Compiles a pattern on behalf of an owner. -/
def compileFor (owner : PatternOwner) (shown source : String) : Except RebuildError Pattern :=
  match Pattern.compile source with
  | .ok p => .ok p
  | .error e => .error (refusal owner shown source e.error)

/-- A fragment in its normalised spelling, if it compiles on its own. -/
def checkFragment (owner : PatternOwner) : Fragment → Except RebuildError String
  | .other v => .error (.showing v (.patternNotText owner v))
  | .text s => do
    let source := Fragment.normalise s
    let _ ← compileFor owner s source
    return source

/-- The fragments in their normalised spelling, if each compiles on its own. -/
def checkFragments (owner : PatternOwner) : List Fragment → Except RebuildError (List String)
  | [] => .ok []
  | f :: fs => do
    let s ← checkFragment owner f
    return s :: (← checkFragments owner fs)

/-- Alternatives in the notation of patterns. -/
def alternatives (sources : List String) : String := "|".intercalate sources

/-- The combined pattern of comments and skipped blocks. -/
def combinedComments (comments skipped : List String) : String :=
  let body := if comments.isEmpty then neverMatch else alternatives comments
  "(?P<body>" ++ body ++ ")" ++
    if skipped.isEmpty then "" else "|(?:" ++ alternatives skipped ++ ")"

/-- One hit of a comment matcher; a skipped block has no body. -/
structure CommentMatch where
  start : Nat
  stop : Nat
  body : Option String
deriving DecidableEq, Repr

/-- Is the hit a comment? -/
def CommentMatch.isComment (m : CommentMatch) : Bool := m.body.isSome

/-- The compiled comments and skipped blocks of a language. -/
structure CommentMatcher where
  pattern : Pattern
deriving DecidableEq, Repr

namespace Language

/-- The language as the owner of its patterns. -/
def owner (l : Language) : PatternOwner := .language l.ids

/-- The text of the combined pattern of a language. -/
def commentPattern (l : Language) : Except RebuildError String := do
  let line ← checkFragments l.owner l.lineComments
  let block ← checkFragments l.owner l.blockComments
  let skipped ← checkFragments l.owner l.skippedBlocks
  return combinedComments (line ++ block) skipped

/-- Compiles the comments and skipped blocks of a language. -/
def commentMatcher (l : Language) : Except RebuildError CommentMatcher := do
  let source ← l.commentPattern
  return ⟨← compileFor l.owner source source⟩

end Language

namespace CommentMatcher

/-- The number of the group that holds a comment: it is the first group of the pattern. -/
def bodyGroup : Nat := 1

/-- The hit that a match of the pattern stands for. -/
def hitOf (text : Array Char) (r : Pattern.Match) : CommentMatch :=
  match r.captures.span? bodyGroup with
  | some (i, j) => ⟨i, j, some (Text.slice text i j)⟩
  | none => ⟨r.start, r.stop, none⟩

/-- The next comment or skipped block at or after a position. -/
def search (m : CommentMatcher) (text : Array Char) (position : Int) :
    Except Pattern.CrossedGroup (Option CommentMatch) :=
  match m.pattern.search text position with
  | .ok found => .ok (found.map (hitOf text))
  | .error e => .error e

/-- The matcher as diagnostics show it. -/
def literal (m : CommentMatcher) : String :=
  "CommentMatcher(" ++ Text.quoted m.pattern.source ++ ")"

end CommentMatcher

end Marginalia
