import Marginalia.Pattern.Basic
import Marginalia.Text.Width

/-!
# Accents

A console sets off what a message names: tags, attributes, brackets, addresses, numbers, paths,
quoted texts and links.  Every accent is a run of its own.
-/

namespace Marginalia.Console

/-- What is set off in a single pass, the first that applies at a place: addresses and identifiers,
calls, constants and ellipses, numbers, and then paths, quoted texts and links. -/
def accentAlternatives : List String :=
  ["([0-9]\x7b1,3\x7d\\.[0-9]\x7b1,3\x7d\\.[0-9]\x7b1,3\x7d\\.[0-9]\x7b1,3\x7d)",
   "((?:[A-Fa-f0-9]\x7b1,4\x7d::?)\x7b1,7\x7d[A-Fa-f0-9]\x7b1,4\x7d)",
   "((?:[0-9A-Fa-f]\x7b1,2\x7d-)\x7b7\x7d[0-9A-Fa-f]\x7b1,2\x7d|" ++
     "(?:[0-9A-Fa-f]\x7b1,2\x7d:)\x7b7\x7d[0-9A-Fa-f]\x7b1,2\x7d|" ++
     "(?:[0-9A-Fa-f]\x7b4\x7d\\.)\x7b3\x7d[0-9A-Fa-f]\x7b4\x7d)",
   "((?:[0-9A-Fa-f]\x7b1,2\x7d-)\x7b5\x7d[0-9A-Fa-f]\x7b1,2\x7d|" ++
     "(?:[0-9A-Fa-f]\x7b1,2\x7d:)\x7b5\x7d[0-9A-Fa-f]\x7b1,2\x7d|" ++
     "(?:[0-9A-Fa-f]\x7b4\x7d\\.)\x7b2\x7d[0-9A-Fa-f]\x7b4\x7d)",
   "([a-fA-F0-9]\x7b8\x7d-[a-fA-F0-9]\x7b4\x7d-[a-fA-F0-9]\x7b4\x7d-" ++
     "[a-fA-F0-9]\x7b4\x7d-[a-fA-F0-9]\x7b12\x7d)",
   "([\\w.]*?)\\(",
   "\\b(True)\\b|\\b(False)\\b|\\b(None)\\b",
   "(\\.\\.\\.)",
   "((?<!\\w)(?:\\-?[0-9]+\\.?[0-9]*(?:e[-+]?\\d+?)?)" ++
     "(?:[-+](?:[0-9]+\\.?[0-9]*(?:e[-+]?\\d+)?))?j)",
   "((?<!\\w)\\-?[0-9]+\\.?[0-9]*(?:e[-+]?\\d+?)?\\b|0x[0-9a-fA-F]*)",
   "(\\B(?:/[-\\w._+]+)*\\/)([-\\w._+]*)?",
   "(?<![\\\\\\w])(b?'''.*?(?<!\\\\)'''|b?'.*?(?<!\\\\)'|" ++
     "b?\"\"\".*?(?<!\\\\)\"\"\"|b?\".*?(?<!\\\\)\")",
   "((?:file|https|http|ws|wss)://[-0-9a-zA-Z$_+!`(),.?/;:&=%#~@]*)"]

/-- The texts of the patterns of all passes.  Each group is an accent. -/
def accentSources : List String :=
  ["(<)([-\\w.:|]*)([\\w\\W]*)(>)",
   "([\\w_]\x7b1,50\x7d)=(\"?[\\w_]+\"?)?",
   "([][\x7b\x7d()])",
   "|".intercalate accentAlternatives]

/-- The patterns of all passes. -/
def accentPatterns : List Pattern :=
  accentSources.filterMap fun source => (Pattern.compile source).toOption

/-- The ends of a group that captured any text. -/
def groupEnds (m : Pattern.Match) (group : Nat) : List Nat :=
  match m.captures.span? group with
  | some (i, j) => if i < j then [i, j] else []
  | none => []

/-- The ends of all groups of a match. -/
def accentEnds (m : Pattern.Match) : List Nat :=
  (List.range (m.captures.marks.length / 2)).flatMap fun i => groupEnds m (i + 1)

/-- The matches of a pattern one after the other, from a position on; each step takes at least one
character. -/
def matchesFrom (p : Pattern) (text : Array Char) : Nat → Nat → List Pattern.Match
  | 0, _ => []
  | left + 1, position =>
    match p.find? text position with
    | some m => m :: matchesFrom p text left (max m.stop (position + 1))
    | none => []

/-- The places at which accents of a text begin or end. -/
def accentPlaces (cs : List Char) : List Nat :=
  let text := cs.toArray
  accentPatterns.flatMap fun p => (matchesFrom p text text.size 0).flatMap accentEnds

/-- The places of accents as far as they can be seen.  Seams change nothing in a text of which no
character acts on its neighbours. -/
def accentSeams (cs : List Char) : List Nat :=
  if cs.any Text.isBinding then accentPlaces cs else []

end Marginalia.Console
