import Marginalia.Scan

/-!
# Findings

What is painted on documents as one list, by document and then by offset.
-/

namespace Marginalia

/-- One annotation in one document. -/
structure Finding where
  path : String
  kind : String
  /-- Line and column, both counted from one. -/
  line : Int
  column : Int
  text : String
  hover : Option String := none
deriving DecidableEq, Repr

/-- An index into a text of the given size: a negative one counts from the end, and it is moved into
the text. -/
def sliceIndex (size : Nat) (i : Int) : Nat :=
  if i < 0 then ((size : Int) + i).toNat else min i.toNat size

/-- The part of a text between two indices. -/
def sliceOf (text : List Char) (start stop : Int) : List Char :=
  let i := sliceIndex text.length start
  (text.take (sliceIndex text.length stop)).drop i

/-- The finding of a decoration. -/
def Finding.of (uri kind : String) (text : List Char) (d : Decoration) : Finding where
  path := uri
  kind := kind
  line := d.span.start.line + 1
  column := d.span.start.character + 1
  text := String.ofList (sliceOf text d.startOffset d.stopOffset)
  hover := d.hover.map (·.value)

/-- The place of a finding: path, line and column. -/
def Finding.location (f : Finding) : String :=
  f.path ++ ":" ++ toString f.line ++ ":" ++ toString f.column

/-- Is the kind one of those asked for?  None means all, and so does an empty list. -/
def isWanted (kinds : List String) (kind : String) : Bool := kinds.isEmpty || kinds.contains kind

/-- The findings of a document with their offsets, kind by kind. -/
def findingsByKind (doc : Document) (text : List Char) (kinds : List String)
    (painted : Decorations) :
    List (Int × Finding) :=
  (painted.filter fun g => isWanted kinds g.1).flatMap fun g =>
    g.2.map fun d => (d.startOffset, Finding.of doc.uri g.1 text d)

/-- Puts a finding before the first one with a greater offset. -/
def insertByOffset (f : Int × Finding) : List (Int × Finding) → List (Int × Finding)
  | [] => [f]
  | g :: gs => if f.1 < g.1 then f :: g :: gs else g :: insertByOffset f gs

/-- The findings in the order of their offsets; those with one offset keep their order. -/
def sortByOffset (fs : List (Int × Finding)) : List (Int × Finding) :=
  fs.foldl (fun sorted f => insertByOffset f sorted) []

/-- The findings of one document. -/
def Sink.findingsIn (s : Sink) (kinds : List String) (doc : Document) (document : DocRef) :
    Except ScanError (List Finding) := do
  let text ← doc.readText
  return (sortByOffset (findingsByKind doc text kinds (s.decorationsFor document))).map Prod.snd

/-- The findings of documents, in order. -/
def Sink.findings (s : Sink) (kinds : List String) :
    List (Document × DocRef) → Except ScanError (List Finding)
  | [] => .ok []
  | (doc, document) :: rest => do
    let fs ← s.findingsIn kinds doc document
    return fs ++ (← s.findings kinds rest)

end Marginalia
