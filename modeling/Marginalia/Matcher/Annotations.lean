import Marginalia.Matcher.Comments

/-!
# Finding annotations

All kinds of annotations become one pattern with a named group for each kind, in the order of the
configuration:

    (?P<TODO>TODO:?.*)|(?P<FIXME>FIXME.*)

A match is labelled with the first kind whose group took part in it.
-/

namespace Marginalia

/-- One hit of an annotation matcher, with the kind that it belongs to. -/
structure AnnotationMatch where
  kind : String
  start : Nat
  stop : Nat
  value : String
deriving DecidableEq, Repr

/-- All kinds compiled to one pattern, with the number of each kind's group. -/
structure AnnotationMatcher where
  pattern : Pattern
  groups : List (String × Nat)
deriving DecidableEq, Repr

/-- Why a scan of a document ends without a result. -/
inductive ScanError
  /-- The language has not been compiled. -/
  | staleLanguage (ids : List String)
  /-- The annotation kinds have not been compiled. -/
  | staleKinds
  /-- A match in which no kind's group took part. -/
  | unlabelled
  /-- A match with a group that starts behind its end. -/
  | crossedGroup (cause : Pattern.CrossedGroup)
  /-- A hit of a kind that the registry does not have. -/
  | unknownKind (name : String)
  /-- The text of the document cannot be read. -/
  | unreadable
  /-- The document has no text. -/
  | noText
deriving DecidableEq, Repr

/-- The wording of a scan error. -/
def ScanError.message : ScanError → String
  | .staleLanguage ids => "language " ++ literalTexts ids ++ " has not been compiled"
  | .staleKinds => "annotation matcher has not been compiled"
  | .unlabelled => "annotation match without a kind group"
  | .crossedGroup cause => cause.message
  | .unknownKind name => Text.quoted name
  | .unreadable => "gone"
  | .noText => "object of type 'NoneType' has no len()"

/-- The named group of one kind in the notation of patterns. -/
def kindGroup (name source : String) : String := "(?P<" ++ name ++ ">" ++ source ++ ")"

/-- The fragments of the kinds as named groups, if each compiles on its own.  A name that is no text
is written as one. -/
def kindGroups : List (Value × Fragment) → Except RebuildError (List String)
  | [] => .ok []
  | (name, f) :: kinds => do
    let source ← checkFragment (.kind name.text) f
    return kindGroup name.text source :: (← kindGroups kinds)

/-- The combined pattern of the groups of all kinds. -/
def combinedKinds (groups : List String) : String :=
  if groups.isEmpty then neverMatch else alternatives groups

/-- The text of the combined pattern of the kinds. -/
def annotationPattern (kinds : List (Value × Fragment)) : Except RebuildError String := do
  return combinedKinds (← kindGroups kinds)

namespace AnnotationMatcher

/-- The name and the number of the group that a value names; only a text does. -/
def groupOf? (p : Pattern) : Value → Option (String × Nat)
  | .str name => (p.names.lookup name).map fun g => (name, g)
  | _ => none

/-- The names and numbers of the groups of the given names. -/
def groupsOf (p : Pattern) : List Value → Except RebuildError (List (String × Nat))
  | [] => .ok []
  | name :: names =>
    match groupOf? p name with
    | some g => do return g :: (← groupsOf p names)
    | none => .error (.unknownGroup name)

/-- Compiles the kinds, in order. -/
def ofKinds (kinds : List (Value × Fragment)) : Except RebuildError AnnotationMatcher := do
  let source ← annotationPattern kinds
  let p ← compileFor .allKinds source source
  return ⟨p, ← groupsOf p (kinds.map Prod.fst)⟩

/-- The names of the kinds. -/
def kinds (m : AnnotationMatcher) : List String := m.groups.map Prod.fst

/-- The first kind whose group took part in a match, and what the group captured. -/
def label? (captures : Pattern.Captures) : List (String × Nat) → Option (String × Nat × Nat)
  | [] => none
  | (name, g) :: groups =>
    match captures.span? g with
    | some (i, j) => some (name, i, j)
    | none => label? captures groups

/-- The next annotation at or after a position. -/
def search (m : AnnotationMatcher) (text : Array Char) (position : Int) :
    Except ScanError (Option AnnotationMatch) :=
  match m.pattern.search text position with
  | .error e => .error (.crossedGroup e)
  | .ok none => .ok none
  | .ok (some r) =>
    match label? r.captures m.groups with
    | some (name, i, j) => .ok (some ⟨name, r.start, r.stop, Text.slice text i j⟩)
    | none => .error .unlabelled

/-- The matcher as diagnostics show it. -/
def literal (m : AnnotationMatcher) : String :=
  "AnnotationMatcher(" ++ Text.quoted m.pattern.source ++ ")"

end AnnotationMatcher

end Marginalia
