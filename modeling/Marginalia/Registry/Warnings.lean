import Marginalia.Registry.Basic

/-!
# Warnings about patterns

Some patterns are valid but have a part that may be meant otherwise.  Building a registry warns
about each of its patterns once, in the order in which they are compiled: the fragments of the kinds
and the pattern of all kinds, then for each language its fragments and its pattern.  What would have
been compiled after the first failure is not warned about.
-/

namespace Marginalia

/-- The text that a fragment is compiled as, if it is a text. -/
def Fragment.source? : Fragment → Option String
  | .text s => some (Fragment.normalise s)
  | .other _ => none

/-- The texts that are compiled up to the first that fails, and whether all went well.  A fragment
that is no text fails without being compiled. -/
def compileInTurn : List (Option String) → List String × Bool
  | [] => ([], true)
  | none :: _ => ([], false)
  | some s :: rest =>
    match Pattern.compile s with
    | .error _ => ([s], false)
    | .ok _ =>
      let (texts, good) := compileInTurn rest
      (s :: texts, good)

/-- The texts compiled for fragments and then for the pattern that combines them, if there is one.
-/
def compileTogether (fragments : List Fragment) (combined : Option String) : List String × Bool :=
  match compileInTurn (fragments.map Fragment.source?) with
  | (texts, false) => (texts, false)
  | (texts, true) =>
    let (last, good) := compileInTurn [combined]
    (texts ++ last, good)

/-- The fragments of a language, in the order in which they are compiled. -/
def Language.fragments (l : Language) : List Fragment :=
  l.lineComments ++ l.blockComments ++ l.skippedBlocks

/-- The texts compiled for language entries, up to the first that fails. -/
def languageTexts : List LanguageEntry → List String
  | [] => []
  | e :: es =>
    match e.grammar with
    | .error _ => []
    | .ok l =>
      match compileTogether l.fragments l.commentPattern.toOption with
      | (texts, false) => texts
      | (texts, true) => texts ++ languageTexts es

/-- The texts compiled for a list of kinds, and whether all went well. -/
def kindTexts (drafts : List KindDraft) : List String × Bool :=
  compileTogether (drafts.map (·.pattern))
    (annotationPattern (drafts.map fun k => (k.name, k.pattern))).toOption

/-- All texts that building a registry compiles, in order. -/
def compiledTexts (annotations : Section AnnotationEntry) (languages : Section LanguageEntry) :
    List String :=
  match annotations, languages with
  | .missing, _ => []
  | _, .missing => []
  | .entries items, languages =>
    match draftsFrom [] items with
    | .error _ => []
    | .ok drafts =>
      match kindTexts drafts, languages with
      | (texts, true), .entries items => texts ++ languageTexts items
      | (texts, _), _ => texts
  | .notIterable _, _ => []

/-- Each text once, where it occurs first. -/
def firstOccurrences (texts : List String) : List String :=
  texts.foldl (fun seen t => if seen.contains t then seen else seen ++ [t]) []

/-- The warnings that building a registry issues. -/
def patternWarnings (annotations : Section AnnotationEntry) (languages : Section LanguageEntry) :
    List Pattern.Warning :=
  (firstOccurrences (compiledTexts annotations languages)).flatMap Pattern.warningsOf

end Marginalia
