import Marginalia.Language.Basic
import Marginalia.Pattern.Fault
import Marginalia.Style.Options

/-!
# Why a configuration is refused

A `RegistryError` says which rule a configuration breaks; whoever reloads a configuration can refuse
it for such an error and keep the one before.  `RebuildError` adds what ends the attempt in another
way: a section that cannot be walked through, a name that cannot be a key, a limit of patterns, a
kind without a group of its name, options that are none, and a style that could not be had.
-/

namespace Marginalia

/-- Whose pattern it is. -/
inductive PatternOwner
  | language (ids : List String)
  | kind (name : String)
  | allKinds
deriving DecidableEq, Repr

/-- The owner of a pattern as diagnostics name it. -/
def PatternOwner.text : PatternOwner → String
  | .language ids => "language " ++ literalTexts ids
  | .kind name => "annotation " ++ name
  | .allKinds => "annotations"

/-- The wording of a refused pattern. -/
def cannotCompile (owner : PatternOwner) (shown reason : String) : String :=
  owner.text ++ ": cannot compile pattern " ++ Text.quoted shown ++ ": " ++ reason

/-- What is wrong with an annotation entry that has a usable name, or is no table. -/
inductive AnnotationError
  | notTable (kind : String)
  | noPattern (name : String)
  | markdownNotBool (name : String)
deriving DecidableEq, Repr

/-- The wording of an annotation error. -/
def AnnotationError.message : AnnotationError → String
  | .notTable kind => "annotation entry must be a table, got " ++ kind
  | .noPattern name => "annotation '" ++ name ++ "' has no pattern string"
  | .markdownNotBool name => "annotation '" ++ name ++ "': isMarkdown must be true or false"

/-- Which rule a configuration breaks. -/
inductive RegistryError
  | sectionMissing (name : String)
  | duplicateName (name : String)
  | invalidName (name : Value)
  /-- The fragment `shown` was compiled as `source`, which has a fault. -/
  | malformedPattern (owner : PatternOwner) (shown source : String) (fault : Pattern.Fault)
      (position : Option Nat)
  | patternNotText (owner : PatternOwner) (value : Value)
  | badKind (error : AnnotationError)
  | grammar (error : GrammarError)
deriving Repr

/-- The wording of a registry error. -/
def RegistryError.message : RegistryError → String
  | .sectionMissing name => "configuration section '" ++ name ++ "' is missing"
  | .duplicateName name => "duplicate annotation name '" ++ name ++ "'"
  | .invalidName v =>
    "invalid annotation name " ++ v.literal ++
      ": use ASCII letters, digits and underscores, not starting with a digit"
  | .malformedPattern owner shown source fault position =>
    cannotCompile owner shown ((Pattern.Error.malformed fault position).message source.toList)
  | .patternNotText owner v => cannotCompile owner v.literal "pattern must be a string"
  | .badKind e => e.message
  | .grammar e => e.message

/-- Why no registry could be built. -/
inductive RebuildError
  | rejected (error : RegistryError)
  | patternLimit (error : Pattern.Error)
  /-- The number in a value that would have to be shown has too many digits. -/
  | tooLongToWrite
  | unknownGroup (name : Value)
  | unusableName (kind : String)
  | badOptions (error : Style.OptionsError)
  | notIterable (kind : String)
  | outOfStyles (kind : String)
deriving Repr

/-- The wording of a rebuild error. -/
def RebuildError.message : RebuildError → String
  | .rejected e => e.message
  | .patternLimit e => e.message []
  | .tooLongToWrite => Text.tooLongToWrite
  | .unknownGroup name => name.literal
  | .unusableName kind => Value.unusableKeyText kind
  | .badOptions e => e.message
  | .notIterable kind => Value.notIterableText kind
  | .outOfStyles kind => "out of styles: " ++ kind

/-- The refusal of a configuration for a rule whose wording shows a value. -/
def RebuildError.showing (v : Value) (e : RegistryError) : RebuildError :=
  if v.isTooLong then .tooLongToWrite else .rejected e

end Marginalia
