import Marginalia.Text.Integer
import Marginalia.Text.Quoted

/-!
# What can be wrong with a pattern

A pattern is refused for a `Fault`, most often at a known position of its text.  Other causes are
not faults of the notation but limits: a repetition count that is too large or has too many digits,
a code point that no machine integer holds, a look-behind that is too wide, and global flags that
exclude each other.  A pattern that is read may still earn warnings; they are kept also when the
pattern is refused later on.
-/

namespace Marginalia.Pattern

/-- Why a pattern is not well formed. -/
inductive Fault
  | danglingBackslash
  | badEscape (text : String)
  | incompleteEscape (text : String)
  | octalTooLarge (text : String)
  | missingBrace
  | missingName (what : String)
  | unterminatedName (terminator : Char)
  | undefinedCharacter (name : String)
  | invalidReference (group : Nat)
  | openReference
  | lookbehindReference
  | badRange (first last : String)
  | unterminatedClass
  | nothingToRepeat
  | multipleRepeat
  | repeatBounds
  | unexpectedEnd
  | unknownExtension (text : String)
  | badGroupName (name : String)
  | redefinedGroup (name : String) (group earlier : Nat)
  | unknownGroup (name : String)
  | badGroupNumber
  | tooManyBranches
  | unterminatedComment
  | unterminatedGroup
  | unbalancedGroup
  | missingFlagEnd
  | missingFlag
  | missingColon
  | unknownFlag
  | localeFlag
  | incompatibleFlags
  | fixedFlagOff
  | globalFlagOn
  | globalFlagOff
  | flagOnAndOff
  | lateGlobalFlags
  | lookbehindWidth
  | templateRepeat (operator : String)
deriving DecidableEq, Repr

/-- The wording of a fault, without its position. -/
def Fault.text : Fault → String
  | .danglingBackslash => "bad escape (end of pattern)"
  | .badEscape t => "bad escape " ++ t
  | .incompleteEscape t => "incomplete escape " ++ t
  | .octalTooLarge t => "octal escape value " ++ t ++ " outside of range 0-0o377"
  | .missingBrace => "missing \x7b"
  | .missingName what => "missing " ++ what
  | .unterminatedName c => "missing " ++ String.singleton c ++ ", unterminated name"
  | .undefinedCharacter n => "undefined character name " ++ Text.quoted n
  | .invalidReference g => "invalid group reference " ++ toString g
  | .openReference => "cannot refer to an open group"
  | .lookbehindReference => "cannot refer to group defined in the same lookbehind subpattern"
  | .badRange a b => "bad character range " ++ a ++ "-" ++ b
  | .unterminatedClass => "unterminated character set"
  | .nothingToRepeat => "nothing to repeat"
  | .multipleRepeat => "multiple repeat"
  | .repeatBounds => "min repeat greater than max repeat"
  | .unexpectedEnd => "unexpected end of pattern"
  | .unknownExtension t => "unknown extension " ++ t
  | .badGroupName n => "bad character in group name " ++ Text.quoted n
  | .redefinedGroup n g e =>
    "redefinition of group name " ++ Text.quoted n ++ " as group " ++ toString g ++
      "; was group " ++ toString e
  | .unknownGroup n => "unknown group name " ++ Text.quoted n
  | .badGroupNumber => "bad group number"
  | .tooManyBranches => "conditional backref with more than two branches"
  | .unterminatedComment => "missing ), unterminated comment"
  | .unterminatedGroup => "missing ), unterminated subpattern"
  | .unbalancedGroup => "unbalanced parenthesis"
  | .missingFlagEnd => "missing -, : or )"
  | .missingFlag => "missing flag"
  | .missingColon => "missing :"
  | .unknownFlag => "unknown flag"
  | .localeFlag => "bad inline flags: cannot use 'L' flag with a str pattern"
  | .incompatibleFlags => "bad inline flags: flags 'a', 'u' and 'L' are incompatible"
  | .fixedFlagOff => "bad inline flags: cannot turn off flags 'a', 'u' and 'L'"
  | .globalFlagOn => "bad inline flags: cannot turn on global flag"
  | .globalFlagOff => "bad inline flags: cannot turn off global flag"
  | .flagOnAndOff => "bad inline flags: flag turned on and off"
  | .lateGlobalFlags => "global flags not at the start of the expression"
  | .lookbehindWidth => "look-behind requires fixed-width pattern"
  | .templateRepeat op => "internal: unsupported template operator " ++ op

/-- Why a pattern is refused. -/
inductive Error
  | malformed (fault : Fault) (position : Option Nat)
  | repetitionTooLarge
  | tooManyDigits (digits : Nat)
  | codePointTooLarge
  | lookbehindTooWide
  | conflictingFlags
deriving DecidableEq, Repr

/-- The line of a position, counted from one. -/
def lineOf (cs : List Char) (position : Nat) : Nat := (cs.take position).count '\n' + 1

/-- The column of a position in its line, counted from one. -/
def columnOf (cs : List Char) (position : Nat) : Nat :=
  ((cs.take position).reverse.takeWhile (· != '\n')).length + 1

/-- Where a fault is: the position, and for a pattern of several lines also line and column. -/
def place (cs : List Char) (position : Nat) : String :=
  " at position " ++ toString position ++
    if cs.contains '\n' then
      " (line " ++ toString (lineOf cs position) ++
        ", column " ++ toString (columnOf cs position) ++ ")"
    else ""

/-- The wording of an error about the given pattern text. -/
def Error.message (cs : List Char) : Error → String
  | .malformed f none => f.text
  | .malformed f (some p) => f.text ++ place cs p
  | .repetitionTooLarge => "the repetition number is too large"
  | .tooManyDigits n => Text.tooManyDigits n
  | .codePointTooLarge => "Python int too large to convert to C int"
  | .lookbehindTooWide => "invalid SRE code"
  | .conflictingFlags => "ASCII and UNICODE flags are incompatible"

/-- A construct that is accepted, but is likely not what was meant. -/
inductive Warning
  | nestedSet (position : Nat)
  | setOperation (operator : Char) (position : Nat)
  | oddGroupNumber (name : String) (position : Nat)
deriving DecidableEq, Repr

/-- The set operation that a doubled character may have been meant for. -/
def operationName (c : Char) : String :=
  if c = '-' then "difference"
  else if c = '&' then "intersection"
  else if c = '~' then "symmetric difference"
  else "union"

/-- The wording of a warning. -/
def Warning.message : Warning → String
  | .nestedSet p => "Possible nested set at position " ++ toString p
  | .setOperation c p => "Possible set " ++ operationName c ++ " at position " ++ toString p
  | .oddGroupNumber n p =>
    "bad character in group name " ++ Text.quoted n ++ " at position " ++ toString p

/-- A refused pattern: the error, and the warnings earned before it. -/
structure Rejection where
  error : Error
  warnings : List Warning
deriving DecidableEq, Repr

end Marginalia.Pattern
