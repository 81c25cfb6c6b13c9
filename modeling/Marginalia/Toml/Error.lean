import Marginalia.Text.Integer
import Marginalia.Text.Quoted

/-!
# What can be wrong with a TOML document

A problem is found at a place of the document, which is given by the number of characters that
remain from there on.  A number with too many digits is an error without a place.
-/

namespace Marginalia.Toml

/-- The parts of a dotted key. -/
abbrev Key := List String

/-- A key between parentheses; a key of one part has a comma after it. -/
def keyText : Key → String
  | [k] => "(" ++ Text.quoted k ++ ",)"
  | ks => "(" ++ ", ".intercalate (ks.map Text.quoted) ++ ")"

/-- What is wrong with a document. -/
inductive Problem
  | invalidStatement
  | invalidValue
  | missingEquals
  | statementEnd
  | tableEnd
  | arrayEnd
  | badKeyPart
  | overwrites
  | declaredTwice (key : Key)
  | immutable (key : Key)
  | redefines (key : Key)
  | duplicateInlineKey (key : String)
  | unclosedArray
  | unclosedTable
  | unterminatedString
  | illegalCharacter (c : Char)
  | invalidCharacter (c : Char)
  | expected (text : String)
  | unescapedBackslash
  | invalidHex
  | notScalar
  | invalidDate
deriving DecidableEq, Repr

/-- The wording of a problem, without its place. -/
def Problem.text : Problem → String
  | .invalidStatement => "Invalid statement"
  | .invalidValue => "Invalid value"
  | .missingEquals => "Expected '=' after a key in a key/value pair"
  | .statementEnd => "Expected newline or end of document after a statement"
  | .tableEnd => "Expected ']' at the end of a table declaration"
  | .arrayEnd => "Expected ']]' at the end of an array declaration"
  | .badKeyPart => "Invalid initial character for a key part"
  | .overwrites => "Cannot overwrite a value"
  | .declaredTwice key => "Cannot declare " ++ keyText key ++ " twice"
  | .immutable key => "Cannot mutate immutable namespace " ++ keyText key
  | .redefines key => "Cannot redefine namespace " ++ keyText key
  | .duplicateInlineKey key => "Duplicate inline table key " ++ Text.quoted key
  | .unclosedArray => "Unclosed array"
  | .unclosedTable => "Unclosed inline table"
  | .unterminatedString => "Unterminated string"
  | .illegalCharacter c => "Illegal character " ++ Text.quoted (String.singleton c)
  | .invalidCharacter c => "Found invalid character " ++ Text.quoted (String.singleton c)
  | .expected text => "Expected " ++ Text.quoted text
  | .unescapedBackslash => "Unescaped '\\' in a string"
  | .invalidHex => "Invalid hex value"
  | .notScalar => "Escaped character is not a Unicode scalar value"
  | .invalidDate => "Invalid date or datetime"

/-- Why a document cannot be read. -/
inductive Error
  /-- A problem, and how many characters remain from its place on. -/
  | found (problem : Problem) (remaining : Nat)
  /-- A whole number with that many digits. -/
  | tooManyDigits (digits : Nat)
deriving DecidableEq, Repr

/-- The problem at the start of the remaining text. -/
def problemAt (rest : List Char) (p : Problem) : Error := .found p rest.length

/-- A place in a document: line and column counted from one, or the end. -/
def place (document : List Char) (remaining : Nat) : String :=
  if remaining = 0 then "end of document"
  else
    let before := document.take (document.length - remaining)
    let line := before.count '\n' + 1
    let column := (before.reverse.takeWhile (· != '\n')).length + 1
    "line " ++ toString line ++ ", column " ++ toString column

/-- The wording of an error in a document. -/
def Error.message (document : List Char) : Error → String
  | .found problem remaining => problem.text ++ " (at " ++ place document remaining ++ ")"
  | .tooManyDigits n => Text.tooManyDigits n

end Marginalia.Toml
