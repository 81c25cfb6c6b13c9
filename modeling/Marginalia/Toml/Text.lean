import Marginalia.Text.Hex
import Marginalia.Toml.Error

/-!
# White space, comments and strings of TOML

Each reader takes the text from its place on and gives what it read and the rest of the text.
-/

namespace Marginalia.Toml

/-- Is the character a space or a tab? -/
def isSpace (c : Char) : Bool := c == ' ' || c == '\t'

/-- Is the character a space, a tab or a line feed? -/
def isSpaceOrLine (c : Char) : Bool := isSpace c || c == '\n'

/-- Skips spaces and tabs. -/
def skipSpace (cs : List Char) : List Char := cs.dropWhile isSpace

/-- Is the character an ASCII control character? -/
def isControl (c : Char) : Bool := c.toNat < 0x20 || c.toNat == 0x7f

/-- The control characters that may not stand in a string of one line, or in a comment. -/
def isIllegal (c : Char) : Bool := isControl c && c != '\t'

/-- The control characters that may not stand in a string of several lines. -/
def isIllegalInLines (c : Char) : Bool := isIllegal c && c != '\n'

/-- Does the text start with these characters? -/
def startsWith (lead : List Char) (cs : List Char) : Bool := lead.isPrefixOf cs

/-- The text before the first occurrence of `stop`, and the text from there on; all of it if there
is no occurrence.  `done` is the text before, the latest character first. -/
def splitFrom (stop done : List Char) : List Char → List Char × List Char
  | [] => (done.reverse, [])
  | c :: cs =>
    if startsWith stop (c :: cs) then (done.reverse, c :: cs) else splitFrom stop (c :: done) cs

/-- The text before the first occurrence of `stop`, and the text from there on. -/
def splitAtFirst (stop cs : List Char) : List Char × List Char := splitFrom stop [] cs

/-- Checks that no character of the part read is illegal; `rest` is the text that starts with the
part. -/
def checkLegal (illegal : Char → Bool) : List Char → List Char → Except Error Unit
  | c :: part, rest =>
    if illegal c then .error (problemAt rest (.invalidCharacter c))
    else checkLegal illegal part rest.tail
  | [], _ => .ok ()

/-- Skips a comment, up to the end of its line. -/
def skipComment : List Char → Except Error (List Char)
  | '#' :: cs => do
    let (part, rest) := splitAtFirst ['\n'] cs
    checkLegal isIllegal part cs
    return rest
  | cs => .ok cs

/-- Skips white space, line feeds and comments from inside or outside of a comment. -/
def skipFill (inComment : Bool) : List Char → Except Error (List Char)
  | [] => .ok []
  | c :: cs =>
    if c = '\n' then skipFill false cs
    else if inComment then
      if isIllegal c then .error (problemAt (c :: cs) (.invalidCharacter c)) else skipFill true cs
    else if isSpace c then skipFill false cs
    else if c = '#' then skipFill true cs
    else .ok (c :: cs)

/-- Skips white space, line feeds and comments. -/
def skipBlank (cs : List Char) : Except Error (List Char) := skipFill false cs

/-! ## Literal strings -/

/-- The text up to a terminator, which has to be there, and the rest after it. -/
def literalUntil (stop : List Char) (illegal : Char → Bool) (cs : List Char) :
    Except Error (List Char × List Char) := do
  let (part, rest) := splitAtFirst stop cs
  if rest.isEmpty then throw (.found (.expected (String.ofList stop)) 0)
  checkLegal illegal part cs
  return (part, rest.drop stop.length)

/-- A literal string of one line, after its quote. -/
def literalString (cs : List Char) : Except Error (List Char × List Char) :=
  literalUntil ['\''] isIllegal cs

/-! ## Basic strings -/

/-- The characters written by a backslash and a letter. -/
def escapeLetter? (c : Char) : Option Char :=
  match c with
  | 'b' => some '\x08'
  | 't' => some '\t'
  | 'n' => some '\n'
  | 'f' => some '\x0c'
  | 'r' => some '\r'
  | '"' => some '"'
  | '\\' => some '\\'
  | _ => none

/-- Is the number a code point that a text can hold? -/
def isScalar (n : Nat) : Bool := n ≤ 55295 || (57344 ≤ n && n ≤ 1114111)

/-- What an escape stands for, and how many characters it takes up after its backslash. -/
structure Escape where
  stands : Option Char
  size : Nat
deriving DecidableEq, Repr

/-- A character written by a letter and its code with the given number of digits, which follow. -/
def hexCharacter (digits : Nat) (cs : List Char) : Except Error Escape := do
  let ds := cs.take digits
  if ds.length ≠ digits || !ds.all Text.isHexDigit then throw (problemAt cs .invalidHex)
  let n := Text.numeral 16 ds
  if !isScalar n then throw (problemAt (cs.drop digits) .notScalar)
  return ⟨some (Char.ofNat n), 1 + digits⟩

/-- The number of spaces, tabs and line feeds at the start of a text. -/
def blankCount (cs : List Char) : Nat := (cs.takeWhile isSpaceOrLine).length

/-- In a string of several lines, a backslash before the end of its line takes the line feed and all
white space after it away.  `c` stands after the backslash, and `cs` after that. -/
def lineContinuation (c : Char) (cs : List Char) : Except Error Escape :=
  if c = '\n' then .ok ⟨none, 1 + blankCount cs⟩
  else match skipSpace cs with
    | [] => .ok ⟨none, 1 + blankCount cs⟩
    | '\n' :: _ => .ok ⟨none, 1 + blankCount cs⟩
    | rest => .error (problemAt rest .unescapedBackslash)

/-- The escape after a backslash. -/
def escape (lines : Bool) (cs : List Char) : Except Error Escape :=
  match cs with
  | [] => .error (problemAt [] .unescapedBackslash)
  | c :: cs =>
    if lines && isSpaceOrLine c then lineContinuation c cs
    else if c = 'u' then hexCharacter 4 cs
    else if c = 'U' then hexCharacter 8 cs
    else match escapeLetter? c with
      | some d => .ok ⟨some d, 1⟩
      | none => .error (problemAt cs .unescapedBackslash)

/-- A basic string after its opening quotes, of one or of several lines.  The next `skip` characters
belong to an escape that has been read; `done` is the string so far, the latest character first. -/
def basicString (lines : Bool) (skip : Nat) (done : List Char) :
    List Char → Except Error (List Char × List Char)
  | [] => .error (problemAt [] .unterminatedString)
  | c :: rest =>
    if skip ≠ 0 then basicString lines (skip - 1) done rest
    else if c = '"' then
      if !lines then .ok (done.reverse, rest)
      else if startsWith ['"', '"'] rest then .ok (done.reverse, rest.drop 2)
      else basicString lines 0 (c :: done) rest
    else if c = '\\' then
      match escape lines rest with
      | .error e => .error e
      | .ok e => basicString lines e.size (e.stands.toList ++ done) rest
    else if (if lines then isIllegalInLines c else isIllegal c) then
      .error (problemAt (c :: rest) (.illegalCharacter c))
    else basicString lines 0 (c :: done) rest

/-- Up to two more quotes after the end of a string of several lines belong to the string. -/
def extraQuotes (quote : Char) (part : List Char) : List Char → List Char × List Char
  | a :: b :: rest =>
    if a = quote then if b = quote then (part ++ [a, b], rest) else (part ++ [a], b :: rest)
    else (part, a :: b :: rest)
  | [a] => if a = quote then (part ++ [a], []) else (part, [a])
  | [] => (part, [])

/-- Drops a line feed that stands first. -/
def dropLineFeed : List Char → List Char
  | '\n' :: cs => cs
  | cs => cs

/-- A string with its quotes, if the text starts with one. -/
def string? (cs : List Char) : Option (Except Error (List Char × List Char)) :=
  match cs with
  | '"' :: '"' :: '"' :: rest => some do
    let (part, rest) ← basicString true 0 [] (dropLineFeed rest)
    return extraQuotes '"' part rest
  | '"' :: rest => some (basicString false 0 [] rest)
  | '\'' :: '\'' :: '\'' :: rest => some do
    let (part, rest) ← literalUntil ['\'', '\'', '\''] isIllegalInLines (dropLineFeed rest)
    return extraQuotes '\'' part rest
  | '\'' :: rest => some (literalString rest)
  | _ => none

/-! ## Keys -/

/-- The characters of a key without quotes. -/
def isBare (c : Char) : Bool := c.isAlphanum || c == '-' || c == '_'

/-- One part of a dotted key. -/
def keyPart (cs : List Char) : Except Error (String × List Char) :=
  match cs with
  | '\'' :: rest => do
    let (part, rest) ← literalString rest
    return (String.ofList part, rest)
  | '"' :: rest => do
    let (part, rest) ← basicString false 0 [] rest
    return (String.ofList part, rest)
  | c :: _ =>
    if isBare c then .ok (String.ofList (cs.takeWhile isBare), cs.dropWhile isBare)
    else .error (problemAt cs .badKeyPart)
  | [] => .error (problemAt cs .badKeyPart)

/-- The parts of a key after those in `done`. -/
def keyParts : Nat → Key → List Char → Except Error (Key × List Char)
  | 0, _, cs => .error (problemAt cs .badKeyPart)
  | calls + 1, done, cs => do
    let (part, rest) ← keyPart cs
    match skipSpace rest with
    | '.' :: rest => keyParts calls (done ++ [part]) (skipSpace rest)
    | rest => return (done ++ [part], rest)

/-- A dotted key and the white space after it; `calls` is at least the number of its characters. -/
def key (calls : Nat) (cs : List Char) : Except Error (Key × List Char) := keyParts calls [] cs

end Marginalia.Toml
