import Marginalia.Text.Digit
import Marginalia.Text.Hex
import Marginalia.Text.Identifier
import Marginalia.Text.Printable

/-!
# Tokens of arguments

The arguments of a handler in a tag are written as an expression.  Its tokens are names, numbers,
quoted texts and symbols.  Every token knows how many brackets are open after it.  The list of
tokens ends with the end of the text, or with the first fault in it.
-/

namespace Marginalia.Markup.Argument

/-- What is wrong with an expression. -/
inductive Fault
  | neverClosed (bracket : Char)
  | unmatched (bracket : Char)
  | mismatched (closing opening : Char) (line : Option Nat)
  | tooNested
  | unterminated (triple : Bool) (line : Nat)
  | badNumber (kind : String)
  | badDigit (digit : Char) (kind : String)
  | leadingZeros
  | badCharacter (c : Char)
  | unprintable (c : Char)
  | strayBackslash
  | unexpectedEnd
  | invalid
  | missingComma
  | missingElse
  | missingParentheses (name : String)
  | assignment
  | assignmentTo (what : String)
  | namedExpression (what : String)
  | starred
  | doubleStarred
  | missingColon
  | missingValue
  | starredValue
deriving DecidableEq, Repr

/-- A code point as diagnostics write it: in at least four hexadecimal digits of upper case. -/
def codePointText (c : Char) : String :=
  "U+" ++ String.ofList ((Text.hex 4 c.toNat).map Char.toUpper)

/-- The wording of a fault. -/
def Fault.message : Fault → String
  | .neverClosed b => "'" ++ String.singleton b ++ "' was never closed"
  | .unmatched b => "unmatched '" ++ String.singleton b ++ "'"
  | .mismatched c o line =>
    "closing parenthesis '" ++ String.singleton c ++ "' does not match opening parenthesis '" ++
      String.singleton o ++ "'" ++ (line.map fun n => " on line " ++ toString n).getD ""
  | .tooNested => "too many nested parentheses"
  | .unterminated triple line =>
    "unterminated " ++ (if triple then "triple-quoted " else "") ++
      "string literal (detected at line " ++ toString line ++ ")"
  | .badNumber kind => "invalid " ++ kind ++ " literal"
  | .badDigit d kind => "invalid digit '" ++ String.singleton d ++ "' in " ++ kind ++ " literal"
  | .leadingZeros =>
    "leading zeros in decimal integer literals are not permitted; " ++
      "use an 0o prefix for octal integers"
  | .badCharacter c =>
    "invalid character '" ++ String.singleton c ++ "' (" ++ codePointText c ++ ")"
  | .unprintable c => "invalid non-printable character " ++ codePointText c
  | .strayBackslash => "unexpected character after line continuation character"
  | .unexpectedEnd => "unexpected EOF while parsing"
  | .invalid => "invalid syntax"
  | .missingComma => "invalid syntax. Perhaps you forgot a comma?"
  | .missingElse => "expected 'else' after 'if' expression"
  | .missingParentheses n =>
    "Missing parentheses in call to '" ++ n ++ "'. Did you mean " ++ n ++ "(...)?"
  | .assignment => "invalid syntax. Maybe you meant '==' or ':=' instead of '='?"
  | .assignmentTo what =>
    "cannot assign to " ++ what ++ " here. Maybe you meant '==' instead of '='?"
  | .namedExpression what => "cannot use assignment expressions with " ++ what
  | .starred => "cannot use starred expression here"
  | .doubleStarred => "cannot use double starred expression here"
  | .missingColon => "':' expected after dictionary key"
  | .missingValue => "expression expected after dictionary key and ':'"
  | .starredValue => "cannot use a starred expression in a dictionary value"

/-- A token of an expression. -/
inductive Token
  | name (text : String)
  | number
  | text
  | symbol (text : String)
  | newline
  | stop
  | fault (f : Fault)
deriving DecidableEq, Repr

/-- A token with the number of brackets that are open after it. -/
structure Lexeme where
  token : Token
  depth : Nat
deriving DecidableEq, Repr

/-! ## Numbers -/

/-- Is the character one of `0` to `9`? -/
def isDigit (c : Char) : Bool := Text.isAsciiDigit c.toNat

/-- May the character be part of a name, as far as its first look tells? -/
def inName (c : Char) : Bool := c.isAlphanum || c == '_' || 128 ≤ c.toNat

/-- The words that may follow a number without a space. -/
def wordsAfterNumber : List String := ["and", "else", "for", "if", "in", "is", "or", "not"]

/-- A number ends here, unless a name would start without a space. -/
def numberEnd (kind : String) (cs : List Char) : Except Fault (List Char) :=
  if wordsAfterNumber.any fun w => w.toList.isPrefixOf cs then .ok cs
  else if cs.head?.any inName then .error (.badNumber kind)
  else .ok cs

/-- Digits after a first one, with single underscores between them. -/
def moreDigits : List Char → Except Fault (List Char)
  | [] => .ok []
  | ['_'] => .error (.badNumber "decimal")
  | '_' :: c :: cs => if isDigit c then moreDigits cs else .error (.badNumber "decimal")
  | c :: cs => if isDigit c then moreDigits cs else .ok (c :: cs)

/-- The end of a decimal number, after all its digits. -/
def decimalEnd (cs : List Char) : Except Fault (List Char) :=
  match cs with
  | c :: rest => if c = 'j' ∨ c = 'J' then numberEnd "imaginary" rest else numberEnd "decimal" cs
  | [] => .ok []

/-- An exponent, if there is one, and the end of the number. -/
def afterFraction (cs : List Char) : Except Fault (List Char) :=
  match cs with
  | e :: rest =>
    if e = 'e' ∨ e = 'E' then
      match rest with
      | c :: digits =>
        if c = '+' ∨ c = '-' then
          if digits.head?.any isDigit then do decimalEnd (← moreDigits digits)
          else .error (.badNumber "decimal")
        else if isDigit c then do decimalEnd (← moreDigits digits)
        else numberEnd "decimal" cs
      | [] => numberEnd "decimal" cs
    else decimalEnd cs
  | [] => .ok []

/-- A fraction after its point. -/
def fraction (cs : List Char) : Except Fault (List Char) := do
  if cs.head?.any isDigit then afterFraction (← moreDigits cs) else afterFraction cs

/-- What may follow the digits before the point. -/
def afterDigits (cs : List Char) : Except Fault (List Char) :=
  match cs with
  | '.' :: rest => fraction rest
  | _ => afterFraction cs

/-- A base that a number may have, besides ten. -/
structure Radix where
  kind : String
  accepts : Char → Bool

/-- The base that a letter after a zero stands for. -/
def radix? (c : Char) : Option Radix :=
  match c.toLower with
  | 'x' => some ⟨"hexadecimal", Text.isHexDigit⟩
  | 'o' => some ⟨"octal", Text.isOctalDigit⟩
  | 'b' => some ⟨"binary", fun d => d == '0' || d == '1'⟩
  | _ => none

/-- What is wrong with a character where a digit of a base has to be. -/
def Radix.fault (r : Radix) (c : Option Char) : Fault :=
  match c with
  | some d => if isDigit d then .badDigit d r.kind else .badNumber r.kind
  | none => .badNumber r.kind

/-- Digits of a base; `needed` says that the next character has to be one. -/
def radixDigits (r : Radix) (needed : Bool) : List Char → Except Fault (List Char)
  | [] => if needed then .error (.badNumber r.kind) else .ok []
  | ['_'] => .error (.badNumber r.kind)
  | '_' :: c :: cs => if r.accepts c then radixDigits r false cs else .error (r.fault (some c))
  | c :: cs =>
    if r.accepts c then radixDigits r false cs
    else if needed || isDigit c then .error (r.fault (some c))
    else numberEnd r.kind (c :: cs)

/-- The zeros at the front of a number, with single underscores between them. -/
def leadingZeros : List Char → Except Fault (List Char)
  | ['_'] => .error (.badNumber "decimal")
  | '_' :: c :: cs =>
    if c = '0' then leadingZeros cs
    else if isDigit c then .ok (c :: cs)
    else .error (.badNumber "decimal")
  | '0' :: cs => leadingZeros cs
  | cs => .ok cs

/-- A number that starts with a zero, after it. -/
def afterZero (cs : List Char) : Except Fault (List Char) :=
  match cs.head?.bind radix? with
  | some r => radixDigits r true cs.tail
  | none => do
    let cs ← leadingZeros cs
    let nonzero := cs.head?.any isDigit
    let cs ← moreDigits cs
    match cs with
    | c :: _ =>
      if c = '.' ∨ c = 'e' ∨ c = 'E' ∨ c = 'j' ∨ c = 'J' then afterDigits cs
      else if nonzero then .error .leadingZeros
      else numberEnd "decimal" cs
    | [] => if nonzero then .error .leadingZeros else .ok []

/-- What follows a number that starts with the given character. -/
def afterNumber (c : Char) (cs : List Char) : Except Fault (List Char) :=
  if c = '.' then fraction cs
  else if c = '0' then afterZero cs
  else do afterDigits (← moreDigits cs)

/-! ## Names, texts and symbols -/

/-- The letters that may stand before a quoted text. -/
def textMarks : List String := ["b", "r", "u", "f", "br", "rb", "fr", "rf"]

/-- The quoted text after its opening quotes, which are `size` times `quote`: what follows it, and
the line where it ends.  `seen` is the number of quotes just read. -/
def afterText (quote : Char) (size seen line : Nat) : List Char → Except Fault (List Char × Nat)
  | [] => .error (.unterminated (size == 3) line)
  | '\\' :: d :: cs => afterText quote size 0 (if d = '\n' then line + 1 else line) cs
  | c :: cs =>
    if c = quote then
      if seen + 1 = size then .ok (cs, line) else afterText quote size (seen + 1) line cs
    else if c = '\n' then
      if size = 1 then .error (.unterminated false line) else afterText quote size 0 (line + 1) cs
    else afterText quote size 0 line cs

/-- A quoted text, after its first quote. -/
def quotedText (quote : Char) (line : Nat) (cs : List Char) : Except Fault (List Char × Nat) :=
  match cs with
  | c :: d :: rest =>
    if c = quote ∧ d = quote then afterText quote 3 0 line rest
    else if c = quote then .ok (d :: rest, line)
    else afterText quote 1 0 line cs
  | [c] => if c = quote then .ok ([], line) else afterText quote 1 0 line cs
  | [] => afterText quote 1 0 line cs

/-- The first character of a name that cannot be part of it. -/
def badNameChar? : List Char → Option Char
  | [] => none
  | c :: cs =>
    if Text.isIdentifierStart c.toNat then cs.find? fun d => !Text.isIdentifierRest d.toNat
    else some c

/-- The fault that a character is. -/
def characterFault (c : Char) : Fault :=
  if Text.isPrintable c.toNat then .badCharacter c else .unprintable c

/-- The symbols of several characters, the longest first. -/
def longSymbols : List String :=
  ["**=", "//=", ">>=", "<<=", "...", "!=", "%=", "&=", "**", "*=", "+=", "-=", "->", "//", "/=",
   ":=", "<<", "<=", "<>", "==", ">=", ">>", "@=", "^=", "|="]

/-- The opening bracket that belongs to a closing one. -/
def openingOf? (c : Char) : Option Char :=
  match c with
  | ')' => some '('
  | ']' => some '['
  | '\x7d' => some '\x7b'
  | _ => none

/-- Is the character an opening bracket? -/
def isOpening (c : Char) : Bool := c == '(' || c == '[' || c == '\x7b'

/-- The greatest number of open brackets. -/
def depthLimit : Nat := 200

/-- Where in an expression its tokens are read. -/
structure Reading where
  line : Nat := 1
  /-- The open brackets with their lines, the last one first. -/
  brackets : List (Char × Nat) := []
deriving DecidableEq, Repr

/-- A token at this place. -/
def Reading.lexeme (r : Reading) (t : Token) : Lexeme := ⟨t, r.brackets.length⟩

/-- The end of an expression at this place. -/
def Reading.finish (r : Reading) : List Lexeme :=
  match r.brackets with
  | (b, _) :: _ => [r.lexeme (.fault (.neverClosed b))]
  | [] => [r.lexeme .newline, r.lexeme .stop]

/-- The place after a bracket. -/
def Reading.bracket (r : Reading) (c : Char) : Except Fault Reading :=
  if isOpening c then
    if depthLimit ≤ r.brackets.length then .error .tooNested
    else .ok { r with brackets := (c, r.line) :: r.brackets }
  else match openingOf? c with
    | none => .ok r
    | some opening =>
      match r.brackets with
      | [] => .error (.unmatched c)
      | (b, line) :: rest =>
        if b = opening then .ok { r with brackets := rest }
        else .error (.mismatched c b (if line = r.line then none else some line))

/-- The tokens of an expression; each step takes at least one character. -/
def lexemesFrom : Nat → Reading → List Char → List Lexeme
  | 0, r, _ => r.finish
  | _, r, [] => r.finish
  | left + 1, r, c :: cs =>
    let stopAt (f : Fault) : List Lexeme := [r.lexeme (.fault f)]
    let textFrom (cs : List Char) (quote : Char) : List Lexeme :=
      match quotedText quote r.line cs with
      | .error f => stopAt f
      | .ok (rest, line) => r.lexeme .text :: lexemesFrom left { r with line } rest
    if c = ' ' ∨ c = '\t' ∨ c.toNat = 0x0c then lexemesFrom left r cs
    else if c = '\n' then
      let next := { r with line := r.line + 1 }
      if r.brackets.isEmpty then r.lexeme .newline :: lexemesFrom left next cs
      else lexemesFrom left next cs
    else if c = '#' then lexemesFrom left r (cs.dropWhile (· != '\n'))
    else if c = '\\' then
      match cs with
      | [] => stopAt .unexpectedEnd
      | ['\n'] => stopAt .unexpectedEnd
      | '\n' :: rest => lexemesFrom left { r with line := r.line + 1 } rest
      | _ => stopAt .strayBackslash
    else if c = '\'' ∨ c = '"' then textFrom cs c
    else if isDigit c || (c == '.' && cs.head?.any isDigit) then
      match afterNumber c cs with
      | .error f => stopAt f
      | .ok rest => r.lexeme .number :: lexemesFrom left r rest
    else if inName c then
      let name := c :: cs.takeWhile inName
      let rest := cs.dropWhile inName
      match rest with
      | q :: rest' =>
        if (q = '\'' ∨ q = '"') ∧ textMarks.contains (String.ofList (name.map Char.toLower)) then
          textFrom rest' q
        else nameToken left r name rest
      | [] => nameToken left r name rest
    else match longSymbols.find? fun s => s.toList.isPrefixOf (c :: cs) with
      | some s => r.lexeme (.symbol s) :: lexemesFrom left r (cs.drop (s.length - 1))
      | none =>
        if !Text.isPrintable c.toNat then stopAt (.unprintable c)
        else match r.bracket c with
          | .error f => stopAt f
          | .ok next => next.lexeme (.symbol (String.singleton c)) :: lexemesFrom left next cs
where
  /-- The token of a name and those after it. -/
  nameToken (left : Nat) (r : Reading) (name rest : List Char) : List Lexeme :=
    match badNameChar? name with
    | some bad => [r.lexeme (.fault (characterFault bad))]
    | none => r.lexeme (.name (String.ofList name)) :: lexemesFrom left r rest

/-- The tokens of an expression. -/
def lexemes (cs : List Char) : List Lexeme := lexemesFrom (cs.length + 1) {} cs

end Marginalia.Markup.Argument
