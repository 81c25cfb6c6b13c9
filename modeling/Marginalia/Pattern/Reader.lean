import Marginalia.Pattern.Fault
import Marginalia.Pattern.Node
import Marginalia.Pattern.Token
import Marginalia.Text.CharacterName
import Marginalia.Text.Identifier
import Marginalia.Text.Integer
import Marginalia.Text.Letter

/-!
# Reading the text of a pattern

`Reader` is what is known at some point of the text: the tokens ahead, the groups opened so far with
their widths, their names, and the global flags.  Small readers take tokens off the front (names,
numbers, escapes, classes, flags, group openings).  `readAlternatives` and `readSequence` put them
together; they call each other, so they carry a bound on the number of calls, and three calls for
each token and three more are always enough, because no three calls in a row leave the tokens alone.

A reader looks one token ahead.  So a backslash that ends the pattern is reported when the token
before it is consumed, ahead of anything that would be wrong with what was read.
-/

namespace Marginalia.Pattern

/-- The state of reading a pattern. -/
structure Reader where
  /-- The tokens ahead. -/
  rest : List Token
  /-- Does the text end in a backslash that escapes nothing? -/
  dangling : Bool
  /-- The length of the whole text. -/
  size : Nat
  /-- The widths of the groups in the order of their numbers; an open group has none yet. -/
  groups : List (Option Width) := []
  /-- The named groups with their numbers, in order. -/
  names : List (String × Nat) := []
  /-- Inside a look-behind: the number of the first group opened in it. -/
  floor : Option Nat := none
  /-- The numbers that conditions test, with the place of the first test. -/
  tested : List (Nat × Nat) := []
  /-- The letters of the global flags. -/
  globals : List Char := []
  warnings : List Warning := []
deriving DecidableEq, Repr

namespace Reader

/-- The position of the next token. -/
def tell (r : Reader) : Nat :=
  match r.rest with
  | t :: _ => t.position
  | [] => r.size

/-- The fault at a position. -/
def faultAt (r : Reader) (f : Fault) (position : Nat) : Rejection :=
  ⟨.malformed f (some position), r.warnings⟩

/-- The fault just before the next token. -/
def fault (r : Reader) (f : Fault) : Rejection := r.faultAt f r.tell

/-- The refusal for a cause that has no position. -/
def refuse (r : Reader) (e : Error) : Rejection := ⟨e, r.warnings⟩

/-- Adds a warning. -/
def warn (r : Reader) (w : Warning) : Reader := { r with warnings := r.warnings ++ [w] }

/-- Is the next token this character? -/
def nextIs (r : Reader) (c : Char) : Bool := r.rest.head?.any (·.is c)

/-- Steps over the next token.  Stepping onto a dangling backslash is a fault. -/
def advance (r : Reader) : Except Rejection Reader :=
  match r.rest with
  | [] => .ok r
  | [_] =>
    if r.dangling then .error (r.faultAt .danglingBackslash (r.size - 1))
    else .ok { r with rest := [] }
  | _ :: ts => .ok { r with rest := ts }

/-- Steps over the next token if it is this character, and says whether it was. -/
def accept (r : Reader) (c : Char) : Except Rejection (Bool × Reader) :=
  if r.nextIs c then do return (true, ← r.advance) else .ok (false, r)

/-- Takes at most `limit` tokens that are plain characters of the given kind. -/
def takeWhile (kind : Char → Bool) : Nat → Reader → Except Rejection (List Char × Reader)
  | 0, r => .ok ([], r)
  | limit + 1, r =>
    match r.rest with
    | t :: _ =>
      if !t.escaped && kind t.char then do
        let r ← r.advance
        let (cs, r) ← takeWhile kind limit r
        return (t.char :: cs, r)
      else .ok ([], r)
    | [] => .ok ([], r)

/-- Takes the text up to a terminator and steps over the terminator. -/
def takeName (stop : Char) (what : String) :
    Nat → List Char → Reader → Except Rejection (List Char × Reader)
  | 0, _, r => .error (r.fault .unexpectedEnd)
  | calls + 1, done, r =>
    match r.rest with
    | [] =>
      if done.isEmpty then .error (r.fault (.missingName what))
      else .error (r.faultAt (.unterminatedName stop) (r.tell - done.length))
    | t :: _ => do
      let r ← r.advance
      if t.is stop then
        if done.isEmpty then throw (r.faultAt (.missingName what) (r.tell - 1))
        else return (done, r)
      else takeName stop what calls (done ++ t.text) r

/-- The text up to a terminator, which may not be empty. -/
def name (r : Reader) (stop : Char) (what : String) : Except Rejection (List Char × Reader) :=
  takeName stop what (r.rest.length + 1) [] r

/-! ## Groups and references -/

/-- The number that the next group gets. -/
def nextGroup (r : Reader) : Nat := r.groups.length + 1

/-- Is the group known and closed? -/
def isClosed (r : Reader) (g : Nat) : Bool :=
  match g with
  | 0 => false
  | g + 1 => (r.groups[g]?.getD none).isSome

/-- The widths of the groups that are closed. -/
def widthOf (r : Reader) (g : Nat) : Width :=
  match g with
  | 0 => ⟨0, 0⟩
  | g + 1 => (r.groups[g]?.getD none).getD ⟨0, 0⟩

/-- A look-behind may only refer to groups that were closed before it. -/
def checkLookbehind (r : Reader) (g : Nat) : Except Rejection Unit :=
  match r.floor with
  | none => .ok ()
  | some floor =>
    if !r.isClosed g then .error (r.fault .openReference)
    else if floor ≤ g then .error (r.fault .lookbehindReference)
    else .ok ()

/-- Opens a group, under a name if it has one. -/
def openGroup (r : Reader) (name : Option (List Char)) : Except Rejection (Nat × Reader) :=
  let g := r.nextGroup
  let opened := { r with groups := r.groups ++ [none] }
  match name with
  | none => .ok (g, opened)
  | some cs =>
    let n := String.ofList cs
    match r.names.lookup n with
    | some earlier => .error (r.faultAt (.redefinedGroup n g earlier) (r.tell - (cs.length + 1)))
    | none => .ok (g, { opened with names := r.names ++ [(n, g)] })

/-- Closes a group with the width of its body. -/
def closeGroup (r : Reader) (g : Nat) (w : Width) : Reader :=
  { r with groups := r.groups.set (g - 1) (some w) }

/-! ## Escapes -/

/-- The letters that stand for a control character, with its code. -/
def controlLetter? (c : Char) : Option Nat :=
  match c with
  | 'a' => some 7
  | 'f' => some 12
  | 'n' => some 10
  | 'r' => some 13
  | 't' => some 9
  | 'v' => some 11
  | '\\' => some 92
  | _ => none

/-- The letters that stand for a class of characters. -/
def classLetter? (c : Char) : Option ClassItem :=
  match c with
  | 'd' => some (.named .digit false)
  | 'D' => some (.named .digit true)
  | 's' => some (.named .space false)
  | 'S' => some (.named .space true)
  | 'w' => some (.named .word false)
  | 'W' => some (.named .word true)
  | _ => none

/-- The letters that stand for an anchor. -/
def anchorLetter? (c : Char) : Option Anchor :=
  match c with
  | 'A' => some .textStart
  | 'b' => some .boundary
  | 'B' => some .notBoundary
  | 'Z' => some .textEnd
  | _ => none

/-- The largest code point. -/
def lastCodePoint : Nat := 0x10ffff

/-- A code point written with exactly `digits` hexadecimal digits after the letter of the escape
`t`. -/
def hexEscape (t : Token) (digits : Nat) (r : Reader) : Except Rejection (Nat × Reader) := do
  let (ds, r) ← takeWhile Text.isHexDigit digits r
  let text := String.ofList (t.text ++ ds)
  if ds.length ≠ digits then throw (r.faultAt (.incompleteEscape text) t.position)
  let n := Text.numeral 16 ds
  if 0x7fffffff < n then throw (r.refuse .codePointTooLarge)
  if lastCodePoint < n then throw (r.faultAt (.badEscape text) t.position)
  return (n, r)

/-- A code point by the name of its character. -/
def namedEscape (t : Token) (r : Reader) : Except Rejection (Nat × Reader) := do
  let (found, r) ← r.accept '\x7b'
  if !found then throw (r.fault .missingBrace)
  let (cs, r) ← r.name '\x7d' "character name"
  match Text.characterNamed? cs with
  | some n => return (n, r)
  | none => throw (r.faultAt (.undefinedCharacter (String.ofList cs)) t.position)

/-- The escapes that write a code point in the same way inside and outside a class. -/
def codeEscape? (t : Token) (r : Reader) : Option (Except Rejection (Nat × Reader)) :=
  match t.char with
  | 'x' => some (hexEscape t 2 r)
  | 'u' => some (hexEscape t 4 r)
  | 'U' => some (hexEscape t 8 r)
  | 'N' => some (namedEscape t r)
  | _ => none

/-- Any other escaped character stands for itself, unless it is an ASCII letter. -/
def plainEscape (t : Token) (r : Reader) : Except Rejection (Nat × Reader) :=
  if Text.isAsciiLetter t.char.toNat then
    .error (r.faultAt (.badEscape (String.ofList t.text)) t.position)
  else .ok (t.char.toNat, r)

/-- An octal escape inside a class: up to three digits. -/
def classOctal (t : Token) (r : Reader) : Except Rejection (Nat × Reader) := do
  let (ds, r) ← takeWhile Text.isOctalDigit 2 r
  let n := Text.numeral 8 (t.char :: ds)
  if 0o377 < n then throw (r.faultAt (.octalTooLarge (String.ofList (t.text ++ ds))) t.position)
  return (n, r)

/-- An escape inside a class. -/
def classEscape (t : Token) (r : Reader) : Except Rejection (ClassItem × Reader) :=
  let char (x : Except Rejection (Nat × Reader)) : Except Rejection (ClassItem × Reader) :=
    x.map fun (n, r) => (.char n, r)
  if t.char == 'b' then .ok (.char 8, r)
  else match controlLetter? t.char with
    | some n => .ok (.char n, r)
    | none => match classLetter? t.char with
      | some item => .ok (item, r)
      | none => match codeEscape? t r with
        | some x => char x
        | none =>
          if Text.isOctalDigit t.char then char (classOctal t r)
          else if Text.isAsciiDigit t.char.toNat then
            .error (r.faultAt (.badEscape (String.ofList t.text)) t.position)
          else char (plainEscape t r)

/-- Is the next token a plain character of this kind? -/
def nextSatisfies (r : Reader) (kind : Char → Bool) : Bool :=
  r.rest.head?.any fun t => !t.escaped && kind t.char

/-- A number after a backslash refers to a group. -/
def reference (t : Token) (ds : List Char) (r : Reader) : Except Rejection (Node × Reader) := do
  let g := Text.numeral 10 ds
  if g < r.nextGroup then
    if !r.isClosed g then throw (r.faultAt .openReference t.position)
    r.checkLookbehind g
    return (.backref g, r)
  else throw (r.faultAt (.invalidReference g) (t.position + 1))

/-- A backslash and a digit: three octal digits, or zero and up to two of them, are a code point;
anything else refers to a group by a number of one or two digits. -/
def digitEscape (t : Token) (r : Reader) : Except Rejection (Node × Reader) := do
  if t.char == '0' then
    let (ds, r) ← takeWhile Text.isOctalDigit 2 r
    return (.single (.literal (Text.numeral 8 ds)), r)
  let (second, r) ← takeWhile (Text.isAsciiDigit ·.toNat) 1 r
  let ds := t.char :: second
  if second.length = 1 && ds.all Text.isOctalDigit && r.nextSatisfies Text.isOctalDigit then
    let (third, r) ← takeWhile Text.isOctalDigit 1 r
    let ds := ds ++ third
    let n := Text.numeral 8 ds
    if 0o377 < n then
      throw (r.faultAt (.octalTooLarge (String.ofList ('\\' :: ds))) t.position)
    return (.single (.literal n), r)
  reference t ds r

/-- An escape outside a class. -/
def escape (t : Token) (r : Reader) : Except Rejection (Node × Reader) :=
  let char (x : Except Rejection (Nat × Reader)) : Except Rejection (Node × Reader) :=
    x.map fun (n, r) => (.single (.literal n), r)
  match anchorLetter? t.char with
  | some a => .ok (.anchor a, r)
  | none => match classLetter? t.char with
    | some item => .ok (.single (.oneOf false [item]), r)
    | none => match controlLetter? t.char with
      | some n => .ok (.single (.literal n), r)
      | none => match codeEscape? t r with
        | some x => char x
        | none =>
          if Text.isAsciiDigit t.char.toNat then digitEscape t r else char (plainEscape t r)

/-! ## Bracketed classes -/

/-- The member that a token of a class stands for, when it is no bracket. -/
def classMember (t : Token) (r : Reader) : Except Rejection (ClassItem × Reader) :=
  if t.escaped then classEscape t r else .ok (.char t.char.toNat, r)

/-- Are these the characters whose doubling looks like a set operation? -/
def isSetOperator (c : Char) : Bool := c == '-' || c == '&' || c == '~' || c == '|'

/-- Warns about a character that is followed by itself, if that looks like a set operation. -/
def warnOperation (r : Reader) (t : Token) : Reader :=
  if !t.escaped && isSetOperator t.char && r.nextIs t.char then
    r.warn (.setOperation t.char (r.tell - 1))
  else r

/-- The members of a class up to its closing bracket; `start` is the place of the opening one. -/
def classItems (start : Nat) :
    Nat → List ClassItem → Reader → Except Rejection (List ClassItem × Reader)
  | 0, _, r => .error (r.faultAt .unterminatedClass start)
  | calls + 1, done, r =>
    match r.rest with
    | [] => .error (r.faultAt .unterminatedClass start)
    | t :: _ => do
      let r ← r.advance
      if t.is ']' && !done.isEmpty then return (done, r)
      let r := if done.isEmpty then r else r.warnOperation t
      let (item, r) ← classMember t r
      let (dash, r) ← r.accept '-'
      if !dash then classItems start calls (done ++ [item]) r
      else match r.rest with
        | [] => throw (r.faultAt .unterminatedClass start)
        | u :: _ =>
          let r ← r.advance
          if u.is ']' then return (done ++ [item, .char '-'.toNat], r)
          let r := if u.is '-' then r.warn (.setOperation '-' (r.tell - 2)) else r
          let (last, r) ← classMember u r
          let bad := r.faultAt (.badRange (String.ofList t.text) (String.ofList u.text))
            (r.tell - (t.text.length + 1 + u.text.length))
          match item, last with
          | .char a, .char b =>
            if b < a then throw bad
            else classItems start calls (done ++ [.range a b]) r
          | _, _ => throw bad

/-- The step that a class stands for: a class of one literal is the literal itself. -/
def classNode (negated : Bool) (items : List ClassItem) : Node :=
  match items.eraseDups, negated with
  | [.char c], false => .single (.literal c)
  | [.char c], true => .single (.notLiteral c)
  | items, _ => .single (.oneOf negated items)

/-- A class after its opening bracket, which stands at `start`. -/
def charClass (start : Nat) (r : Reader) : Except Rejection (Node × Reader) := do
  let r := if r.nextIs '[' then r.warn (.nestedSet r.tell) else r
  let (negated, r) ← r.accept '^'
  let (items, r) ← classItems start (r.rest.length + 1) [] r
  return (classNode negated items, r)

/-! ## Repeats -/

/-- The number that digits write, if it is a bound at all. -/
def repeatCount (ds : List Char) (r : Reader) : Except Rejection Nat :=
  if Text.digitLimit < ds.length then .error (r.refuse (.tooManyDigits ds.length))
  else
    let n := Text.numeral 10 ds
    if boundless ≤ n then .error (r.refuse .repetitionTooLarge) else .ok n

/-- The bounds after an opening brace, or nothing if the brace is an ordinary character. -/
def bounds (r : Reader) : Except Rejection (Option (Nat × Option Nat) × Reader) := do
  if r.nextIs '\x7d' then return (none, r)
  let start := r
  let isDigit := fun c : Char => Text.isAsciiDigit c.toNat
  let (lo, r) ← takeWhile isDigit r.rest.length r
  let (comma, r) ← r.accept ','
  let (hi, r) ← if comma then takeWhile isDigit r.rest.length r else pure (lo, r)
  let (closed, r) ← r.accept '\x7d'
  if !closed then return (none, start)
  let least ← if lo.isEmpty then pure 0 else repeatCount lo r
  if hi.isEmpty then return (some (least, none), r)
  let most ← repeatCount hi r
  if most < least then throw (r.faultAt .repeatBounds start.tell)
  return (some (least, some most), r)

/-- The bounds that a repeat sign stands for, or nothing if it is an ordinary character. -/
def repeatBounds (sign : Char) (r : Reader) :
    Except Rejection (Option (Nat × Option Nat) × Reader) :=
  match sign with
  | '?' => .ok (some (0, some 1), r)
  | '*' => .ok (some (0, none), r)
  | '+' => .ok (some (1, none), r)
  | _ => r.bounds

/-- The sign after a repeat that says how it chooses its number of rounds. -/
def greed (r : Reader) : Except Rejection (Greed × Reader) := do
  let (found, r) ← r.accept '?'
  if found then return (.lazy, r)
  let (found, r) ← r.accept '+'
  return (if found then .possessive else .greedy, r)

/-- A part of a sequence while it is read: a node, or a group that only holds its nodes together. -/
inductive Piece
  | node (n : Node)
  | plain (ns : List Node)
deriving DecidableEq, Repr

/-- The nodes of a list of parts. -/
def Piece.nodes : List Piece → List Node
  | [] => []
  | .node n :: ps => n :: Piece.nodes ps
  | .plain ns :: ps => ns ++ Piece.nodes ps

/-- The body of a repeat, or why the part before the repeat sign cannot be repeated. -/
def Piece.body? : Option Piece → Except Fault Node
  | none => .error .nothingToRepeat
  | some (.node (.anchor _)) => .error .nothingToRepeat
  | some (.node (.rounds _ _ _ _)) => .error .multipleRepeat
  | some (.node n) => .ok n
  | some (.plain ns) => .ok (Node.sequence ns)

/-- A repeat sign: repeats the last part of `done`. -/
def repeated (t : Token) (done : List Piece) (r : Reader) :
    Except Rejection (List Piece × Reader) := do
  let (found, r) ← repeatBounds t.char r
  match found with
  | none => return (done ++ [.node (.single (.literal t.char.toNat))], r)
  | some (least, most) =>
    match Piece.body? done.getLast? with
    | .error f => throw (r.faultAt f t.position)
    | .ok body =>
      let (greed, r) ← r.greed
      return (done.dropLast ++ [.node (.rounds greed least most body)], r)

/-! ## Flags -/

/-- The letters of all flags. -/
def isFlag (c : Char) : Bool := ['i', 'L', 'm', 's', 'x', 'a', 't', 'u'].contains c

/-- The flags that choose the meaning of character classes. -/
def isTypeFlag (c : Char) : Bool := c == 'a' || c == 'u' || c == 'L'

/-- The fault of a token that is no flag. -/
def notFlag (r : Reader) (t : Token) (f : Fault) : Rejection :=
  r.faultAt (if !t.escaped && Text.isLetter t.char.toNat then .unknownFlag else f) t.position

/-- The flags to switch on, from the flag `c` that was just read, and the token that ends them. -/
def flagsOn : Nat → Char → List Char → Reader → Except Rejection ((List Char × Char) × Reader)
  | 0, _, _, r => .error (r.fault .missingFlagEnd)
  | calls + 1, c, done, r => do
    if c == 'L' then throw (r.fault .localeFlag)
    let done := done ++ [c]
    if (c == 'a' && done.contains 'u') || (c == 'u' && done.contains 'a') then
      throw (r.fault .incompatibleFlags)
    match r.rest with
    | [] => throw (r.fault .missingFlagEnd)
    | t :: _ =>
      let r ← r.advance
      if t.is ')' || t.is '-' || t.is ':' then return ((done, t.char), r)
      if t.escaped || !isFlag t.char then throw (notFlag r t .missingFlagEnd)
      flagsOn calls t.char done r

/-- The flags to switch off, from the flag `c` that was just read, up to the colon. -/
def flagsOff : Nat → Char → List Char → Reader → Except Rejection (List Char × Reader)
  | 0, _, _, r => .error (r.fault .missingColon)
  | calls + 1, c, done, r => do
    if isTypeFlag c then throw (r.fault .fixedFlagOff)
    let done := done ++ [c]
    match r.rest with
    | [] => throw (r.fault .missingColon)
    | t :: _ =>
      let r ← r.advance
      if t.is ':' then return (done, r)
      if t.escaped || !isFlag t.char then throw (notFlag r t .missingColon)
      flagsOff calls t.char done r

/-- The flags of a group whose first flag, or minus sign, is `c`: what to switch on and off in the
body, or nothing if the flags are global. -/
def flags (c : Char) (r : Reader) : Except Rejection (Option (List Char × List Char) × Reader) := do
  let calls := r.rest.length + 1
  let ((on, stop), r) ← if c == '-' then pure (([], '-'), r) else flagsOn calls c [] r
  if stop == ')' then return (none, { r with globals := r.globals ++ on })
  if on.contains 't' then throw (r.faultAt .globalFlagOn (r.tell - 1))
  if stop == ':' then return (some (on, []), r)
  match r.rest with
  | [] => throw (r.fault .missingFlag)
  | t :: _ =>
    let r ← r.advance
    if t.escaped || !isFlag t.char then throw (notFlag r t .missingFlag)
    let (off, r) ← flagsOff calls t.char [] r
    if off.contains 't' then throw (r.faultAt .globalFlagOff (r.tell - 1))
    if on.any off.contains then throw (r.faultAt .flagOnAndOff (r.tell - 1))
    return (some (on, off), r)

/-! ## Openings of groups -/

/-- What follows an opening parenthesis, up to the point where a body begins. -/
inductive Opening
  | capture (name : Option (List Char))
  | plain
  | atomic
  | scoped (on off : List Char)
  | ahead (negated : Bool)
  | behind (negated : Bool)
  | conditional (group : Nat)
  | reference (group : Nat)
  | comment
  | globals
deriving DecidableEq, Repr

/-- Checks that a name is an identifier; the name ends just before the last token read. -/
def checkName (cs : List Char) (r : Reader) : Except Rejection Unit :=
  if Text.isIdentifier cs then .ok ()
  else .error (r.faultAt (.badGroupName (String.ofList cs)) (r.tell - (cs.length + 1)))

/-- The number of a named group. -/
def groupNamed (cs : List Char) (r : Reader) : Except Rejection Nat :=
  match r.names.lookup (String.ofList cs) with
  | some g => .ok g
  | none => .error (r.faultAt (.unknownGroup (String.ofList cs)) (r.tell - (cs.length + 1)))

/-- A reference to a group by name, after its equals sign. -/
def namedReference (r : Reader) : Except Rejection (Opening × Reader) := do
  let (cs, r) ← r.name ')' "group name"
  checkName cs r
  let g ← groupNamed cs r
  if !r.isClosed g then throw (r.faultAt .openReference (r.tell - (cs.length + 1)))
  r.checkLookbehind g
  return (.reference g, r)

/-- Group numbers from here on are refused at once. -/
def groupLimit : Nat := 1073741823

/-- The number that a condition tests, when it is no name. -/
def conditionNumber (cs : List Char) (r : Reader) : Except Rejection (Nat × Reader) := do
  let place := r.tell - (cs.length + 1)
  let number := if Text.digitLimit < Text.digitCount cs then none else Text.readInteger? cs
  match number with
  | some (.ofNat 0) => throw (r.faultAt .badGroupNumber place)
  | some (.ofNat g) =>
    if groupLimit ≤ g then throw (r.faultAt (.invalidReference g) place)
    let r := if (r.tested.lookup g).isSome then r else { r with tested := r.tested ++ [(g, place)] }
    let plain := cs.all fun c => Text.isAsciiDigit c.toNat
    return (g, if plain then r else r.warn (.oddGroupNumber (String.ofList cs) place))
  | _ => throw (r.faultAt (.badGroupName (String.ofList cs)) place)

/-- The group that a condition tests, by name or by number. -/
def conditionGroup (cs : List Char) (r : Reader) : Except Rejection (Nat × Reader) :=
  if Text.isIdentifier cs then (groupNamed cs r).map fun g => (g, r) else conditionNumber cs r

/-- A condition, after its opening parenthesis. -/
def condition (r : Reader) : Except Rejection (Opening × Reader) := do
  let (cs, r) ← r.name ')' "group name"
  let (g, r) ← conditionGroup cs r
  r.checkLookbehind g
  return (.conditional g, r)

/-- Skips a comment up to its closing parenthesis; `start` is where it opened. -/
def skipComment (start : Nat) : Nat → Reader → Except Rejection Reader
  | 0, r => .error (r.faultAt .unterminatedComment start)
  | calls + 1, r =>
    match r.rest with
    | [] => .error (r.faultAt .unterminatedComment start)
    | t :: _ => do
      let r ← r.advance
      if t.is ')' then return r else skipComment start calls r

/-- The fault of a group with an unknown letter after its question mark. -/
def unknownExtension (r : Reader) (lead : String) (t : Token) : Rejection :=
  r.faultAt (.unknownExtension (lead ++ String.ofList t.text))
    (r.tell - (t.text.length + lead.length))

/-- The next token, which has to exist, and the reader after it. -/
def take (r : Reader) : Except Rejection (Token × Reader) := do
  match r.rest with
  | [] => throw (r.fault .unexpectedEnd)
  | t :: _ => return (t, ← r.advance)

/-- A look-behind, after its less-than sign. -/
def lookbehind (r : Reader) : Except Rejection (Opening × Reader) := do
  let (t, r) ← r.take
  if t.is '=' then return (.behind false, r)
  if t.is '!' then return (.behind true, r)
  throw (unknownExtension r "?<" t)

/-- A group with a letter `P`: a named group, or a reference by name. -/
def namedForm (r : Reader) : Except Rejection (Opening × Reader) := do
  let (named, r) ← r.accept '<'
  if named then
    let (cs, r) ← r.name '>' "group name"
    checkName cs r
    return (.capture (some cs), r)
  let (refers, r) ← r.accept '='
  if refers then namedReference r
  else
    let (t, r) ← r.take
    throw (unknownExtension r "?P" t)

/-- The opening of a group; `start` is the place of its parenthesis, which has been read. -/
def opening (start : Nat) (r : Reader) : Except Rejection (Opening × Reader) := do
  let (extended, r) ← r.accept '?'
  if !extended then return (.capture none, r)
  let (t, r) ← r.take
  if t.escaped then throw (unknownExtension r "?" t)
  match t.char with
  | 'P' => namedForm r
  | ':' => return (.plain, r)
  | '#' => return (.comment, ← skipComment start (r.rest.length + 1) r)
  | '=' => return (.ahead false, r)
  | '!' => return (.ahead true, r)
  | '<' => lookbehind r
  | '(' => condition r
  | '>' => return (.atomic, r)
  | c =>
    if isFlag c || c == '-' then
      let (scope, r) ← flags c r
      match scope with
      | none => return (.globals, r)
      | some (on, off) => return (.scoped on off, r)
    else throw (unknownExtension r "?" t)

/-! ## Sequences and alternatives -/

/-- Steps over the closing parenthesis of the group that opened at `start`. -/
def close (start : Nat) (r : Reader) : Except Rejection Reader := do
  let (closed, r) ← r.accept ')'
  if closed then return r else throw (r.faultAt .unterminatedGroup start)

/-- The white space that is skipped when white space is not part of a pattern. -/
def isSkipped (t : Token) : Bool := !t.escaped && Text.isAsciiBlank t.char.toNat

/-- Skips the rest of a line. -/
def skipLine : Nat → Reader → Except Rejection Reader
  | 0, r => .ok r
  | calls + 1, r =>
    match r.rest with
    | [] => .ok r
    | t :: _ => do
      let r ← r.advance
      if t.is '\n' then return r else skipLine calls r

/-- Is white space skipped in the body of a group with these flags? -/
def verboseIn (verbose : Bool) (on off : List Char) : Bool :=
  (verbose || on.contains 'x') && !off.contains 'x'

/-- The characters that start something other than a literal. -/
def isRepeatSign (c : Char) : Bool := c == '*' || c == '+' || c == '?' || c == '\x7b'

mutual

/-- Alternatives up to the end of the pattern or a closing parenthesis.  `verbose` says that white
space is skipped, `top` that this is no group, and `done` are the alternatives before. -/
def readAlternatives :
    Nat → Bool → Bool → List (List Node) → Reader → Except Rejection (List Node × Reader)
  | 0, _, _, _, r => .error (r.fault .unexpectedEnd)
  | calls + 1, verbose, top, done, r => do
    let (ns, r) ← readSequence calls verbose (top && done.isEmpty) [] r
    let (more, r) ← r.accept '|'
    if more then
      readAlternatives calls (if top then r.globals.contains 'x' else verbose) top (done ++ [ns]) r
    else return (Node.choice (done ++ [ns]), r)

/-- Parts up to the end of the alternative.  `first` says that global flags may still be set here,
and `done` are the parts before. -/
def readSequence : Nat → Bool → Bool → List Piece → Reader → Except Rejection (List Node × Reader)
  | 0, _, _, _, r => .error (r.fault .unexpectedEnd)
  | calls + 1, verbose, first, done, r =>
    match r.rest with
    | [] => .ok (Piece.nodes done, r)
    | t :: _ =>
      if t.is '|' || t.is ')' then .ok (Piece.nodes done, r)
      else do
        let r ← r.advance
        if verbose && isSkipped t then readSequence calls verbose first done r
        else if verbose && t.is '#' then
          let r ← skipLine r.rest.length r
          readSequence calls verbose first done r
        else if t.escaped then
          let (n, r) ← r.escape t
          readSequence calls verbose first (done ++ [.node n]) r
        else if t.char == '[' then
          let (n, r) ← charClass t.position r
          readSequence calls verbose first (done ++ [.node n]) r
        else if isRepeatSign t.char then
          let (done, r) ← repeated t done r
          readSequence calls verbose first done r
        else if t.char == '.' then
          readSequence calls verbose first (done ++ [.node (.single .any)]) r
        else if t.char == '^' then
          readSequence calls verbose first (done ++ [.node (.anchor .lineStart)]) r
        else if t.char == '$' then
          readSequence calls verbose first (done ++ [.node (.anchor .lineEnd)]) r
        else if t.char == '(' then
          let (o, r) ← opening t.position r
          match o with
          | .comment => readSequence calls verbose first done r
          | .globals =>
            if !first || !done.isEmpty then throw (r.faultAt .lateGlobalFlags t.position)
            readSequence calls (r.globals.contains 'x') first done r
          | o =>
            let (p, r) ← readGroup calls verbose t.position o r
            readSequence calls verbose first (done ++ [p]) r
        else readSequence calls verbose first (done ++ [.node (.single (.literal t.char.toNat))]) r

/-- The body of a group and its closing parenthesis; `start` is the place of the opening one. -/
def readGroup : Nat → Bool → Nat → Opening → Reader → Except Rejection (Piece × Reader)
  | 0, _, _, _, r => .error (r.fault .unexpectedEnd)
  | calls + 1, verbose, start, o, r => do
    match o with
    | .reference g => return (.node (.backref g), r)
    | .capture name =>
      let (g, r) ← r.openGroup name
      let (ns, r) ← readAlternatives calls verbose false [] r
      let r ← r.close start
      let body := Node.sequence ns
      return (.node (.group g body), r.closeGroup g (body.width r.widthOf))
    | .plain =>
      let (ns, r) ← readAlternatives calls verbose false [] r
      return (.plain ns, ← r.close start)
    | .atomic =>
      let (ns, r) ← readAlternatives calls verbose false [] r
      return (.node (.atomic (Node.sequence ns)), ← r.close start)
    | .scoped on off =>
      let (ns, r) ← readAlternatives calls (verboseIn verbose on off) false [] r
      return (.node (.scoped on off (Node.sequence ns)), ← r.close start)
    | .ahead negated =>
      let (ns, r) ← readAlternatives calls verbose false [] r
      return (.node (.ahead negated (Node.sequence ns)), ← r.close start)
    | .behind negated =>
      let floor := r.floor
      let r := if floor.isNone then { r with floor := some r.nextGroup } else r
      let (ns, r) ← readAlternatives calls verbose false [] r
      let r ← Reader.close start { r with floor := floor }
      let body := Node.sequence ns
      return (.node (.behind negated (body.width r.widthOf) body), r)
    | .conditional g =>
      let (yes, r) ← readSequence calls verbose false [] r
      let (more, r) ← r.accept '|'
      let (no, r) ← if more then readSequence calls verbose false [] r else pure ([], r)
      if more && r.nextIs '|' then throw (r.fault .tooManyBranches)
      let r ← r.close start
      return (.node (.conditional g (Node.sequence yes) (Node.sequence no)), r)
    | .comment => return (.plain [], r)
    | .globals => return (.plain [], r)

end

end Reader

end Marginalia.Pattern
