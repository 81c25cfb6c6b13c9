import Marginalia.Pattern.Matching
import Marginalia.Pattern.Reader

/-!
# Patterns

A `Pattern` is compiled from its text and then searched for in other texts.  Compiling reads the
text, and then checks what only the whole pattern shows: that it is read to its end, that the
numbers tested by conditions are groups, and that every look-behind has one width that is not too
large.

A search tries one position after the other.  What is known of how a match begins decides which
positions are tried:

* a pattern that consumes nothing at least, or of whose beginning nothing is known, is tried at
  every position that leaves room for its least width, the first one included;
* a pattern that begins with literals is tried where the text has them;
* a pattern that begins with a class is tried where the class has the character.  The class is read
  under the flags of the whole pattern, also where it stands in a scope with flags of its own.
-/

namespace Marginalia

namespace Pattern

/-- What is known of how a match of a whole pattern begins. -/
inductive Prospect
  | unknown
  | literals (cs : List Nat)
  | oneOf (negated : Bool) (items : List ClassItem)
deriving DecidableEq, Repr

end Pattern

/-- A compiled pattern. -/
structure Pattern where
  source : String
  root : Pattern.Node
  flags : Pattern.Flags
  names : List (String × Nat)
  /-- The least number of characters in a match. -/
  least : Nat
  prospect : Pattern.Prospect
  warnings : List Pattern.Warning
deriving DecidableEq, Repr

namespace Pattern

/-- A part of a text that a pattern matches. -/
structure Match where
  start : Nat
  stop : Nat
  captures : Captures
deriving DecidableEq, Repr

/-- A match whose groups cannot be told, because one of them starts behind its end. -/
structure CrossedGroup where
deriving DecidableEq, Repr

/-- What is said of such a match. -/
def CrossedGroup.message (_ : CrossedGroup) : String :=
  "The span of capturing group is wrong, please report a bug for the re module."

/-! ## What only the whole pattern shows -/

/-- The name of a repeat in the fault of a template. -/
def Greed.operator : Greed → String
  | .greedy => "MAX_REPEAT"
  | .lazy => "MIN_REPEAT"
  | .possessive => "POSSESSIVE_REPEAT"

/-- The first thing in a well-formed pattern that cannot be compiled: a look-behind without one
width, or any repeat in a template. -/
def Node.defect? (template : Bool) : Node → Option Fault
  | .empty => none
  | .single _ => none
  | .anchor _ => none
  | .group _ body => body.defect? template
  | .scoped _ _ body => body.defect? template
  | .atomic body => body.defect? template
  | .rounds greed _ _ body =>
    if template then some (.templateRepeat greed.operator) else body.defect? template
  | .ahead _ body => body.defect? template
  | .behind _ width body =>
    if width.least ≠ width.greatest then some .lookbehindWidth else body.defect? template
  | .backref _ => none
  | .conditional _ yes no => (yes.defect? template).or (no.defect? template)
  | .either first second => (first.defect? template).or (second.defect? template)
  | .both first second => (first.defect? template).or (second.defect? template)

/-- The width from which on a look-behind is too wide. -/
def lookbehindLimit : Nat := 2147483648

/-- Does the pattern have a look-behind that is too wide? -/
def Node.looksTooFar : Node → Bool
  | .empty => false
  | .single _ => false
  | .anchor _ => false
  | .group _ body => body.looksTooFar
  | .scoped _ _ body => body.looksTooFar
  | .atomic body => body.looksTooFar
  | .rounds _ _ _ body => body.looksTooFar
  | .ahead _ body => body.looksTooFar
  | .behind _ width body => lookbehindLimit ≤ width.least || body.looksTooFar
  | .backref _ => false
  | .conditional _ yes no => yes.looksTooFar || no.looksTooFar
  | .either first second => first.looksTooFar || second.looksTooFar
  | .both first second => first.looksTooFar || second.looksTooFar

/-! ## How a match begins -/

/-- The literals with which a part begins, and whether there may be more after it.  Under ignored
case only literals without another case form count. -/
def Node.openingLiterals : Node → Flags → List Nat × Bool
  | .single (.literal c), f => if f.ignoreCase && f.isCased c then ([], false) else ([c], true)
  | .group _ body, f => body.openingLiterals f
  | .scoped on off body, f => body.openingLiterals (f.scoped on off)
  | .both first second, f =>
    let (cs, goesOn) := first.openingLiterals f
    if goesOn then
      let (ds, goesOn) := second.openingLiterals f
      (cs ++ ds, goesOn)
    else (cs, false)
  | .empty, _ => ([], true)
  | _, _ => ([], false)

/-- The literal with which an alternative begins, if it has no other case form under the flags. -/
def Node.firstLiteral? (f : Flags) : Node → Option Nat
  | .single (.literal c) => if f.ignoreCase && f.isCased c then none else some c
  | .both first _ => first.firstLiteral? f
  | _ => none

/-- The literals with which the alternatives of a choice begin, if all begin with one. -/
def Node.firstLiterals? (f : Flags) : Node → Option (List ClassItem)
  | .either first second => do
    let c ← first.firstLiteral? f
    return .char c :: (← second.firstLiterals? f)
  | n => (n.firstLiteral? f).map fun c => [.char c]

/-- May the member of a class stand for another case form under ignored case? -/
def ClassItem.mayFold (f : Flags) : ClassItem → Bool
  | .char c => f.isCased c
  | item => item.isCased f

/-- The class with which a pattern begins. -/
def Node.openingClass? : Node → Flags → Option (Bool × List ClassItem)
  | .single (.oneOf negated items), f =>
    if f.ignoreCase && items.any (·.mayFold f) then none else some (negated, items)
  | .group _ body, f => body.openingClass? f
  | .scoped on off body, f => body.openingClass? (f.scoped on off)
  | .both first _, f => first.openingClass? f
  | .either first second, f =>
    ((Node.either first second).firstLiterals? f).map fun items => (false, items)
  | _, _ => none

/-- What is known of how a match begins. -/
def Node.prospect (n : Node) (f : Flags) : Prospect :=
  match (n.openingLiterals f).1, n.openingClass? f with
  | c :: cs, _ => .literals (c :: cs)
  | [], some (negated, items) => .oneOf negated items
  | [], none => .unknown

/-! ## Compiling -/

/-- The reader at the start of a text. -/
def Reader.start (cs : List Char) : Except Rejection Reader :=
  let r : Reader := { rest := tokens 0 cs, dangling := endsDangling cs, size := cs.length }
  if r.rest.isEmpty && r.dangling then .error (r.faultAt .danglingBackslash (r.size - 1)) else .ok r

/-- Reads a whole pattern. -/
def readAll (cs : List Char) : Except Rejection (Node × Reader) := do
  let r ← Reader.start cs
  let (ns, r) ← Reader.readAlternatives (3 * r.rest.length + 3) false true [] r
  if r.globals.contains 'a' && r.globals.contains 'u' then throw (r.refuse .conflictingFlags)
  if !r.rest.isEmpty then throw (r.fault .unbalancedGroup)
  match r.tested.find? fun (g, _) => r.nextGroup ≤ g with
  | some (g, place) => throw (r.faultAt (.invalidReference g) place)
  | none => return (Node.sequence ns, r)

/-- Compiles the text of a pattern. -/
def compile (source : String) : Except Rejection Pattern := do
  let (root, r) ← readAll source.toList
  match root.defect? (r.globals.contains 't') with
  | some f => throw (r.refuse (.malformed f none))
  | none =>
    if root.looksTooFar then throw (r.refuse .lookbehindTooWide)
    let flags := ({} : Flags).scoped r.globals []
    let least := (root.width r.widthOf).cut.least
    return { source, root, flags, names := r.names, least,
             prospect := if least = 0 then .unknown else root.prospect flags,
             warnings := r.warnings }

/-- The warnings of a pattern's text, whether it compiles or not. -/
def warningsOf (source : String) : List Warning :=
  match compile source with
  | .ok p => p.warnings
  | .error e => e.warnings

/-! ## Searching -/

/-- Matches the pattern at one position of a text. -/
def matchAt (p : Pattern) (text : Array Char) (start : Nat) : Option Match :=
  match p.root.run text p.flags false none Step.done start { reached := start } with
  | .matched m => some ⟨start, m.reached, m.captures⟩
  | .failed _ => none

/-- Does the text have the literals at the position? -/
def literalsAt (text : Array Char) : List Nat → Nat → Bool
  | [], _ => true
  | c :: cs, i => text[i]?.any (·.toNat == c) && literalsAt text cs (i + 1)

/-- May a match begin at the position? -/
def Prospect.admits (text : Array Char) (f : Flags) (i : Nat) : Prospect → Bool
  | .unknown => true
  | .literals cs => literalsAt text cs i
  | .oneOf negated items =>
    text[i]?.any fun c => items.any (·.contains f c.toNat) != negated

/-- The first match that starts at `start` or at one of the `left` positions after it. -/
def searchFrom (p : Pattern) (text : Array Char) : Nat → Nat → Option Match
  | 0, start => if p.prospect.admits text p.flags start then p.matchAt text start else none
  | left + 1, start =>
    if p.prospect.admits text p.flags start then
      (p.matchAt text start).or (searchFrom p text left (start + 1))
    else searchFrom p text left (start + 1)

/-- A position moved into the text: before the text counts as its start, beyond it as its end. -/
def clamp (text : Array Char) (position : Int) : Nat := min position.toNat text.size

/-- The number of positions that are tried after the first one, if there are `room` characters from
it on. -/
def Prospect.reach (least room : Nat) : Prospect → Nat
  | .unknown => room - (least - 1)
  | _ => room

/-- The first match at or after a position, whatever its groups are. -/
def find? (p : Pattern) (text : Array Char) (position : Int) : Option Match :=
  let start := clamp text position
  let room := text.size - start
  if room < p.least then none else p.searchFrom text (p.prospect.reach p.least room) start

/-- The first match at or after a position. -/
def search (p : Pattern) (text : Array Char) (position : Int) :
    Except CrossedGroup (Option Match) :=
  match p.find? text position with
  | none => .ok none
  | some m => if m.captures.isCrossed then .error ⟨⟩ else .ok (some m)

end Pattern

end Marginalia
