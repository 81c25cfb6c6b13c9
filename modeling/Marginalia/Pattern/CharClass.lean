import Marginalia.Text.Blank
import Marginalia.Text.Case
import Marginalia.Text.Digit
import Marginalia.Text.Word

/-!
# What one character of the text is compared with

A pattern consumes the text one character at a time.  Each such step is a `Single`: a literal, the
complement of a literal, any character, or a bracketed class.  Whether a character is accepted
depends on the flags in force.

## Ignoring case

Two characters are compared by their lower-case forms, together with the lower-case characters that
share an upper-case form (`s` and `ſ`).  A literal without another case form is compared exactly.  A
class in which something has another case form is compared with the lowered character as a whole, so
its members are lowered too; beyond the basic plane a literal member stays as it is written and a
range accepts a character or its upper-case form.
-/

namespace Marginalia.Pattern

/-- The classes of characters that have a letter of their own. -/
inductive ClassName
  | digit
  | space
  | word
deriving DecidableEq, Repr

/-- Flags that decide how a pattern compares characters and finds line ends. -/
structure Flags where
  ignoreCase : Bool := false
  multiline : Bool := false
  dotAll : Bool := false
  ascii : Bool := false
deriving DecidableEq, Repr

/-- The flags after switching letters on and off. -/
def Flags.scoped (f : Flags) (on off : List Char) : Flags where
  ignoreCase := (f.ignoreCase || on.contains 'i') && !off.contains 'i'
  multiline := (f.multiline || on.contains 'm') && !off.contains 'm'
  dotAll := (f.dotAll || on.contains 's') && !off.contains 's'
  ascii := if on.contains 'a' then true else if on.contains 'u' then false else f.ascii

/-- Is the code point in the named class, of ASCII alone or of all scripts? -/
def ClassName.contains (ascii : Bool) : ClassName → Nat → Bool
  | .digit, c => if ascii then Text.isAsciiDigit c else Text.isDigit c
  | .space, c => if ascii then Text.isAsciiBlank c else Text.isBlank c
  | .word, c => if ascii then Text.isAsciiWord c else Text.isWord c

/-- A member of a bracketed class.  Code points are plain numbers: an escape may write one that no
text can hold. -/
inductive ClassItem
  | char (c : Nat)
  | range (first last : Nat)
  | named (name : ClassName) (negated : Bool)
deriving DecidableEq, Repr

/-- One step that consumes one character. -/
inductive Single
  | literal (c : Nat)
  | notLiteral (c : Nat)
  | any
  | oneOf (negated : Bool) (items : List ClassItem)
deriving DecidableEq, Repr

/-! ## Case under the flags -/

/-- The lower-case form under the flags. -/
def Flags.lower (f : Flags) (c : Nat) : Nat := if f.ascii then Text.asciiLower c else Text.lower c

/-- Does the code point have another case form under the flags? -/
def Flags.isCased (f : Flags) (c : Nat) : Bool :=
  if f.ascii then Text.isAsciiLetter c else Text.isCased c

/-- Is there a code point with another case form between the bounds? -/
def Flags.anyCased (f : Flags) (lo hi : Nat) : Bool :=
  if f.ascii then (lo ≤ 0x5a && 0x41 ≤ hi) || (lo ≤ 0x7a && 0x61 ≤ hi) else Text.anyCased lo hi

/-- A lower-case code point and those that count as the same one. -/
def Flags.variants (f : Flags) (c : Nat) : List Nat :=
  if f.ascii then [c] else c :: Text.caseSiblings c

/-- The code points with the lower-case form `c`. -/
def Flags.lowerSources (f : Flags) (c : Nat) : List Nat :=
  if f.ascii then
    if 0x61 ≤ c && c ≤ 0x7a then [c, c - 0x20] else if 0x41 ≤ c && c ≤ 0x5a then [] else [c]
  else Text.lowerSources c

/-- The last code point of the basic plane. -/
def basicPlaneEnd : Nat := 0xffff

/-! ## Membership -/

/-- Exact membership of a code point. -/
def ClassItem.contains (f : Flags) : ClassItem → Nat → Bool
  | .char a, c => c == a
  | .range a b, c => a ≤ c && c ≤ b
  | .named n negated, c => n.contains f.ascii c != negated

/-- Does a member of a class have another case form, or lie beyond the basic plane? -/
def ClassItem.isCased (f : Flags) : ClassItem → Bool
  | .char a => basicPlaneEnd < a || f.isCased a
  | .range a b => basicPlaneEnd < b || f.anyCased a b
  | .named _ _ => false

/-- Membership of the lower-case code point `c` when case is ignored. -/
def ClassItem.containsFolded (f : Flags) : ClassItem → Nat → Bool
  | .char a, c => if basicPlaneEnd < a then c == a else (f.variants (f.lower a)).contains c
  | .range a b, c =>
    (f.variants c).any (fun v => (f.lowerSources v).any fun s =>
        a ≤ s && s ≤ b && s ≤ basicPlaneEnd)
      || (basicPlaneEnd < b && ((a ≤ c && c ≤ b) || (a ≤ Text.upper c && Text.upper c ≤ b)))
  | .named n negated, c => n.contains f.ascii c != negated

/-- Is the code point `c` the literal `l`, up to case if case is ignored? -/
def Flags.sameLiteral (f : Flags) (l c : Nat) : Bool :=
  if f.ignoreCase && f.isCased l then (f.variants (f.lower l)).contains (f.lower c) else c == l

/-- Does the class have to be compared with the lower-case form of a character? -/
def Flags.foldsClass (f : Flags) (items : List ClassItem) : Bool :=
  f.ignoreCase && items.any (·.isCased f)

/-- Does some member of the class accept the code point? -/
def Flags.memberOf (f : Flags) (items : List ClassItem) (c : Nat) : Bool :=
  if f.foldsClass items then items.any (·.containsFolded f (f.lower c))
  else items.any (·.contains f c)

/-- Does the step accept the code point? -/
def Single.accepts (f : Flags) : Single → Nat → Bool
  | .literal l, c => f.sameLiteral l c
  | .notLiteral l, c => !f.sameLiteral l c
  | .any, c => f.dotAll || c != 0x0a
  | .oneOf negated items, c => f.memberOf items c != negated

/-! ## Steps that compare exactly -/

/-- Is the step a literal or a class that is compared without regard to case? -/
def Single.isExact (f : Flags) : Single → Bool
  | .literal l => !(f.ignoreCase && f.isCased l)
  | .oneOf _ items => !f.foldsClass items
  | .notLiteral _ => false
  | .any => false

/-- Is the step a class of lower-case characters, be it written as one or as a literal with several
lower-case forms? -/
def Single.isFoldedClass (f : Flags) : Single → Bool
  | .literal l => f.ignoreCase && f.isCased l && 1 < (f.variants (f.lower l)).length
  | .notLiteral l => f.ignoreCase && f.isCased l && 1 < (f.variants (f.lower l)).length
  | .oneOf _ items => f.foldsClass items
  | .any => false

end Marginalia.Pattern
