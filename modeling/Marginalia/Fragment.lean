import Marginalia.Text.Word
import Marginalia.Value.Basic

/-!
# Fragments of patterns, and the spelling of named groups

A configuration gives patterns in fragments.  A table that nobody has checked may hold another value
in their place; such a fragment is kept as it is until it is compiled.

## Spelling

Patterns name a group as `(?P<name>…)` and refer to it as `(?P=name)`.  Fragments of a configuration
are often spelled `(?<name>…)` and `\k<name>`, and `normalise` turns that spelling into the first
one. Nothing else changes: an escaped character and the inside of a bracketed class are copied, and
a look-behind `(?<=…)` or `(?<!…)` is no named group.

The text is read from left to right by a machine with few states, so one equation of `spell`
describes one step, and the facts about `normalise` follow by induction on the text.
-/

namespace Marginalia

/-- A fragment as it is configured. -/
inductive Fragment
  | text (pattern : String)
  | other (value : Value)
deriving Repr

namespace Fragment

instance : Inhabited Fragment := ⟨.text ""⟩

/-- The fragment as configuration data. -/
def toValue : Fragment → Value
  | .text s => .str s
  | .other v => v

/-- Where the reader is. -/
inductive Place
  /-- Outside of classes. -/
  | outside
  /-- Just after the bracket that opens a class: a caret may follow, and a closing bracket is
  literal. -/
  | classOpened
  /-- Just after the caret of a class: a closing bracket is literal. -/
  | classNegated
  /-- Inside a class. -/
  | inClass
  /-- After a backslash, inside or outside of a class. -/
  | escaped (inClass : Bool)
  /-- In the middle of a spelling that was replaced, with that many characters left to drop. -/
  | replaced (left : Nat)
deriving DecidableEq, Repr

/-- The name in a reference, given what follows its backslash: `k<name>` with word characters. -/
def referenceName? : List Char → Option (List Char)
  | 'k' :: '<' :: cs =>
    let name := cs.takeWhile fun c => Text.isWord c.toNat
    if !name.isEmpty && (cs.drop name.length).head? == some '>' then some name else none
  | _ => none

/-- Does the text, after an opening parenthesis, open a named group in the other spelling? -/
def opensNamed : List Char → Bool
  | '?' :: '<' :: '=' :: _ => false
  | '?' :: '<' :: '!' :: _ => false
  | '?' :: '<' :: _ => true
  | _ => false

/-- Copies the text from the given place on, changing the spelling of named groups. -/
def spell : Place → List Char → List Char
  | _, [] => []
  | .replaced (n + 1), _ :: cs => spell (if n = 0 then .outside else .replaced n) cs
  | .escaped inClass, c :: cs => c :: spell (if inClass then .inClass else .outside) cs
  | .classOpened, c :: cs =>
    if c = '^' then c :: spell .classNegated cs
    else if c = '\\' then c :: spell (.escaped true) cs
    else c :: spell .inClass cs
  | .classNegated, c :: cs =>
    if c = '\\' then c :: spell (.escaped true) cs else c :: spell .inClass cs
  | .inClass, c :: cs =>
    if c = '\\' then c :: spell (.escaped true) cs
    else if c = ']' then c :: spell .outside cs
    else c :: spell .inClass cs
  | _, c :: cs =>
    if c = '\\' then
      match referenceName? cs with
      | some name => "(?P=".toList ++ name ++ ')' :: spell (.replaced (name.length + 3)) cs
      | none => c :: spell (.escaped false) cs
    else if c = '[' then c :: spell .classOpened cs
    else if c = '(' && opensNamed cs then "(?P<".toList ++ spell (.replaced 2) cs
    else c :: spell .outside cs

/-- A fragment with its named groups spelled as patterns spell them. -/
def normalise (fragment : String) : String := String.ofList (spell .outside fragment.toList)

end Fragment

end Marginalia
