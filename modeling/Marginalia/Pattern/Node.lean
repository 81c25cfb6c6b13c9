import Marginalia.Pattern.CharClass

/-!
# Patterns as trees

`Node` is the meaning of a pattern's text, with groups numbered from one and the widths of
look-behinds filled in.  Sequences and alternatives are binary, so that every definition by
recursion over a pattern has one equation per construct.
-/

namespace Marginalia.Pattern

/-- The least and the greatest number of characters that a part of a pattern consumes. -/
structure Width where
  least : Nat
  greatest : Nat
deriving DecidableEq, Repr

/-- The number that stands for "without a bound", in counts of rounds as in widths. -/
def boundless : Nat := 4294967295

/-- Cuts a width to what can be told apart: no least width is without a bound. -/
def Width.cut (w : Width) : Width := ⟨min w.least (boundless - 1), min w.greatest boundless⟩

/-- A place of the text that is recognised without consuming anything. -/
inductive Anchor
  | lineStart
  | lineEnd
  | textStart
  | textEnd
  | boundary
  | notBoundary
deriving DecidableEq, Repr

/-- How a repeat chooses its number of rounds: as many as possible, as few as possible, or as many
as possible without ever giving one back. -/
inductive Greed
  | greedy
  | lazy
  | possessive
deriving DecidableEq, Repr

/-- A pattern.  The flags of `scoped` are letters switched on and off for the body; a missing upper
bound of a repeat means that there is none. -/
inductive Node
  | empty
  | single (s : Single)
  | anchor (a : Anchor)
  | group (index : Nat) (body : Node)
  | scoped (on off : List Char) (body : Node)
  | atomic (body : Node)
  | rounds (greed : Greed) (least : Nat) (most : Option Nat) (body : Node)
  | ahead (negated : Bool) (body : Node)
  | behind (negated : Bool) (width : Width) (body : Node)
  | backref (index : Nat)
  | conditional (index : Nat) (yes no : Node)
  | either (first second : Node)
  | both (first second : Node)
deriving DecidableEq, Repr

namespace Node

/-- The nodes one after the other. -/
def sequence : List Node → Node
  | [] => .empty
  | [n] => n
  | n :: ns => .both n (sequence ns)

/-- Is the node a choice between alternatives? -/
def isChoice : Node → Bool
  | .either _ _ => true
  | _ => false

/-- The node as one alternative of a choice: a choice of its own is set apart, so that its
alternatives do not count among those around it. -/
def setApart (n : Node) : Node := if n.isChoice then .scoped [] [] n else n

/-- The first of the sequences that matches. -/
def firstOf : List (List Node) → Node
  | [] => .empty
  | [ns] => (sequence ns).setApart
  | ns :: rest => .either (sequence ns) (firstOf rest)

/-- Are the two nodes the same step that consumes one fixed text at most: a character, an anchor or
a reference?  Such a step can be taken out of alternatives that all begin with it. -/
def sameStep : Node → Node → Bool
  | .single a, .single b => a == b
  | .anchor a, .anchor b => a == b
  | .backref a, .backref b => a == b
  | _, _ => false

/-- Takes out the steps with which all alternatives begin: `first` is one alternative, `others` are
the rest of them. -/
def commonSteps : List Node → List (List Node) → List Node × List (List Node)
  | [], others => ([], [] :: others)
  | n :: ns, others =>
    if others.all fun o => o.head?.any (sameStep n ·) then
      let (steps, rests) := commonSteps ns (others.map List.tail)
      (n :: steps, rests)
    else ([], (n :: ns) :: others)

/-- The class members of an alternative that is one literal or one class that is not negated. -/
def classItems? : List Node → Option (List ClassItem)
  | [.single (.literal c)] => some [.char c]
  | [.single (.oneOf false items)] => some items
  | _ => none

/-- The alternatives as nodes: a single one is itself; otherwise common first steps are taken out,
and if single characters remain they become one class. -/
def choice : List (List Node) → List Node
  | [] => []
  | [ns] => ns
  | ns :: others =>
    let (steps, rests) := commonSteps ns others
    match rests.mapM classItems? with
    | some items => steps ++ [.single (.oneOf false items.flatten.eraseDups)]
    | none => steps ++ [firstOf rests]

/-- The width of a pattern, given the widths of the groups it may refer to. -/
def width (groups : Nat → Width) : Node → Width
  | .empty => ⟨0, 0⟩
  | .single _ => ⟨1, 1⟩
  | .anchor _ => ⟨0, 0⟩
  | .group _ body => body.width groups
  | .scoped _ _ body => body.width groups
  | .atomic body => body.width groups
  | .rounds _ least most body =>
    let w := body.width groups
    let greatest := match most with
      | some m => w.greatest * m
      | none => w.greatest * boundless
    Width.cut ⟨w.least * least, greatest⟩
  | .ahead _ _ => ⟨0, 0⟩
  | .behind _ _ _ => ⟨0, 0⟩
  | .backref g => groups g
  | .conditional _ yes no =>
    let a := yes.width groups
    let b := no.width groups
    ⟨min a.least b.least, max a.greatest b.greatest⟩
  | .either first second =>
    let a := first.width groups
    let b := second.width groups
    ⟨min a.least b.least, max a.greatest b.greatest⟩
  | .both first second =>
    let a := first.width groups
    let b := second.width groups
    Width.cut ⟨a.least + b.least, a.greatest + b.greatest⟩

end Node

end Marginalia.Pattern
