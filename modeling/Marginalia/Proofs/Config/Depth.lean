import Marginalia.Config.Load

/-!
# How deep a configuration is nested

The readers of documents and of patterns call themselves for each bracket and each group that they
open, and nothing here bounds how often.  The stack of a machine does.  With some hundreds of arrays
within each other, of groups in a fragment or of tables in a value that a message shows it is used up,
and the computation ends in an error of the machine, which is no refusal and none of the errors of
this library.

What a configuration comes to is therefore said of those that do not come near that: none of the
three is nested deeper than `nestingLimit` (`Value.isShallow`, `Toml.nesting`, `Config.isShallow`).
All of this can be computed.
-/

namespace Marginalia

/-- A depth that leaves room on the stack: a level takes no more than three calls, and a thousand calls
within each other are allowed. -/
def nestingLimit : Nat := 200

/-! ## Values -/

namespace Value

mutual

/-- Are lists and tables in the value nested at most `depth` deep, and has no text in it more opening
parentheses than the limit?  Groups are not nested deeper than there are parentheses. -/
def isShallow (depth : Nat) : Value → Bool
  | .str s => s.toList.count '(' ≤ nestingLimit
  | .list items => 0 < depth && areShallow (depth - 1) items
  | .table entries => 0 < depth && entriesAreShallow (depth - 1) entries
  | _ => true

/-- Are all of these values nested at most `depth` deep? -/
def areShallow (depth : Nat) : List Value → Bool
  | [] => true
  | v :: vs => v.isShallow depth && areShallow depth vs

/-- Are the values of all of these entries nested at most `depth` deep? -/
def entriesAreShallow (depth : Nat) : List (String × Value) → Bool
  | [] => true
  | (_, v) :: es => v.isShallow depth && entriesAreShallow depth es

end

/-- Are the tables nested no deeper than the limit? -/
def tablesAreShallow (ts : List (List (String × Value))) : Bool :=
  areShallow nestingLimit (ts.map .table)

end Value

/-! ## Documents -/

namespace Toml

/-- What a part of a document is: outside of strings and comments, a comment, or a string of one line
or of several lines with its quote. -/
inductive Zone
  | plain
  | comment
  | string (quote : Char)
  | lines (quote : Char)
deriving DecidableEq, Repr

/-- How many quotes close a string of several lines: up to two more belong to the string. -/
def closingQuotes (quote : Char) (cs : List Char) : Nat :=
  min 5 (cs.takeWhile (· == quote)).length

/-- The deepest nesting of brackets and braces in the rest of a document.  `depth` of them are open,
and the next `skip` characters have been dealt with.  Those in strings and comments do not count. -/
def nestingFrom (zone : Zone) (skip depth : Nat) : List Char → Nat
  | [] => depth
  | c :: cs =>
    if skip ≠ 0 then nestingFrom zone (skip - 1) depth cs
    else match zone with
      | .plain =>
        if c = '#' then nestingFrom .comment 0 depth cs
        else if c = '"' ∨ c = '\'' then
          if startsWith [c, c, c] (c :: cs) then nestingFrom (.lines c) 2 depth cs
          else nestingFrom (.string c) 0 depth cs
        else if c = '[' ∨ c = '\x7b' then nestingFrom .plain 0 (depth + 1) cs
        else if c = ']' ∨ c = '\x7d' then max depth (nestingFrom .plain 0 (depth - 1) cs)
        else nestingFrom .plain 0 depth cs
      | .comment => nestingFrom (if c = '\n' then .plain else .comment) 0 depth cs
      | .string q =>
        if q = '"' ∧ c = '\\' then nestingFrom zone 1 depth cs
        else nestingFrom (if c = q ∨ c = '\n' then .plain else zone) 0 depth cs
      | .lines q =>
        if q = '"' ∧ c = '\\' then nestingFrom zone 1 depth cs
        else if startsWith [q, q, q] (c :: cs) then
          nestingFrom .plain (closingQuotes q (c :: cs) - 1) depth cs
        else nestingFrom zone 0 depth cs

/-- The deepest nesting of brackets and braces in a document. -/
def nesting (document : List Char) : Nat := nestingFrom .plain 0 0 document

example : nesting "a = [[1], '[[', [\x7bb = \"[\\\"[\"\x7d]] # [[[[".toList = 3 := by decide +kernel

example : nesting "[[t]]\nk = [\"\"\"[ \" [\"\"\"\", [[2]]]".toList = 3 := by decide +kernel

end Toml

/-- Is the document that the bytes hold, if they hold any, nested no deeper than the limit, and are the
values in it? -/
def Config.isShallow (bytes : List UInt8) : Bool :=
  match Text.decode bytes with
  | .error _ => true
  | .ok text =>
    let document := Toml.joinLineEnds text
    decide (Toml.nesting document ≤ nestingLimit) &&
      match Toml.read document with
      | .error _ => true
      | .ok data => (Value.table data).isShallow nestingLimit

end Marginalia
