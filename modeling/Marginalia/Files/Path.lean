import Marginalia.Text.Quoted

/-!
# Paths

A path is a root and the parts below it.  The root of a relative path is empty.  Empty parts and
parts that are a single dot do not count; two dots are kept as a part.
-/

namespace Marginalia

/-- A path: the text before its parts, and the parts. -/
structure Path where
  root : String := ""
  parts : List String := []
deriving DecidableEq, Repr

namespace Path

/-- The text between slashes. -/
def splitSlashes : List Char → List (List Char)
  | [] => [[]]
  | c :: cs =>
    if c = '/' then [] :: splitSlashes cs
    else match splitSlashes cs with
      | [] => [[c]]
      | part :: parts => (c :: part) :: parts

/-- The root of a path: two slashes are a root of their own, any other number of slashes is one. -/
def rootOf : List Char → String
  | '/' :: '/' :: '/' :: _ => "/"
  | '/' :: '/' :: _ => "//"
  | '/' :: _ => "/"
  | _ => ""

/-- Does the part count? -/
def isPart (p : List Char) : Bool := p != [] && p != ['.']

/-- The path that a text writes. -/
def ofString (s : String) : Path where
  root := rootOf s.toList
  parts := ((splitSlashes s.toList).filter isPart).map String.ofList

/-- The path as text; the path without root and parts is a dot. -/
def text (p : Path) : String :=
  if p.root.isEmpty && p.parts.isEmpty then "." else p.root ++ "/".intercalate p.parts

/-- The path of an entry below this one. -/
def child (p : Path) (part : String) : Path := { p with parts := p.parts ++ [part] }

/-- The path of the directory that holds the entry. -/
def parent (p : Path) : Path := { p with parts := p.parts.dropLast }

/-- The last part. -/
def name (p : Path) : String := p.parts.getLast?.getD ""

/-- The part of a name from its last dot on, unless the dot is first or last. -/
def suffixOf (name : List Char) : List Char :=
  let tail := (name.reverse.takeWhile (· != '.')).reverse
  if tail.length + 1 < name.length && !tail.isEmpty then '.' :: tail else []

/-- The suffix of the last part. -/
def suffix (p : Path) : String := String.ofList (suffixOf p.name.toList)

end Path

end Marginalia
