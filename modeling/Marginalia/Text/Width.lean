import Marginalia.Text.Columns

/-!
# The width of a text

The width of a text is the sum of the columns of its characters, but for two characters that act on
their neighbours: a joiner hides the character after it, and a variation selector widens the last
character with a width of its own if that can be widened.

A text is cut only between clusters.  A cluster is a character with all that is drawn on top of it
or joined to it.  A cut that would fall in the middle of a wide cluster leaves a space in its place.
-/

namespace Marginalia.Text

/-- The character that joins the next one to those before it. -/
def joiner : Char := '\u200d'

/-- The character that asks for the wide form of the one before it. -/
def wideSelector : Char := '\ufe0f'

/-- Does the character act on its neighbours?  The width of a text without any such character is the
sum of the widths of its parts, wherever it is divided. -/
def isBinding (c : Char) : Bool := c == joiner || c == wideSelector

/-- The width of a text after `total` columns; `measured` is the last character with a width. -/
def widthFrom : Nat → Option Char → List Char → Nat
  | total, _, [] => total
  | total, measured, c :: cs =>
    if c = joiner then
      match cs with
      | [] => total
      | _ :: cs => widthFrom total measured cs
    else if c = wideSelector then
      widthFrom (if measured.any isWidened then total + 1 else total) none cs
    else
      let n := columns c
      widthFrom (total + n) (if n = 0 then measured else some c) cs

/-- The columns that a text takes. -/
def width (cs : List Char) : Nat := widthFrom 0 none cs

/-! ## Clusters -/

/-- Characters that are drawn together, and their columns. -/
structure Cluster where
  chars : List Char
  columns : Nat
deriving DecidableEq, Repr

/-- The cluster with more characters and columns. -/
def Cluster.extend (k : Cluster) (cs : List Char) (columns : Nat) : Cluster :=
  ⟨k.chars ++ cs, k.columns + columns⟩

/-- The cluster that a text begins with, as far as its first character shows. -/
def Cluster.first (c : Char) : Cluster :=
  ⟨[c], if c = joiner ∨ c = wideSelector then 0 else Text.columns c⟩

/-- The clusters of a text after `last`, which may grow, and those before it, the latest first. -/
def clustersFrom (done : List Cluster) (last : Cluster) (measured : Option Char) :
    List Char → List Cluster
  | [] => (last :: done).reverse
  | c :: cs =>
    if c = joiner then
      match cs with
      | [] => clustersFrom done (last.extend [c] 0) measured []
      | d :: cs => clustersFrom done (last.extend [c, d] 0) measured cs
    else if c = wideSelector then
      if measured.any isWidened then clustersFrom done (last.extend [c] 1) none cs
      else clustersFrom done (last.extend [c] 0) measured cs
    else if columns c = 0 then clustersFrom done (last.extend [c] 0) measured cs
    else clustersFrom (last :: done) ⟨[c], columns c⟩ (some c) cs

/-- The clusters of a text. -/
def clusters : List Char → List Cluster
  | [] => []
  | c :: cs =>
    let first := Cluster.first c
    clustersFrom [] first (if first.columns = 0 then none else some c) cs

/-! ## Cutting and filling -/

/-- The clusters that fit into the given columns. -/
def cutClusters : Nat → List Cluster → List Char
  | _, [] => []
  | 0, _ => []
  | size, k :: ks =>
    if k.columns ≤ size then k.chars ++ cutClusters (size - k.columns) ks else [' ']

/-- The text with spaces up to the given width. -/
def padRight (size : Nat) (cs : List Char) : List Char :=
  cs ++ List.replicate (size - width cs) ' '

/-- The text cut or filled to the given width. -/
def fit (size : Nat) (cs : List Char) : List Char :=
  if size = 0 then []
  else if size < width cs then cutClusters size (clusters cs)
  else padRight size cs

/-- A text that is too wide is cut. -/
def crop (size : Nat) (cs : List Char) : List Char := if size < width cs then fit size cs else cs

/-- A text that is too wide is cut and ends with an ellipsis. -/
def shorten (size : Nat) (cs : List Char) : List Char :=
  if size < width cs then fit (size - 1) cs ++ ['…'] else cs

/-- Clusters in lines that fit; `line` is begun and takes `used` columns. -/
def chopClusters (size : Nat) (line : List Char) (used : Nat) : List Cluster → List (List Char)
  | [] => if used = 0 then [] else [line]
  | k :: ks =>
    if size < used + k.columns then line :: chopClusters size k.chars k.columns ks
    else chopClusters size (line ++ k.chars) (used + k.columns) ks

/-- The text in lines that fit. -/
def chop (size : Nat) (cs : List Char) : List (List Char) := chopClusters size [] 0 (clusters cs)

end Marginalia.Text
