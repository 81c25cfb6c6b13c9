import Marginalia.Document.Basic
import Marginalia.Extraction

/-!
# Decorations

A decoration marks a part of a document.  The decorations of a scan are grouped by kind, and every
kind of the registry has a group, so that painting a group clears what was there before.
-/

namespace Marginalia

/-- Two positions. -/
structure Span where
  start : Position
  stop : Position
deriving DecidableEq, Repr

/-- Text that is shown when the pointer rests on a decoration. -/
structure Hover where
  value : String
  isTrusted : Bool := true
  supportThemeIcons : Bool := true
  supportHtml : Bool := true
deriving DecidableEq, Repr

/-- A marked part of a document. -/
structure Decoration where
  span : Span
  hover : Option Hover := none
  startOffset : Int
  stopOffset : Int
deriving DecidableEq, Repr

/-- Decorations by kind. -/
abbrev Decorations := List (String × List Decoration)

/-- The position of an offset, moved into a text of the given size. -/
def clampedPosition (starts : List Nat) (size : Nat) (offset : Int) : Position :=
  positionIn starts (min offset.toNat size)

/-- The decoration of a hit in a text of the given size with these line starts; the value of a hit
of a markdown kind is shown on hover. -/
def Hit.decorate (starts : List Nat) (size : Nat) (markdown : Bool) (h : Hit) : Decoration where
  span := ⟨clampedPosition starts size h.start, clampedPosition starts size h.stop⟩
  hover := if markdown then some { value := h.value } else none
  startOffset := h.start
  stopOffset := h.stop

end Marginalia
