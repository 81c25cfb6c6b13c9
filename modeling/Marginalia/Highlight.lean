import Marginalia.Console
import Marginalia.Scan
import Marginalia.Style.Basic
import Marginalia.Text.Control

/-!
# Highlighted documents

The text of a document with the styles of all that is painted on it.  Offsets count in the text of
the document; what is shown has some control characters less, and the offsets are not moved for
that.
-/

namespace Marginalia

/-- A part of a text in a style. -/
structure StyledSpan where
  start : Int
  stop : Int
  style : Style
deriving DecidableEq, Repr

/-- A text with styled parts. -/
structure Highlighted where
  plain : List Char
  spans : List StyledSpan
deriving DecidableEq, Repr

/-- An offset in a text of the given size; a negative one counts from the end. -/
def fromEnd (size : Nat) (offset : Int) : Int := if offset < 0 then size + offset else offset

/-- The styled part between two offsets, unless it is empty or starts after the text. -/
def styledSpan? (size : Nat) (style : Style) (d : Decoration) : Option StyledSpan :=
  let start := fromEnd size d.startOffset
  let stop := fromEnd size d.stopOffset
  if (size : Int) ≤ start || stop ≤ start then none else some ⟨start, min size stop, style⟩

/-- The places at which a style begins or ends, in increasing order. -/
def Highlighted.seams (h : Highlighted) : List Nat :=
  (h.spans.flatMap fun s => [s.start.toNat, s.stop.toNat]).mergeSort

/-- Why a document cannot be shown. -/
inductive ShowError
  | unreadable (error : ScanError)
  | style (error : Style.OptionError)
  | markup (error : Markup.Error)
deriving Repr

/-- The wording of a show error. -/
def ShowError.message : ShowError → String
  | .unreadable e => e.message
  | .style e => e.message
  | .markup e => e.message

namespace Sink

/-- The options of the handle with a number. -/
def optionsOf (s : Sink) (ident : Nat) : Style.Options :=
  ((s.handle? ident).map (·.options)).getD []

/-- The styled parts of what was painted. -/
def spansOf (s : Sink) (size : Nat) (p : Painted) : Except Style.OptionError (List StyledSpan) := do
  let style ← Style.ofOptions (s.optionsOf p.ident)
  return p.decorations.filterMap (styledSpan? size style)

/-- The document with all that is painted on it. -/
def highlight (s : Sink) (doc : Document) (document : DocRef) : Except ShowError Highlighted := do
  let text ← doc.readText.mapError .unreadable
  let plain := Text.sanitize text
  let painted := s.painted.filter (·.document == document)
  let spans ← (painted.mapM (s.spansOf plain.length)).mapError .style
  return ⟨plain, spans.flatten⟩

/-- The title of a document on a console of the given width: a rule with its address, if it has one.
-/
def title (size : Nat) (doc : Document) : Except ShowError String :=
  if doc.uri.isEmpty then .ok "" else (Console.rule size doc.uri.toList).mapError .markup

/-- What showing a document prints before it ends or fails. -/
def showDocument (s : Sink) (size : Nat) (doc : Document) (document : DocRef) :
    String × Except ShowError Unit :=
  match title size doc with
  | .error e => ("", .error e)
  | .ok head =>
    match s.highlight doc document with
    | .error e => (head, .error e)
    | .ok h => (head ++ Console.print size ⟨h.plain, h.seams⟩, .ok ())

end Sink

end Marginalia
