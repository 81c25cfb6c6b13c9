import Marginalia.Markup.Argument.Grammar
import Marginalia.Markup.Pictograph
import Marginalia.Style.Definition
import Marginalia.Text.Blank
import Marginalia.Text.Control
import Marginalia.Text.Integer
import Marginalia.Text.LowerCase
import Marginalia.Text.Quoted
import Marginalia.Text.Word

/-!
# Markup

Markup puts tags between brackets into a text: `[bold]` opens, `[/bold]` closes the last tag of that
name and `[/]` the last tag of all.  A tag starts with a small letter or one of `#`, `/` and `@`, so
other brackets are plain text.  A backslash before a tag makes it plain text too, and before that
each two backslashes stand for one.  A name between two colons stands for a pictograph.

The name of a tag is a style in words, and names are compared in their normal form.  A tag whose
name starts with `@` is a handler; its parameters are a name and arguments, which are checked when
the tag is closed.

* `escape` puts the backslashes that a text needs to be shown as it is;
* `render` gives the plain text of markup and the styles in it;
* `shown` does so if all styles can be shown.
-/

namespace Marginalia.Markup

/-- Can a tag start with the character? -/
def startsTag (c : Char) : Bool := ('a' ≤ c && c ≤ 'z') || c == '#' || c == '/' || c == '@'

/-- A tag after its opening bracket: its text, and what follows its closing bracket. -/
def tag? : List Char → Option (List Char × List Char)
  | [] => none
  | c :: cs =>
    if startsTag c then
      let body := cs.takeWhile fun d => d != '[' && d != ']'
      match cs.drop body.length with
      | ']' :: rest => some (c :: body, rest)
      | _ => none
    else none

/-- A tag with the backslashes before it: their number, its text, and what follows. -/
def escapedTag? (cs : List Char) : Option (Nat × List Char × List Char) :=
  let slashes := cs.takeWhile (· == '\\')
  match cs.drop slashes.length with
  | '[' :: rest => (tag? rest).map fun (body, after) => (slashes.length, body, after)
  | _ => none

/-- A number of backslashes. -/
def backslashes (n : Nat) : List Char := List.replicate n '\\'

/-- A tag with its brackets. -/
def bracketed (body : List Char) : List Char := '[' :: body ++ [']']

/-! ## Escaping -/

/-- Escapes the tags of a text; each step takes at least one character. -/
def escapeTags : Nat → List Char → List Char
  | _, [] => []
  | 0, cs => cs
  | left + 1, c :: cs =>
    match escapedTag? (c :: cs) with
    | some (n, body, after) => backslashes (2 * n + 1) ++ bracketed body ++ escapeTags left after
    | none => c :: escapeTags left cs

/-- A single backslash at the end is doubled. -/
def doubleLast (cs : List Char) : List Char :=
  match cs.reverse with
  | '\\' :: '\\' :: _ => cs
  | '\\' :: _ => cs ++ ['\\']
  | _ => cs

/-- The text with backslashes before its tags. -/
def escape (cs : List Char) : List Char := doubleLast (escapeTags cs.length cs)

/-! ## Pictographs -/

/-- The variants that a name may ask for. -/
def variants : List (List Char × String) := [("-emoji".toList, "️"), ("-text".toList, "︎")]

/-- The name and the variant in the text between two colons. -/
def splitVariant (body : List Char) : List Char × String :=
  match variants.find? fun v => v.1.isSuffixOf body with
  | some (ending, variant) => (body.take (body.length - ending.length), variant)
  | none => (body, "")

/-- The text between two colons, which has no white space, and what follows; the first colon is
gone. -/
def named? (cs : List Char) : Option (List Char × List Char) :=
  let body := cs.takeWhile fun c => c != ':' && !Text.isBlank c.toNat
  match cs.drop body.length with
  | ':' :: rest => some (body, rest)
  | _ => none

/-- The pictograph for the text between two colons, or the text with its colons. -/
def pictographFor (body : List Char) : List Char :=
  let (name, variant) := splitVariant body
  match pictograph? (Text.lowerText name) with
  | some p => p.toList ++ variant.toList
  | none => ':' :: body ++ [':']

/-- Puts pictographs for their names; each step takes at least one character. -/
def replaceNames : Nat → List Char → List Char
  | _, [] => []
  | 0, cs => cs
  | left + 1, c :: cs =>
    if c = ':' then
      match named? cs with
      | some (body, rest) => pictographFor body ++ replaceNames left rest
      | none => c :: replaceNames left cs
    else c :: replaceNames left cs

/-- The text with pictographs for their names. -/
def withPictographs (cs : List Char) : List Char := replaceNames cs.length cs

/-! ## Pieces -/

/-- A piece of markup. -/
inductive Piece
  | text (cs : List Char)
  | tag (position : Nat) (name : List Char) (parameters : Option (List Char))
deriving DecidableEq, Repr

/-- The piece of a tag: its name up to an equals sign, and its parameters. -/
def Piece.ofTag (position : Nat) (body : List Char) : Piece :=
  let name := body.takeWhile (· != '=')
  match body.drop name.length with
  | '=' :: parameters => .tag position name (some parameters)
  | _ => .tag position name none

/-- A piece of text, if there is any. -/
def textPiece (cs : List Char) : List Piece := if cs.isEmpty then [] else [.text cs]

/-- The pieces from a position on, after the text in `done`, its last character first; each step
takes at least one character. -/
def piecesFrom : Nat → Nat → List Char → List Char → List Piece
  | _, _, done, [] => textPiece done.reverse
  | 0, _, done, cs => textPiece (done.reverse ++ cs)
  | left + 1, position, done, c :: cs =>
    match escapedTag? (c :: cs) with
    | none => piecesFrom left (position + 1) (c :: done) cs
    | some (n, body, after) =>
      textPiece done.reverse ++ textPiece (backslashes (n / 2)) ++
        (if n % 2 = 1 then [Piece.text (bracketed body)] else [Piece.ofTag (position + n) body]) ++
        piecesFrom left (position + n + body.length + 2) [] after

/-- The pieces of markup. -/
def pieces (cs : List Char) : List Piece := piecesFrom cs.length 0 [] cs

/-- What is wrong with markup. -/
inductive Error
  | unmatched (tag : String) (position : Nat)
  | nothingToClose (position : Nat)
  /-- The arguments of a handler, which are part of the parameters of its tag. -/
  | badArguments (arguments parameters : String) (fault : Argument.Fault)
  | colour (error : Style.ColourError)
deriving DecidableEq, Repr

/-- The wording of a markup error. -/
def Error.message : Error → String
  | .unmatched tag position =>
    "closing tag '" ++ tag ++ "' at position " ++ toString position ++ " doesn't match any open tag"
  | .nothingToClose position =>
    "closing tag '[/]' at position " ++ toString position ++ " has nothing to close"
  | .badArguments arguments parameters fault =>
    "error parsing " ++ Text.quoted arguments ++ " in " ++ Text.quoted parameters ++ "; " ++
      fault.message
  | .colour e => e.message

/-- A tag as diagnostics show it. -/
def tagText (name : List Char) (parameters : Option (List Char)) : String :=
  String.ofList (bracketed (name ++ (parameters.map ('=' :: ·)).getD []))

/-- The name of a tag as it is compared: its normal form as a style. -/
def tagName (cs : List Char) : Except Error (List Char) := (Style.normalise cs).mapError .colour

/-- A tag that is open: where its text starts, its name and its parameters. -/
structure OpenTag where
  start : Nat
  name : List Char
  parameters : Option (List Char)
deriving DecidableEq, Repr

/-- The style that a tag stands for, in words. -/
def OpenTag.style (t : OpenTag) : List Char :=
  match t.parameters with
  | none => t.name
  | some p => t.name ++ ' ' :: p

/-- Takes the last open tag of a name away, and says which it was. -/
def closeTag (name : List Char) : List OpenTag → Option (OpenTag × List OpenTag)
  | [] => none
  | t :: ts =>
    if t.name = name then some (t, ts)
    else (closeTag name ts).map fun (found, rest) => (found, t :: rest)

/-! ## Handlers -/

/-- Can the character be part of the name of a handler? -/
def inHandlerName (c : Char) : Bool := Text.isWord c.toNat || c == '.'

/-- The arguments in the parameters of a handler: a name may stand before them, and there are none
if nothing else stands there. -/
def argumentsOf (parameters : List Char) : List Char :=
  let cs := Text.strip parameters
  match cs.dropWhile inHandlerName with
  | [] => "()".toList
  | c :: rest =>
    if c = '(' ∧ rest.getLast? = some ')' ∧ ¬ rest.contains '\n' then c :: rest else cs

/-- Checks the arguments of a handler when its tag is closed. -/
def OpenTag.checkArguments (t : OpenTag) : Except Error Unit :=
  match t.name, t.parameters with
  | '@' :: _, some (p :: ps) =>
    let arguments := argumentsOf (p :: ps)
    (Argument.check arguments).mapError
      (.badArguments (String.ofList arguments) (String.ofList (p :: ps)) ·)
  | _, _ => .ok ()

/-! ## Rendering -/

/-- A part of a text between tags, and its style in words.  A handler has none. -/
structure Span where
  start : Nat
  stop : Nat
  style : Option (List Char)
deriving DecidableEq, Repr

/-- The span of a tag that is closed at a place. -/
def OpenTag.span (t : OpenTag) (stop : Nat) : Span :=
  match t.name with
  | '@' :: _ => ⟨t.start, stop, none⟩
  | _ => ⟨t.start, stop, some t.style⟩

/-- Rendered markup: its plain text, and its spans in the order in which they were closed. -/
structure Rendered where
  plain : List Char := []
  spans : List Span := []
deriving DecidableEq, Repr

/-- A backslash before a bracket that is no tag disappears. -/
def unescapeBrackets : List Char → List Char
  | '\\' :: '[' :: cs => '[' :: unescapeBrackets cs
  | c :: cs => c :: unescapeBrackets cs
  | [] => []

/-- Closes a tag. -/
def Rendered.close (r : Rendered) (t : OpenTag) : Except Error Rendered := do
  t.checkArguments
  return { r with spans := r.spans ++ [t.span r.plain.length] }

/-- A text as it is shown: with pictographs, and without control characters. -/
def shownText (cs : List Char) : List Char := Text.sanitize (withPictographs cs)

/-- Adds pieces to what is rendered, with the open tags, the last one first. -/
def renderPieces (r : Rendered) (stack : List OpenTag) : List Piece → Except Error Rendered
  | [] =>
    .ok { r with spans := r.spans ++ stack.map fun t => ⟨t.start, r.plain.length, some t.style⟩ }
  | .text cs :: rest =>
    renderPieces { r with plain := r.plain ++ shownText (unescapeBrackets cs) } stack rest
  | .tag position name parameters :: rest =>
    match name with
    | '/' :: close =>
      if (Text.strip close).isEmpty then
        match stack with
        | [] => .error (.nothingToClose position)
        | t :: stack => do renderPieces (← r.close t) stack rest
      else do
        match closeTag (← tagName (Text.strip close)) stack with
        | some (t, stack) => renderPieces (← r.close t) stack rest
        | none => throw (.unmatched (tagText name parameters) position)
    | name => do renderPieces r (⟨r.plain.length, ← tagName name, parameters⟩ :: stack) rest

/-- Renders markup. -/
def render (cs : List Char) : Except Error Rendered :=
  if cs.contains '[' then renderPieces {} [] (pieces cs) else .ok { plain := shownText cs }

/-- Is the span shown?  One without any text is lost when the text is divided. -/
def Rendered.shows (r : Rendered) (s : Span) : Bool :=
  s.start < s.stop || !r.plain.any fun c => c == '\n' || c == '\t'

/-- The spans in the order of their starts, those closed last first. -/
def Rendered.ordered (r : Rendered) : List Span :=
  r.spans.reverse.mergeSort fun a b => a.start ≤ b.start

/-- Checks that the colours of all styles can be read. -/
def Rendered.checkStyles (r : Rendered) : Except Error Unit :=
  ((r.ordered.filter r.shows).filterMap (·.style)).forM fun style => do
    let _ ← (Style.Definition.ofText style).mapError .colour

/-- The places at which spans begin or end. -/
def Rendered.ends (r : Rendered) : List Nat :=
  (r.spans.filter r.shows).flatMap fun s => [s.start, s.stop]

/-- Renders markup, and then checks its styles. -/
def shown (cs : List Char) : Except Error Rendered := do
  let r ← render cs
  r.checkStyles
  return r

/-- Renders the cells of a table, and then checks the styles of all of them. -/
def shownCells (cells : List (List Char)) : Except Error (List Rendered) := do
  let rendered ← cells.mapM render
  rendered.forM Rendered.checkStyles
  return rendered

end Marginalia.Markup
