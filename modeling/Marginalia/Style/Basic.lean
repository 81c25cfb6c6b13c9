import Marginalia.Style.Colour
import Marginalia.Style.Options

/-!
# Styles

The style of an annotation kind has options as editors know them.  Five of them count here: two
colours, the weight, the slant and the lines of the text.  An option that cannot be used is dropped,
and a style with nothing left shows its text reversed.
-/

namespace Marginalia

/-- How a piece of text is shown. -/
structure Style where
  bold : Bool := false
  italic : Bool := false
  underline : Bool := false
  reverse : Bool := false
  strike : Bool := false
  color : Option String := none
  background : Option String := none
deriving DecidableEq, Repr

namespace Style

/-- The weights that count as bold. -/
def boldWeights : List String := ["bold", "bolder", "600", "700", "800", "900"]

/-- Why an option of a style cannot be read. -/
inductive OptionError
  | colour (error : ColourError)
  /-- A number in it has too many digits to be written. -/
  | tooLongToWrite
deriving DecidableEq, Repr

/-- The wording of the error. -/
def OptionError.message : OptionError → String
  | .colour e => e.message
  | .tooLongToWrite => Text.tooLongToWrite

/-- An option as text in lower case. -/
def optionText (options : Options) (key : String) : Except OptionError String :=
  match options.get? key with
  | some v =>
    if v.isTooLong then .error .tooLongToWrite
    else .ok (String.ofList (Text.lowerText v.text.toList))
  | none => .ok ""

/-- The colour under a key, if it is one. -/
def colourOption (options : Options) (key : String) : Except OptionError (Option String) :=
  match options.get? key with
  | some (.str s) => (colour? s).mapError .colour
  | _ => .ok none

/-- Does the text hold these characters in a row? -/
def contains (part : List Char) : List Char → Bool
  | [] => part.isEmpty
  | c :: cs => part.isPrefixOf (c :: cs) || contains part cs

/-- Is nothing set? -/
def isPlain (s : Style) : Bool :=
  !(s.bold || s.italic || s.underline || s.strike || s.color.isSome || s.background.isSome)

/-- Sets a text off by reversing it, if nothing else does. -/
def orReversed (s : Style) : Style := if s.isPlain then { s with reverse := true } else s

/-- The style of options. -/
def ofOptions (options : Options) : Except OptionError Style := do
  let color ← colourOption options "color"
  let background ← colourOption options "backgroundColor"
  let weight ← optionText options "fontWeight"
  let slant ← optionText options "fontStyle"
  let lines := (← optionText options "textDecoration").toList
  return orReversed
    { bold := boldWeights.contains weight
      italic := slant == "italic"
      underline := contains "underline".toList lines
      strike := contains "line-through".toList lines
      color, background }

/-- A word if a flag is set. -/
def word (flag : Bool) (w : String) : List String := if flag then [w] else []

/-- The style in words. -/
def text (s : Style) : String :=
  " ".intercalate
    (word s.bold "bold" ++ word s.italic "italic" ++ word s.underline "underline" ++
      word s.reverse "reverse" ++ word s.strike "strike" ++ s.color.toList ++
      (s.background.toList.map ("on " ++ ·)))

end Style

end Marginalia
