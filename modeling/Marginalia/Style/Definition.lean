import Marginalia.Style.Colour

/-!
# Style definitions

A style is also written in words: attributes such as `bold`, also abbreviated or with `not` before
them, a colour, `on` and the colour of the background, and `link` with its target.  Two definitions
with the same effect have the same normal form, in which the words have a fixed order.  A text that
is no definition is its own normal form, up to case and the white space around it.
-/

namespace Marginalia.Style

/-- The attributes of a text, in the order of the normal form. -/
def attributeNames : List String :=
  ["bold", "dim", "italic", "underline", "blink", "blink2", "reverse", "conceal", "strike",
   "underline2", "frame", "encircle", "overline"]

/-- Short names of attributes. -/
def shortNames : List (String × String) :=
  [("d", "dim"), ("b", "bold"), ("i", "italic"), ("u", "underline"), ("r", "reverse"),
   ("c", "conceal"), ("s", "strike"), ("uu", "underline2"), ("o", "overline")]

/-- The attribute that a word names. -/
def attribute? (word : List Char) : Option String :=
  let w := String.ofList word
  if attributeNames.contains w then some w else shortNames.lookup w

/-- A style in words. -/
structure Definition where
  /-- The attributes that are switched on or off, the latest first. -/
  attributes : List (String × Bool) := []
  colour : Option String := none
  background : Option String := none
  link : Option String := none
deriving DecidableEq, Repr

namespace Definition

/-- Switches an attribute on or off. -/
def set (d : Definition) (name : String) (on : Bool) : Definition :=
  { d with attributes := (name, on) :: d.attributes }

/-- The words of an attribute, if it is switched. -/
def attributeWords (d : Definition) (name : String) : List String :=
  match d.attributes.lookup name with
  | some true => [name]
  | some false => ["not", name]
  | none => []

/-- The words of a definition in their order. -/
def words (d : Definition) : List String :=
  attributeNames.flatMap d.attributeWords ++ d.colour.toList ++
    (d.background.toList.flatMap fun b => ["on", b]) ++ (d.link.toList.flatMap fun l => ["link", l])

/-- The definition in its normal form. -/
def text (d : Definition) : String := if d.words.isEmpty then "none" else " ".intercalate d.words

/-- The definition that words add to `d`; there is none if a word does not belong into one. -/
def ofWords (d : Definition) : List (List Char) → Except ColourError (Option Definition)
  | [] => .ok (some d)
  | [w] => do
    let low := Text.lowerText w
    if low = "on".toList || low = "not".toList || low = "link".toList then return none
    match attribute? low with
    | some a => return some (d.set a true)
    | none => return (← colour? (String.ofList low)).map fun c => { d with colour := some c }
  | w :: next :: rest => do
    let low := Text.lowerText w
    if low = "on".toList then
      match ← colour? (String.ofList next) with
      | some c => ofWords { d with background := some c } rest
      | none => return none
    else if low = "not".toList then
      match attribute? next with
      | some a => ofWords (d.set a false) rest
      | none => return none
    else if low = "link".toList then ofWords { d with link := some (String.ofList next) } rest
    else match attribute? low with
      | some a => ofWords (d.set a true) (next :: rest)
      | none =>
        match ← colour? (String.ofList low) with
        | some c => ofWords { d with colour := some c } (next :: rest)
        | none => return none

/-- The definition that a text is, if it is one. -/
def ofText (cs : List Char) : Except ColourError (Option Definition) :=
  if Text.strip cs = "none".toList then .ok (some {}) else ofWords {} (Text.fields cs)

end Definition

/-- The normal form of a text as a definition of a style. -/
def normalise (cs : List Char) : Except ColourError (List Char) := do
  match ← Definition.ofText cs with
  | some d => return d.text.toList
  | none => return Text.lowerText (Text.strip cs)

end Marginalia.Style
