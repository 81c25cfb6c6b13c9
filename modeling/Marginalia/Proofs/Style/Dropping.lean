import Marginalia.Proofs.Style.Colours
import Marginalia.Style.Basic
import Mathlib.Data.List.Infix

/-!
# What becomes of the options of a style

Options that are texts give a style with what can be used of them (`Shows`).  A text that is no colour
is dropped, and a style with nothing left shows its text reversed.  There is an error instead if a
text that is to be a colour cannot be read (`ofOptions_of_texts`).
-/

namespace Marginalia.Style

/-- The text of an option; it is empty if there is none. -/
def Options.textOf (options : Options) (key : String) : String :=
  match options.get? key with
  | some (.str s) => s
  | _ => ""

/-- All options are texts. -/
def Options.AreTexts (options : Options) : Prop := ∀ e ∈ options, ∃ s, e.2 = .str s

/-- The text of an option in lower case. -/
def Options.lowered (options : Options) (key : String) : String :=
  String.ofList (Text.lowerText (options.textOf key).toList)

section

variable {options : Options}

/-- An option is missing or a text. -/
theorem Options.AreTexts.get?_cases (h : options.AreTexts) (key : String) :
    options.get? key = none ∧ options.textOf key = "" ∨
      options.get? key = some (.str (options.textOf key)) := by
  unfold textOf
  cases hfound : options.find? fun e => e.1.sameKey (.str key) with
  | none =>
    have hget : options.get? key = none := by rw [get?, hfound, Option.map_none]
    exact .inl ⟨hget, by rw [hget]⟩
  | some e =>
    obtain ⟨s, hs⟩ := h e (List.mem_of_find?_eq_some hfound)
    have hget : options.get? key = some (.str s) := by rw [get?, hfound, Option.map_some, hs]
    exact .inr (by rw [hget])

/-- A text is read in lower case. -/
theorem optionText_of_texts (h : options.AreTexts) (key : String) :
    optionText options key = .ok (options.lowered key) := by
  unfold optionText
  obtain ⟨hget, htext⟩ | hget := h.get?_cases key
  · rw [hget, Options.lowered, htext]
    rfl
  · rw [hget]
    rfl

/-- A colour is read from its text. -/
theorem colourOption_of_texts (h : options.AreTexts) (key : String) :
    colourOption options key = (colour? (options.textOf key)).mapError .colour := by
  unfold colourOption
  obtain ⟨hget, htext⟩ | hget := h.get?_cases key
  · rw [hget, htext]
    decide +kernel
  · rw [hget]

end

/-- A text contains its parts. -/
theorem contains_iff {part cs : List Char} : contains part cs = true ↔ part <:+: cs := by
  induction cs with
  | nil => rw [contains, List.isEmpty_iff, List.infix_nil]
  | cons c cs ih =>
    rw [contains, Bool.or_eq_true, List.isPrefixOf_iff_prefix, ih, List.infix_cons_iff]

/-- The colour that is taken from a text: its name if it is one, and none otherwise. -/
structure Takes (s : String) (color : Option String) : Prop where
  read : colour? s = .ok color
  eq_some_iff : ∀ name, color = some name ↔ IsColour (bare s) ∧ name = String.ofList (bare s)

/-- What a style has of its options.  All but `reverse` depend on one option each. -/
structure Shows (options : Options) (style : Style) : Prop where
  color : Takes (options.textOf "color") style.color
  background : Takes (options.textOf "backgroundColor") style.background
  bold : style.bold = true ↔ options.lowered "fontWeight" ∈ boldWeights
  italic : style.italic = true ↔ options.lowered "fontStyle" = "italic"
  underline : style.underline = true ↔
    "underline".toList <:+: (options.lowered "textDecoration").toList
  strike : style.strike = true ↔
    "line-through".toList <:+: (options.lowered "textDecoration").toList
  reverse : style.reverse = true ↔ { style with reverse := false } = {}

/-- A colour that is read is taken or dropped. -/
theorem takes_of_read {s : String} {color : Option String} (h : colour? s = .ok color) :
    Takes s color := by
  refine ⟨h, fun name => ?_⟩
  rw [← colour?_eq_some_iff, h, Except.ok.injEq]

/-- A plain style shows nothing but perhaps its reverse. -/
theorem isPlain_iff {s : Style} : s.isPlain = true ↔ { s with reverse := false } = {} := by
  simp [isPlain, Style.mk.injEq, and_assoc]

/-- A plain style is reversed. -/
theorem orReversed_eq (s : Style) :
    s.orReversed = { s with reverse := s.isPlain || s.reverse } := by
  unfold orReversed
  split <;> simp [*]

/-- The style of options that are texts, with the colours that were read of them. -/
def styled (options : Options) (color background : Option String) : Style :=
  orReversed
    { bold := boldWeights.contains (options.lowered "fontWeight")
      italic := options.lowered "fontStyle" == "italic"
      underline := contains "underline".toList (options.lowered "textDecoration").toList
      strike := contains "line-through".toList (options.lowered "textDecoration").toList
      color, background }

/-- The options that are read as colours. -/
def colourKeys : List String := ["color", "backgroundColor"]

section

variable {options : Options}

/-- The style shows what the options say. -/
theorem shows_styled {color background : Option String}
    (hcolor : colour? (options.textOf "color") = .ok color)
    (hbackground : colour? (options.textOf "backgroundColor") = .ok background) :
    Shows options (styled options color background) := by
  rw [styled, orReversed_eq]
  constructor
  case color => exact takes_of_read hcolor
  case background => exact takes_of_read hbackground
  case bold => rw [List.contains_iff_mem]
  case italic => rw [beq_iff_eq]
  case underline => rw [contains_iff]
  case strike => rw [contains_iff]
  case reverse => rw [Bool.or_false, isPlain_iff]

/-- The two colours are read one after the other, and nothing else can fail. -/
theorem ofOptions_cases (h : options.AreTexts) :
    (∃ color background, colour? (options.textOf "color") = .ok color ∧
      colour? (options.textOf "backgroundColor") = .ok background ∧
      ofOptions options = .ok (styled options color background)) ∨
    ∃ key ∈ colourKeys, ∃ e, colour? (options.textOf key) = .error e ∧
      ofOptions options = .error (.colour e) := by
  simp only [ofOptions, optionText_of_texts h, colourOption_of_texts h]
  cases hcolor : colour? (options.textOf "color") with
  | error e => exact .inr ⟨"color", by simp [colourKeys], e, hcolor, rfl⟩
  | ok color =>
    cases hbackground : colour? (options.textOf "backgroundColor") with
    | error e => exact .inr ⟨"backgroundColor", by simp [colourKeys], e, hbackground, rfl⟩
    | ok background => exact .inl ⟨color, background, rfl, rfl, rfl⟩

end

/-- The style of options that are texts, whatever the texts are.

There is one unless a text that is to be a colour has three components of which one is no number.
It has the texts that are colours and drops what is none; weight, slant and lines depend on one option
each; and it is reversed if and only if it has nothing else. -/
theorem ofOptions_of_texts (options : Options) (htexts : options.AreTexts) :
    ((∃ style, ofOptions options = .ok style) ↔
      ∀ key ∈ colourKeys, ¬ IsUnreadable (bare (options.textOf key))) ∧
    (∀ style, ofOptions options = .ok style → Shows options style) ∧
    ∀ e, ofOptions options = .error e →
      ∃ key ∈ colourKeys, ∃ c, colour? (options.textOf key) = .error c ∧ e = .colour c := by
  obtain ⟨color, background, hcolor, hbackground, hstyle⟩ | ⟨key, hkey, c, hc, herror⟩ :=
    ofOptions_cases htexts
  · refine ⟨⟨fun _ => ?_, fun _ => ⟨_, hstyle⟩⟩, fun style h => ?_, fun e h => ?_⟩
    · have hread {key : String} {c : Option String} (h : colour? (options.textOf key) = .ok c) :
          ¬ IsUnreadable (bare (options.textOf key)) := by
        rw [← exists_colour?_eq_error_iff]
        rintro ⟨e, he⟩
        cases h.symm.trans he
      simp [colourKeys, hread hcolor, hread hbackground]
    · cases hstyle.symm.trans h
      exact shows_styled hcolor hbackground
    · cases hstyle.symm.trans h
  · refine ⟨⟨?_, fun hall => ?_⟩, fun style h => ?_, fun e h => ?_⟩
    · rintro ⟨style, hstyle⟩
      cases herror.symm.trans hstyle
    · exact absurd (exists_colour?_eq_error_iff.mp ⟨c, hc⟩) (hall key hkey)
    · cases herror.symm.trans h
    · cases herror.symm.trans h
      exact ⟨key, hkey, c, hc, rfl⟩

/-- A colour with white space and digits of two scripts, a text that is none, a weight, and a slant and
an option without effect. -/
def spacedOptions : Options :=
  Options.ofTable
    [("color", .str " RGB( 255 ,0,٣ )"), ("backgroundColor", .str "rgba(255,0,0,0.5)"),
      ("fontWeight", .str "Bolder"), ("fontStyle", .str "oblique"), ("margin", .str "0")]

/-- Blanks in a colour, and a digit that is not an ASCII one. -/
theorem ofOptions_of_texts_spaced : spacedOptions.AreTexts ∧ ∃ style,
    ofOptions spacedOptions = .ok style ∧ Shows spacedOptions style ∧
      style = { bold := true, color := some "rgb( 255 ,0,٣ )" } := by
  have htexts : spacedOptions.AreTexts := by
    simp [spacedOptions, Options.AreTexts, Options.ofTable]
  have hstyle : ofOptions spacedOptions =
      .ok { bold := true, color := some "rgb( 255 ,0,٣ )" } := by
    decide +kernel
  exact ⟨htexts, _, hstyle, (ofOptions_of_texts spacedOptions htexts).2.1 _ hstyle, rfl⟩

/-- A missing component is an error, unless there are four components. -/
theorem ofOptions_fails_without_component :
    ofOptions (Options.ofTable [("color", .str "rgb(1,,2)")]) = .error (.colour (.notNumber "")) ∧
    ofOptions (Options.ofTable [("color", .str "rgb(1,,2,3)")]) = .ok { reverse := true } := by
  decide +kernel

end Marginalia.Style
