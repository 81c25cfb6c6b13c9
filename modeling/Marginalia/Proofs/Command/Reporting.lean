import Marginalia.Proofs.Command.Actions
import Marginalia.Proofs.Markup.Echo
import Marginalia.Proofs.Outcome

/-!
# Messages are printed

A message is printed after a label, a word in a style of its own.  Whatever the message is, neither
the markup around it nor its form in JSON can fail: a warning is printed and the command goes on
(`Command.warn_returns`), and a command that ends with an error message ends with the code of an error
(`Command.run_errorExit`).
-/

namespace Marginalia

namespace Markup

/-- A tag ends the text before it. -/
theorem piecesFrom_tag {left position : Nat} {done cs body after : List Char}
    (h : escapedTag? cs = some (0, body, after)) :
    piecesFrom (left + 1) position done cs = textPiece done.reverse ++
      Piece.ofTag position body :: piecesFrom left (position + body.length + 2) [] after := by
  cases cs with
  | nil => cases h
  | cons c cs =>
    rw [piecesFrom, h]
    simp [textPiece, backslashes]

/-- A text is shown. -/
theorem renderPieces_text (r : Rendered) (stack : List OpenTag) (cs : List Char)
    (rest : List Piece) :
    renderPieces r stack (.text cs :: rest) =
      renderPieces { r with plain := r.plain ++ shownText (unescapeBrackets cs) } stack rest := by
  rw [renderPieces]

/-- Texts are rendered without fail, and close no tags. -/
theorem renderPieces_texts (ps : List (List Char)) (r : Rendered) (stack : List OpenTag) :
    renderPieces r stack (ps.map .text) =
      renderPieces { r with plain := r.plain ++ (ps.map unescapeBrackets).flatMap shownText }
        stack [] := by
  induction ps generalizing r with
  | nil => simp
  | cons p ps ih =>
    rw [List.map_cons, renderPieces_text, ih, List.map_cons, List.flatMap_cons, List.append_assoc]

/-- A tag is opened. -/
theorem renderPieces_open {name normal : List Char} (hname : tagName name = .ok normal)
    (hopen : ∀ close, name ≠ '/' :: close) (r : Rendered) (stack : List OpenTag) (position : Nat)
    (parameters : Option (List Char)) (rest : List Piece) :
    renderPieces r stack (.tag position name parameters :: rest) =
      renderPieces r (⟨r.plain.length, normal, parameters⟩ :: stack) rest := by
  rw [renderPieces]
  · rw [hname]
    rfl
  · exact hopen

/-- A tag is closed. -/
theorem renderPieces_close {close normal : List Char}
    (hname : tagName (Text.strip close) = .ok normal)
    (hclose : (Text.strip close).isEmpty = false) {r r' : Rendered} {stack stack' : List OpenTag}
    {t : OpenTag} (hstack : closeTag normal stack = some (t, stack')) (hr : r.close t = .ok r')
    (position : Nat) (parameters : Option (List Char)) (rest : List Piece) :
    renderPieces r stack (.tag position ('/' :: close) parameters :: rest) =
      renderPieces r' stack' rest := by
  rw [renderPieces.eq_def]
  simp only [hclose, hname, bind, Except.bind, Bool.false_eq_true, if_false, hstack, hr]

/-- A word between a tag and the tag that closes it, which can be shown: both tags are read as such,
the word has no markup in it, and the name of the tags is a style. -/
structure Label where
  name : List Char
  word : List Char
  /-- The name in its normal form. -/
  normal : List Char
  opened (rest : List Char) :
    escapedTag? ('[' :: (name ++ ']' :: rest)) = some (0, name, rest)
  closed (rest : List Char) :
    escapedTag? ('[' :: '/' :: (name ++ ']' :: rest)) = some (0, '/' :: name, rest)
  piece_opened (position : Nat) : Piece.ofTag position name = .tag position name none
  piece_closed (position : Nat) :
    Piece.ofTag position ('/' :: name) = .tag position ('/' :: name) none
  opens : ∀ close, name ≠ '/' :: close
  word_ne : word ≠ []
  word_plain : (word.all fun c => c ≠ '\\' ∧ c ≠ '[') = true
  word_shown : shownText (unescapeBrackets word) = word
  strip_name : Text.strip name = name
  name_ne : name ≠ []
  tagName_name : tagName name = .ok normal
  style_normal : ∀ handler, normal ≠ '@' :: handler
  readable : ∃ d, Style.Definition.ofText normal = .ok d

namespace Label

/-- The label as markup. -/
def markup (l : Label) : List Char :=
  '[' :: (l.name ++ ']' :: l.word ++ '[' :: '/' :: l.name ++ [']'])

/-- Where the word stands in the text, and its style. -/
def span (l : Label) : Span := ⟨0, l.word.length, some l.normal⟩

variable (l : Label) {rest : List Char}

/-- A label is a tag, its word and the closing tag. -/
theorem pieces_markup (rest : List Char) : ∃ left position, rest.length ≤ left ∧
    pieces (l.markup ++ rest) =
      .tag 0 l.name none :: .text l.word :: .tag (l.name.length + 2 + l.word.length)
        ('/' :: l.name) none :: piecesFrom left position [] rest := by
  have hmarkup : l.markup ++ rest =
      '[' :: (l.name ++ ']' :: (l.word ++ '[' :: '/' :: (l.name ++ ']' :: rest))) := by
    simp [markup]
  have hlength : (l.markup ++ rest).length =
      rest.length + 2 * l.name.length + 3 + 1 + l.word.length + 1 := by
    rw [hmarkup]
    simp only [List.length_cons, List.length_append]
    omega
  have hplain : ∀ c ∈ l.word, c ≠ '\\' ∧ c ≠ '[' := fun c hc =>
    of_decide_eq_true (List.all_eq_true.mp l.word_plain c hc)
  have hword : textPiece (l.word.reverse ++ []).reverse = [.text l.word] := by
    rw [List.append_nil, List.reverse_reverse]
    exact if_neg (by simpa using l.word_ne)
  rw [pieces, hlength, hmarkup, piecesFrom_tag (l.opened _),
    piecesFrom_tagless (tagless_of_forall hplain _), piecesFrom_tag (l.closed rest), hword,
    l.piece_opened, l.piece_closed, Nat.zero_add]
  exact ⟨_, _, by omega, rfl⟩

/-- The label is rendered, and an escaped message after it. -/
theorem render_markup (message : List Char) : ∃ parts : List (List Char),
    parts.flatten = ' ' :: echo message ∧ render (l.markup ++ ' ' :: escape message) =
      .ok ⟨l.word ++ parts.flatMap shownText, [l.span]⟩ := by
  have hbracket : (l.markup ++ ' ' :: escape message).contains '[' = true :=
    List.contains_iff_mem.mpr List.mem_cons_self
  have hstack : closeTag l.normal [⟨0, l.normal, none⟩] = some (⟨0, l.normal, none⟩, []) :=
    if_pos rfl
  -- A label has no handler, so closing its tag leaves a span.
  have hclose : Rendered.close ⟨l.word, []⟩ ⟨0, l.normal, none⟩ = .ok ⟨l.word, [l.span]⟩ := by
    have hspan : OpenTag.span ⟨0, l.normal, none⟩ l.word.length = l.span := by
      unfold OpenTag.span
      split
      · rename_i handler heq
        exact absurd heq (l.style_normal handler)
      · rfl
    have hcheck : OpenTag.checkArguments ⟨0, l.normal, none⟩ = .ok () := by
      unfold OpenTag.checkArguments
      split
      · rename_i heq
        cases heq
      · rfl
    rw [Rendered.close, hcheck]
    exact congrArg (fun s => Except.ok (⟨l.word, [s]⟩ : Rendered)) hspan
  have hstrip : (Text.strip l.name).isEmpty = false := by
    rw [l.strip_name]
    simpa using l.name_ne
  obtain ⟨left, position, hleft, hpieces⟩ := l.pieces_markup (' ' :: escape message)
  obtain ⟨ps, hps, hread⟩ := piecesFrom_escape message hleft position
  refine ⟨ps.map unescapeBrackets, hread, ?_⟩
  rw [render, if_pos hbracket, hpieces, hps, renderPieces_open l.tagName_name l.opens,
    renderPieces_text, l.word_shown, List.nil_append, List.length_nil,
    renderPieces_close (l.strip_name.symm ▸ l.tagName_name) hstrip hstack hclose,
    renderPieces_texts, renderPieces, List.map_nil, List.append_nil]

/-- The style of the label can be shown, so what is rendered is shown. -/
theorem shown_of_render {rest more : List Char}
    (h : render (l.markup ++ rest) = .ok ⟨l.word ++ more, [l.span]⟩) :
    shown (l.markup ++ rest) = .ok ⟨l.word ++ more, [l.span]⟩ := by
  obtain ⟨d, hstyle⟩ := l.readable
  have hchecked : Rendered.checkStyles ⟨l.word ++ more, [l.span]⟩ = .ok () := by
    have hshows : Rendered.shows ⟨l.word ++ more, [l.span]⟩ l.span = true := by
      unfold Rendered.shows
      rw [Bool.or_eq_true]
      exact .inl (decide_eq_true (List.length_pos_iff.mpr l.word_ne))
    have hspan : l.span.style = some l.normal := rfl
    rw [Rendered.checkStyles, Rendered.ordered, List.reverse_singleton, List.mergeSort_singleton,
      List.filter_cons_of_pos hshows, List.filter_nil, List.filterMap_cons_some hspan,
      List.filterMap_nil, List.forM, hstyle]
    rfl
  rw [shown, h]
  simp only [bind, Except.bind, hchecked]
  rfl

end Label

end Markup

namespace Command

open Markup

/-- The label of an error message. -/
def errorLabel : Label where
  name := "red bold".toList
  word := "error:".toList
  normal := "bold red".toList
  opened _ := rfl
  closed _ := rfl
  piece_opened _ := rfl
  piece_closed _ := rfl
  opens _ h := absurd (List.cons.inj h).1 (by decide)
  word_ne := by decide
  word_plain := by decide
  word_shown := by decide +kernel
  strip_name := by decide +kernel
  name_ne := by decide
  tagName_name := eq_ok_of_toOption (by decide +kernel)
  style_normal _ h := absurd (List.cons.inj h).1 (by decide)
  readable := ⟨some { attributes := [("bold", true)], colour := some "red" },
    eq_ok_of_toOption (by decide +kernel)⟩

/-- The label of a warning. -/
def warningLabel : Label where
  name := "yellow".toList
  word := "warning:".toList
  normal := "yellow".toList
  opened _ := rfl
  closed _ := rfl
  piece_opened _ := rfl
  piece_closed _ := rfl
  opens _ h := absurd (List.cons.inj h).1 (by decide)
  word_ne := by decide
  word_plain := by decide
  word_shown := by decide +kernel
  strip_name := by decide +kernel
  name_ne := by decide
  tagName_name := eq_ok_of_toOption (by decide +kernel)
  style_normal _ h := absurd (List.cons.inj h).1 (by decide)
  readable := ⟨some { colour := some "yellow" }, eq_ok_of_toOption (by decide +kernel)⟩

/-- A label stands before its message. -/
theorem labelled_eq (l : Label) {label : String} (hlabel : label.toList = l.markup)
    (message : String) : labelled label message = l.markup ++ ' ' :: escape message.toList := by
  rw [labelled, hlabel, List.append_assoc]
  rfl

/-- A message after a label that is printed is added to the second channel. -/
theorem run_report {l : Label} {label : String} (hlabel : label.toList = l.markup)
    {message s : String}
    (h : Console.printMarkup consoleWidth (l.markup ++ ' ' :: escape message.toList) = .ok s)
    (o : Output) :
    (report label message).run o = (.ok (), { o with stderr := o.stderr ++ s }) := by
  rw [report, labelled_eq l hlabel, h]
  rfl

/-- A message after a label is printed, whatever it is. -/
theorem report_returns (l : Label) {label : String} (hlabel : label.toList = l.markup)
    (message : String) : (report label message).Returns () := by
  obtain ⟨parts, -, hrender⟩ := l.render_markup message.toList
  intro o
  exact ⟨_, run_report hlabel (by rw [Console.printMarkup, l.shown_of_render hrender]; rfl) o⟩

/-- A warning is printed, and the command goes on. -/
theorem warn_returns (message : String) : (warn message).Returns () :=
  report_returns warningLabel rfl message

/-- A command that ends with an error message in JSON prints it and ends with the code of an
error. -/
theorem run_errorExit_json {α : Type} (message : String) :
    ∃ s, ∀ o, (errorExit true message : Action α).run o =
      (.error (.exit errorCode), { o with stdout := o.stdout ++ s }) :=
  ⟨_, fun _ => rfl⟩

/-- A command that ends with an error message ends with the code of an error. -/
theorem run_errorExit {α : Type} (json : Bool) (message : String) (o : Output) :
    ∃ o', (errorExit json message : Action α).run o = (.error (.exit errorCode), o') := by
  cases json with
  | true =>
    obtain ⟨s, hs⟩ := run_errorExit_json (α := α) message
    exact ⟨_, hs o⟩
  | false =>
    have hlabel : "[red bold]error:[/red bold]".toList = errorLabel.markup := rfl
    obtain ⟨stderr, hreport⟩ := report_returns errorLabel hlabel message o
    exact ⟨{ o with stderr }, run_bind_ok hreport⟩

end Command

end Marginalia
