import Marginalia.Proofs.Command.Reporting
import Marginalia.Proofs.Console.Lines

/-!
# What is printed of a message

A message is printed after its label as `Markup.echo` says, in one line (`printMarkup_echoed`), if the
console is wide enough for it.  So its tags and other brackets are kept.  A message is not printed
literally if a backslash stands before a bracket that opens no tag, if it ends in a single backslash,
or if the name of a pictograph stands between two of its colons.
-/

namespace Marginalia.Command

open Markup

/-- A message as it is printed after a word. -/
def echoed (word message : List Char) : List Char := word ++ ' ' :: echo message

/-- The labels of messages. -/
def labels : List Label := [errorLabel, warningLabel]

section

variable {l : Label} {size : Nat}

/-- What is rendered after a label is printed in one line. -/
theorem printMarkup_of_render (hl : l ∈ labels) {rest more : List Char}
    (hrender : render (l.markup ++ rest) = .ok ⟨l.word ++ more, [l.span]⟩)
    (hmore : ∀ c ∈ more, Text.staysInLine c = true) (hwide : Text.reach (l.word ++ more) ≤ size) :
    Console.printMarkup size (l.markup ++ rest) = .ok (String.ofList (l.word ++ more ++ ['\n'])) := by
  have hwords : (labels.all fun l => l.word.all Text.staysInLine) = true := by decide
  have hword := List.all_eq_true.mp (List.all_eq_true.mp hwords l hl)
  rw [Console.printMarkup, l.shown_of_render hrender]
  exact congrArg Except.ok (Console.print_line (List.forall_mem_append.mpr ⟨hword, hmore⟩) hwide)

/-- A message without names of pictographs is printed after its label as it is read again. -/
theorem printMarkup_echoed (hl : l ∈ labels) {message : List Char}
    (hchars : ∀ c ∈ message, Text.staysInLine c = true) (hnames : Unnamed (echo message))
    (hwide : Text.reach (echoed l.word message) ≤ size) :
    Console.printMarkup size (l.markup ++ ' ' :: escape message) =
      .ok (String.ofList (echoed l.word message ++ ['\n'])) := by
  obtain ⟨parts, hparts, hrender⟩ := l.render_markup message
  have hecho : ∀ c ∈ ' ' :: echo message, Text.staysInLine c = true :=
    List.forall_mem_cons.mpr ⟨by decide, forall_mem_echo (by decide) hchars⟩
  have hkept : parts.flatMap shownText = ' ' :: echo message := by
    have hall := hnames.cons (c := ' ') (by decide)
    rw [← hparts] at hall hecho ⊢
    exact shownTexts_of_unnamed hall fun c hc => Text.isDropped_of_staysInLine (hecho c hc)
  rw [hkept] at hrender
  exact printMarkup_of_render hl hrender hecho hwide

end

/-- What is printed of a message on the second channel, whatever the message is.

It is what is read again of the escaped message, in which names of pictographs are replaced; if there
are none, it is just that, on every console that is wide enough.  This is the message itself if and
only if each backslash before an opening bracket stands before a tag, and the message does not end in
a single backslash. -/
theorem diagnostics_echoed (message : String) :
    (∀ l ∈ labels, ∃ parts : List (List Char), parts.flatten = ' ' :: echo message.toList ∧
      shown (l.markup ++ ' ' :: escape message.toList) =
        .ok ⟨l.word ++ parts.flatMap shownText, [l.span]⟩) ∧
    ((∀ c ∈ message.toList, Text.staysInLine c = true) → Unnamed (echo message.toList) →
      (∀ l ∈ labels, ∀ size, Text.reach (echoed l.word message.toList) ≤ size →
        Console.printMarkup size (l.markup ++ ' ' :: escape message.toList) =
          .ok (String.ofList (echoed l.word message.toList ++ ['\n']))) ∧
      (Text.reach (echoed "error:".toList message.toList) ≤ consoleWidth → ∀ (α : Type) (o : Output),
        (errorExit false message : Action α).run o = (.error (.exit errorCode), { o with
          stderr := o.stderr ++ String.ofList (echoed "error:".toList message.toList ++ ['\n']) })) ∧
      (Text.reach (echoed "warning:".toList message.toList) ≤ consoleWidth → ∀ o : Output,
        (warn message).run o = (.ok (), { o with
          stderr := o.stderr ++
            String.ofList (echoed "warning:".toList message.toList ++ ['\n']) }))) ∧
    (∀ word, echoed word message.toList = word ++ ' ' :: message.toList ↔
      SlashesTags message.toList ∧ addedSlash message.toList = []) := by
  refine ⟨fun l _ => ?_, fun hchars hnames => ⟨?_, ?_, ?_⟩, ?_⟩
  · obtain ⟨parts, hparts, hrender⟩ := l.render_markup message.toList
    exact ⟨parts, hparts, l.shown_of_render hrender⟩
  · exact fun l hl size hwide => printMarkup_echoed hl hchars hnames hwide
  · intro hwide α o
    have hprinted := printMarkup_echoed (l := errorLabel) (by simp [labels]) hchars hnames hwide
    exact run_bind_ok (run_report rfl hprinted o)
  · intro hwide o
    have hprinted := printMarkup_echoed (l := warningLabel) (by simp [labels]) hchars hnames hwide
    exact run_report rfl hprinted o
  · intro word
    rw [echoed, List.append_cancel_left_eq, List.cons_inj_right, echo_eq_self_iff]

/-- A message with a tag, another bracket, an escaped tag and a colon. -/
theorem diagnostics_echoed_brackets :
    (errorExit false "at [bold]: [0] \\[/dim]" : Action Unit).run {} =
      (.error (.exit errorCode), { stderr := "error: at [bold]: [0] \\[/dim]\n" }) := by
  have hnames : Unnamed (echo "at [bold]: [0] \\[/dim]".toList) :=
    unnamed_of_count (by decide +kernel)
  have hrun := ((diagnostics_echoed "at [bold]: [0] \\[/dim]").2.1
    (List.all_eq_true.mp (by decide +kernel)) hnames).2.1 (by decide +kernel) Unit {}
  have hprinted : "" ++ String.ofList
      (echoed "error:".toList "at [bold]: [0] \\[/dim]".toList ++ ['\n']) =
        "error: at [bold]: [0] \\[/dim]\n" := by
    decide +kernel
  exact hrun.trans (by rw [hprinted])

/-- Messages that are not printed literally: a quoted pattern loses the backslash before a bracket, a
backslash at the end is doubled, and a name between colons becomes a pictograph. -/
theorem diagnostics_not_literal :
    (errorExit false "'(\\\\[0'" : Action Unit).run {} =
      (.error (.exit errorCode), { stderr := "error: '(\\[0'\n" }) ∧
    (warn "C:\\").run {} = (.ok (), { stderr := "warning: C:\\\\\n" }) ∧
    (warn ":100:").run {} = (.ok (), { stderr := "warning: 💯\n" }) := by
  have hlabels : errorLabel ∈ labels ∧ warningLabel ∈ labels := by simp [labels]
  have hrun {l : Label} {label message s : String} {cs : List Char}
      (hlabel : label.toList = l.markup)
      (h : Console.printMarkup consoleWidth (l.markup ++ ' ' :: escape message.toList) =
        .ok (String.ofList cs)) (hs : "" ++ String.ofList cs = s) :
      (report label message).run {} = (.ok (), { stderr := s }) := by
    rw [run_report hlabel h, hs]
  refine ⟨?_, ?_, ?_⟩
  · exact run_bind_ok (hrun rfl (printMarkup_echoed hlabels.1
      (List.all_eq_true.mp (by decide +kernel)) (unnamed_of_count (by decide +kernel))
      (by decide +kernel)) (by decide +kernel))
  · exact hrun rfl (printMarkup_echoed hlabels.2 (List.all_eq_true.mp (by decide +kernel))
      (unnamed_of_count (by decide +kernel)) (by decide +kernel)) (by decide +kernel)
  · have hrender : render (warningLabel.markup ++ ' ' :: escape ":100:".toList) =
        .ok ⟨warningLabel.word ++ " 💯".toList, [warningLabel.span]⟩ :=
      eq_ok_of_toOption (by decide +kernel)
    exact hrun rfl (printMarkup_of_render hlabels.2 hrender
      (List.all_eq_true.mp (by decide +kernel)) (by decide +kernel)) (by decide +kernel)

end Marginalia.Command
