import Marginalia.Command.Run

/-!
# What actions do

Two judgements on the steps of a command, each with a rule for every way to put steps together.  A
step that *returns* a result does so whatever was printed before, and prints on the second channel
only (`Action.Returns`).  A step that *only shows* something goes on or fails to show it, but does not
end the command with a code (`Action.OnlyShows`).

A command line whose arguments can be read starts the command that it names with these arguments
(`runLine_of_takes`).
-/

namespace Marginalia.Command

section

variable {α β : Type}

/-! ## One step after another -/

/-- The second action goes on from the output of the first. -/
theorem run_bind_ok {x : Action α} {f : α → Action β} {o o' : Output} {a : α}
    (h : x.run o = (.ok a, o')) : (x >>= f).run o = (f a).run o' := by
  have hbind : (x >>= f).run o = ExceptT.bindCont f (x.run o).1 (x.run o).2 := rfl
  rw [hbind, h]
  rfl

/-- An action that stops leaves out what follows. -/
theorem run_bind_error {x : Action α} {f : α → Action β} {o o' : Output} {stop : Stop}
    (h : x.run o = (.error stop, o')) : (x >>= f).run o = (.error stop, o') := by
  have hbind : (x >>= f).run o = ExceptT.bindCont f (x.run o).1 (x.run o).2 := rfl
  rw [hbind, h]
  rfl

theorem orFail_ok {ε : Type} {r : Except ε α} {a : α} (f : ε → Failure) (h : r = .ok a) :
    orFail r f = pure a := by
  rw [h]
  rfl

/-- Is it a failure to show something, on the console or as JSON? -/
def Failure.isShowing : Failure → Bool
  | .display _ => true
  | .json _ => true
  | _ => false

/-- Did a command end because it could not show something? -/
def Status.failsShowing : Status → Bool
  | .exited _ => false
  | .failed f => f.isShowing

namespace Action

/-! ## Steps that return -/

/-- The step returns the result, and all that it does is print on the second channel. -/
def Returns (x : Action α) (a : α) : Prop :=
  ∀ o, ∃ stderr, x.run o = (.ok a, { o with stderr })

theorem Returns.pure (a : α) : Returns (pure a) a := fun o => ⟨o.stderr, rfl⟩

/-- Actions that return, one after the other. -/
theorem Returns.bind {x : Action α} {f : α → Action β} {a : α} {b : β} (hx : Returns x a)
    (hf : Returns (f a) b) : Returns (x >>= f) b := by
  intro o
  obtain ⟨stderr, hrun⟩ := hx o
  obtain ⟨stderr', hrun'⟩ := hf { o with stderr }
  exact ⟨stderr', (run_bind_ok hrun).trans hrun'⟩

/-- An action that returns for each element. -/
theorem Returns.forM {f : α → Action PUnit} (h : ∀ a, Returns (f a) ()) (as : List α) :
    Returns (as.forM f) () := by
  induction as with
  | nil => exact .pure ()
  | cons a as ih => exact (h a).bind ih

/-! ## Steps that only show something -/

/-- The step goes on or fails to show something, and ends the command in no other way. -/
def OnlyShows (x : Action α) : Prop :=
  ∀ o stop o', x.run o = (.error stop, o') → ∃ f, stop = .failed f ∧ f.isShowing = true

/-- An action that returns does not stop. -/
theorem OnlyShows.of_returns {x : Action α} (h : ∀ o, ∃ a o', x.run o = (.ok a, o')) :
    OnlyShows x := by
  intro o stop o' hstop
  obtain ⟨a, o₁, hrun⟩ := h o
  rw [hrun] at hstop
  cases hstop

theorem OnlyShows.pure (a : α) : OnlyShows (pure a : Action α) := .of_returns fun o => ⟨a, o, rfl⟩

/-- Printing does not stop. -/
theorem OnlyShows.print (s : String) : OnlyShows (print s) := .of_returns fun _ => ⟨(), _, rfl⟩

/-- A failure to show something is one of showing. -/
theorem OnlyShows.orFail {ε : Type} (r : Except ε α) {f : ε → Failure}
    (hf : ∀ e, (f e).isShowing = true) : OnlyShows (orFail r f) := by
  cases r with
  | ok a => exact .pure a
  | error e =>
    intro o stop o' h
    cases h
    exact ⟨f e, rfl, hf e⟩

/-- Two actions that only show. -/
theorem OnlyShows.bind {x : Action α} {f : α → Action β} (hx : OnlyShows x)
    (hf : ∀ a, OnlyShows (f a)) : OnlyShows (x >>= f) := by
  intro o stop o' h
  match hrun : x.run o with
  | (.ok a, o₁) =>
    rw [run_bind_ok hrun] at h
    exact hf a o₁ stop o' h
  | (.error stop', o₁) =>
    rw [run_bind_error hrun] at h
    cases h
    exact hx o stop o' hrun

/-- An action that only shows for each element. -/
theorem OnlyShows.forM {f : α → Action PUnit} (h : ∀ a, OnlyShows (f a)) (as : List α) :
    OnlyShows (as.forM f) := by
  induction as with
  | nil => exact .pure ()
  | cons a as ih => exact (h a).bind fun _ => ih

end Action

end

/-! ## How a command ends -/

/-- What a run comes to. -/
def Result.of : Except Stop Unit × Output → Result
  | (.ok (), output) => ⟨output, .exited 0⟩
  | (.error (.exit code), output) => ⟨output, .exited code⟩
  | (.error (.failed f), output) => ⟨output, .failed f⟩

theorem result_eq (x : Action Unit) : x.result = .of (x.run {}) := rfl

/-! ## Command lines -/

/-- The command can be started with the arguments: they can be read, no path among them has a null
character, and there are operands only if the command takes any. -/
structure Entry.Takes (e : Entry) (line : List String) (a : Arguments) : Prop where
  read : Arguments.read e.options line = some a
  paths : (e.paths a).find? hasNull = none
  operands : e.takesOperands = true ∨ a.operands = []

/-- The command that scans files. -/
def scanEntry : Entry :=
  { name := "scan", options := scanOptions, takesOperands := true, run := scanFiles }

/-- The command that lists kinds. -/
def kindsEntry : Entry := { name := "kinds", options := kindsOptions, run := listKinds }

/-- A command line starts the command that it names with the arguments that it gives. -/
theorem runLine_of_takes {e : Entry} (he : e ∈ entries) {line : List String} {a : Arguments}
    (h : e.Takes line a) (fs : Files) : runLine fs (e.name :: line) = (e.run fs a).result := by
  have hstart : e.start fs line = e.run fs a := by
    have hoperands : (!e.takesOperands && !a.operands.isEmpty) = false := by
      rcases h.operands with htakes | hnone
      · rw [htakes]
        rfl
      · rw [hnone, List.isEmpty_nil, Bool.not_true, Bool.and_false]
    unfold Entry.start
    rw [h.read]
    dsimp only
    rw [h.paths, hoperands]
    rfl
  have hdispatch : runLine fs (e.name :: line) = (e.start fs line).result := by
    simp only [entries, List.mem_cons, List.not_mem_nil, or_false] at he
    rcases he with rfl | rfl | rfl <;> rfl
  rw [hdispatch, hstart]

end Marginalia.Command
