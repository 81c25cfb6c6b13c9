import Marginalia.Workspace
import Mathlib.Data.List.Basic

/-!
# The active document is open

A workspace changes by calls that open, close and activate documents, and a call that is refused
leaves it as it is.  `Does` says once what a call can do.  From it follows that every call keeps a
workspace `Consistent`, and so does every run of calls (`run_consistent`): there is an active
document exactly if any document is open, and it is one of those.  The same document may be open
several times, so that closing it once need not take it out of the list.
-/

namespace Marginalia.Workspace

/-- A call about a document.  None is about the reference to no document. -/
inductive Call
  | openDoc (d : Nat)
  | closeDoc (d : Nat)
  /-- Activates a document, which diagnostics show as `shown`. -/
  | setActive (d : Nat) (shown : String)
deriving DecidableEq, Repr

/-- The workspace that a change leaves, and the error if it is refused. -/
def settle (w : Workspace) : Except WorkspaceError Workspace → Workspace × Option WorkspaceError
  | .ok w' => (w', none)
  | .error e => (w, some e)

/-- The workspace after a call, and the error of a call that is refused. -/
def step (w : Workspace) : Call → Workspace × Option WorkspaceError
  | .openDoc d => w.settle (.ok (w.openDoc (some d)))
  | .closeDoc d => w.settle (w.closeDoc (some d))
  | .setActive d shown => w.settle (w.setActive (some d) shown)

/-- The workspace after calls. -/
def run (w : Workspace) (calls : List Call) : Workspace := calls.foldl (fun w c => (w.step c).1) w

/-! ## One call -/

/-- What a call does: the workspace that it leaves, and its error. -/
inductive Does (w : Workspace) : Call → Workspace → Option WorkspaceError → Prop
  | opened (d : Nat) : Does w (.openDoc d)
      ⟨w.documents ++ [some d], if w.active = none then some d else w.active⟩ none
  /-- The first of the places of the document is given up. -/
  | closed {d : Nat} {before after : List DocRef} (hfirst : some d ∉ before)
      (hdocuments : w.documents = before ++ some d :: after) : Does w (.closeDoc d)
      ⟨before ++ after, if w.active = some d then first (before ++ after) else w.active⟩ none
  | notListed {d : Nat} (hclosed : some d ∉ w.documents) :
      Does w (.closeDoc d) w (some .notListed)
  | activated {d : Nat} (shown : String) (hopen : some d ∈ w.documents) :
      Does w (.setActive d shown) ⟨w.documents, some d⟩ none
  | notOpen {d : Nat} (shown : String) (hclosed : some d ∉ w.documents) :
      Does w (.setActive d shown) w (some (.notOpen shown))

/-- Closing a document that is open. -/
theorem step_closeDoc {w : Workspace} {d : Nat} (h : some d ∈ w.documents) :
    ∃ before after, w.documents = before ++ some d :: after ∧ some d ∉ before ∧
      w.step (.closeDoc d) = (⟨before ++ after,
        if w.active = some d then first (before ++ after) else w.active⟩, none) := by
  obtain ⟨before, after, hfirst, hdocuments, herase⟩ := List.exists_erase_eq h
  refine ⟨before, after, hdocuments, hfirst, ?_⟩
  rw [step, closeDoc, if_pos (List.contains_iff_mem.mpr h), herase]
  rfl

/-- A document that is not listed cannot be closed. -/
theorem closeDoc_of_not_mem {w : Workspace} {d : DocRef} (h : d ∉ w.documents) :
    w.closeDoc d = .error .notListed := by
  rw [closeDoc, if_neg (mt List.contains_iff_mem.mp h)]

/-- A document that is listed can be made active. -/
theorem setActive_of_mem {w : Workspace} {d : DocRef} (h : d ∈ w.documents) (shown : String) :
    w.setActive d shown = .ok { w with active := d } := by
  rw [setActive, if_pos (List.contains_iff_mem.mpr h)]

/-- No other can. -/
theorem setActive_of_not_mem {w : Workspace} {d : DocRef} (h : d ∉ w.documents) (shown : String) :
    w.setActive d shown = .error (.notOpen shown) := by
  rw [setActive, if_neg (mt List.contains_iff_mem.mp h)]

/-- Each call does one of these. -/
theorem does_step (w : Workspace) (c : Call) : Does w c (w.step c).1 (w.step c).2 := by
  cases c with
  | openDoc d =>
    have hopened := Does.opened (w := w) d
    simp only [← Option.isNone_iff_eq_none] at hopened
    exact hopened
  | closeDoc d =>
    by_cases hopen : some d ∈ w.documents
    · obtain ⟨before, after, hdocuments, hfirst, hstep⟩ := step_closeDoc hopen
      rw [hstep]
      exact .closed hfirst hdocuments
    · rw [step, closeDoc_of_not_mem hopen]
      exact .notListed hopen
  | setActive d shown =>
    by_cases hopen : some d ∈ w.documents
    · rw [step, setActive_of_mem hopen]
      exact .activated shown hopen
    · rw [step, setActive_of_not_mem hopen]
      exact .notOpen shown hopen

/-! ## Runs -/

/-- The active document is open, there is one if any document is open, and no place in the list is
taken by the reference to no document. -/
structure Consistent (w : Workspace) : Prop where
  named : none ∉ w.documents
  active : w.active = none ∧ w.documents = [] ∨ w.active ∈ w.documents

/-- No document is active if none is listed. -/
theorem Consistent.active_eq_none_iff {w : Workspace} (h : w.Consistent) :
    w.active = none ↔ w.documents = [] := by
  obtain ⟨hnone, hnil⟩ | hmem := h.active
  · exact iff_of_true hnone hnil
  · refine iff_of_false (fun hnone => h.named (hnone ▸ hmem)) fun hnil => ?_
    exact List.not_mem_nil (hnil ▸ hmem)

/-- The first of a list of documents is one of them, unless there are none. -/
theorem first_cases (ds : List DocRef) : first ds = none ∧ ds = [] ∨ first ds ∈ ds := by
  cases ds with
  | nil => exact .inl ⟨rfl, rfl⟩
  | cons d ds => exact .inr List.mem_cons_self

theorem consistent_ofDocuments (ds : List Nat) : (ofDocuments (ds.map some)).Consistent where
  named := by simp [ofDocuments]
  active := first_cases (ds.map some)

/-- A call keeps a workspace consistent. -/
theorem Consistent.does {w w' : Workspace} {c : Call} {e : Option WorkspaceError}
    (h : w.Consistent) (hdoes : Does w c w' e) : w'.Consistent := by
  have hnamed := h.named
  cases hdoes with
  | opened d =>
    refine ⟨by simp [hnamed], .inr ?_⟩
    split
    · simp
    · rename_i hactive
      exact List.mem_append_left _ (h.active.resolve_left fun hnone => hactive hnone.1)
  | @closed d before after hfirst hdocuments =>
    rw [hdocuments] at hnamed
    refine ⟨by simpa using hnamed, ?_⟩
    show (if w.active = some d then first (before ++ after) else w.active) = none ∧ _ ∨ _
    split
    · exact first_cases (before ++ after)
    · rename_i hactive
      -- The active document is another one, so it stands before or after the place given up.
      have hmem := h.active.resolve_left fun hnil => by simp [hdocuments] at hnil
      rw [hdocuments, List.mem_append, List.mem_cons] at hmem
      exact .inr (List.mem_append.mpr (hmem.imp_right fun hmem => hmem.resolve_left hactive))
  | notListed => exact h
  | activated shown hopen => exact ⟨hnamed, .inr hopen⟩
  | notOpen => exact h

/-- All calls keep a workspace consistent, by induction on them. -/
theorem Consistent.run {w : Workspace} (h : w.Consistent) (calls : List Call) :
    (w.run calls).Consistent := by
  induction calls generalizing w with
  | nil => exact h
  | cons c calls ih => exact ih (h.does (w.does_step c))

/-- After any run of calls there is an active document exactly if one is open, and it is open.  A
document that is not open can be neither closed nor activated, and the call changes nothing.  One
that is open can be closed: that gives up the first of its places and no other, and another document
than the closed one stays active. -/
theorem run_consistent (ds : List Nat) (calls : List Call) :
    let w := (ofDocuments (ds.map some)).run calls
    (w.active = none ↔ w.documents = []) ∧ (w.active ≠ none → w.active ∈ w.documents) ∧
    ∀ d : Nat,
      (some d ∉ w.documents → w.step (.closeDoc d) = (w, some .notListed) ∧
        ∀ shown, w.step (.setActive d shown) = (w, some (.notOpen shown))) ∧
      (some d ∈ w.documents → ∃ before after, w.documents = before ++ some d :: after ∧
        some d ∉ before ∧ ∃ w', w.step (.closeDoc d) = (w', none) ∧
          w'.documents = before ++ after ∧ (w'.active ≠ w.active → w.active = some d)) := by
  intro w
  have h : w.Consistent := (consistent_ofDocuments ds).run calls
  refine ⟨h.active_eq_none_iff, fun hactive => h.active.resolve_left fun hnone => hactive hnone.1,
    fun d => ⟨fun hclosed => ?_, fun hopen => ?_⟩⟩
  · refine ⟨by rw [step, closeDoc_of_not_mem hclosed, settle], fun shown => ?_⟩
    rw [step, setActive_of_not_mem hclosed, settle]
  · obtain ⟨before, after, hdocuments, hfirst, hstep⟩ := step_closeDoc hopen
    refine ⟨before, after, hdocuments, hfirst, _, hstep, rfl, fun hchanged => ?_⟩
    by_contra hactive
    exact hchanged (if_neg hactive)

/-- A document that is open twice and active is closed once: its other place is kept, and it stays
active. -/
theorem run_consistent_open_twice :
    let w := (ofDocuments [some 0, some 1, some 0]).run [.closeDoc 1, .setActive 0 ""]
    some 0 ∈ w.documents ∧ some 1 ∉ w.documents ∧ w.step (.closeDoc 1) = (w, some .notListed) ∧
      ∃ before after, w.documents = before ++ some 0 :: after ∧ some 0 ∉ before ∧
        ∃ w', w.step (.closeDoc 0) = (w', none) ∧ w'.documents = before ++ after ∧
          (w'.active ≠ w.active → w.active = some 0) := by
  intro w
  have hopen : some 0 ∈ w.documents := by decide
  have hclosed : some 1 ∉ w.documents := by decide
  obtain ⟨-, -, hcalls⟩ := run_consistent [0, 1, 0] [.closeDoc 1, .setActive 0 ""]
  exact ⟨hopen, hclosed, ((hcalls 1).1 hclosed).1, (hcalls 0).2 hopen⟩

end Marginalia.Workspace
