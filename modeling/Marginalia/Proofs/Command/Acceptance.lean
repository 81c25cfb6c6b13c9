import Marginalia.Proofs.Command.Scanning
import Marginalia.Proofs.Config.Loading

/-!
# Configurations that the commands accept

The command that lists kinds builds a registry directly, and the command that scans files checks that
the configuration is complete and leaves the rest to a session.  Both come to the same verdict on a
configuration: it is accepted, it is refused for a reason, or reading it or building from it fails.
A configuration that is not accepted makes both end with the code of an error, and in the same way.

With one that is accepted they still have to show something, the one its kinds and the other what it
has found, and where a command cannot show it, it fails, which gives the process the code of an error
as well.  So the codes of the two agree unless just one of them fails to show something
(`kinds_code_iff_scan_code`).
-/

namespace Marginalia.Command

/-! ## Verdicts -/

/-- What a command makes of a configuration. -/
inductive Verdict
  | accepted (config : Config) (registry : Registry)
  | refused (reason : Refusal)
  | failed (failure : Failure)

/-- Does a command report the error and end? -/
def isReported : LoadError → Bool
  | .notFound _ => true
  | .invalid _ => true
  | _ => false

/-- The verdict on a configuration that was loaded. -/
def verdictOn (c : Config) : Verdict :=
  match (rebuild c.annotations c.languages (some {}) none).result with
  | .ok r => .accepted c r
  | .error (.rejected e) => .refused (.registry e)
  | .error e => .failed (.rebuild e)

/-- The verdict on the configuration that is asked for. -/
def verdict (fs : Files) (asked : Option String) : Verdict :=
  match Config.load fs (asked.map Path.ofString) with
  | .ok c => verdictOn c
  | .error e => if isReported e then .refused (.load e) else .failed (.load e)

/-- How a verdict comes about. -/
inductive Judged (fs : Files) (asked : Option String) : Verdict → Prop
  | accepted {c : Config} {r : Registry}
      (hload : Config.load fs (asked.map Path.ofString) = .ok c)
      (hr : (rebuild c.annotations c.languages (some {}) none).result = .ok r) :
      Judged fs asked (.accepted c r)
  | notLoaded {e : LoadError} (hload : Config.load fs (asked.map Path.ofString) = .error e)
      (hreported : isReported e = true) : Judged fs asked (.refused (.load e))
  | rejected {c : Config} {e : RegistryError}
      (hload : Config.load fs (asked.map Path.ofString) = .ok c)
      (hr : (rebuild c.annotations c.languages (some {}) none).result = .error (.rejected e)) :
      Judged fs asked (.refused (.registry e))
  | notRead {e : LoadError} (hload : Config.load fs (asked.map Path.ofString) = .error e)
      (hreported : isReported e = false) : Judged fs asked (.failed (.load e))
  | notBuilt {c : Config} {e : RebuildError}
      (hload : Config.load fs (asked.map Path.ofString) = .ok c)
      (hr : (rebuild c.annotations c.languages (some {}) none).result = .error e)
      (hrejected : ∀ reason, e ≠ .rejected reason) : Judged fs asked (.failed (.rebuild e))

/-- Every configuration comes to one of these verdicts. -/
theorem judged (fs : Files) (asked : Option String) : Judged fs asked (verdict fs asked) := by
  unfold verdict
  split
  · rename_i c hload
    unfold verdictOn
    split
    · rename_i r hr
      exact .accepted hload hr
    · rename_i e hr
      exact .rejected hload hr
    · rename_i e hrejected hr
      exact .notBuilt hload hr hrejected
  · rename_i e hload
    by_cases hreported : isReported e = true
    · rw [if_pos hreported]
      exact .notLoaded hload hreported
    · rw [if_neg hreported]
      exact .notRead hload (Bool.eq_false_iff.mpr hreported)

/-- A configuration that loads is used. -/
theorem loadConfig_ok {fs : Files} {a : Arguments} {c : Config}
    (h : Config.load fs ((a.value? configOption.key).map Path.ofString) = .ok c) :
    loadConfig fs a = pure c := by
  rw [loadConfig, h]

/-- One that does not load is reported, or the failure escapes. -/
theorem loadConfig_error {fs : Files} {a : Arguments} {e : LoadError}
    (h : Config.load fs ((a.value? configOption.key).map Path.ofString) = .error e) :
    loadConfig fs a =
      if isReported e then errorExit (a.has jsonOption.key) (Refusal.load e).message
      else fail (.load e) := by
  rw [loadConfig, h]
  cases e with
  | _ => rfl

/-- Nothing comes after an error message. -/
theorem errorExit_bind {α β : Type} (json : Bool) (message : String) (f : α → Action β) :
    (errorExit json message >>= f) = errorExit json message := by
  cases json with
  | true => rfl
  | false => exact bind_assoc _ _ _

/-- Nothing comes after a failure. -/
theorem fail_bind {α β : Type} (failure : Failure) (f : α → Action β) :
    (fail failure >>= f) = fail failure := rfl

/-! ## Listing kinds -/

/-- Shows the registry of a configuration in the form that the arguments ask for. -/
def showRegistry (a : Arguments) (c : Config) (r : Registry) : Action Unit := do
  if a.has jsonOption.key then printJson (registryEntry c r)
  else
    print (← rendered (Console.printAccented consoleWidth (sourceLine c)))
    let rows ← orFail (r.kinds.mapM kindRow) fun e => .display (.style e)
    print (({ columns := kindColumns, rows } : Report.Grid).boxed consoleWidth)
    if a.has "languages" then
      let languages := r.languages.map (·.language)
      let ids ← rendered
        (Markup.shownCells (languages.map fun l => (", ".intercalate l.ids).toList))
      let rows := (ids.zip languages).map fun (ids, l) => languageRow ids l
      print (({ columns := languageColumns, rows } : Report.Grid).boxed consoleWidth)

/-- Listing the kinds does what the verdict says. -/
theorem listKinds_eq (fs : Files) (a : Arguments) :
    listKinds fs a = match verdict fs (a.value? configOption.key) with
      | .accepted c r => showRegistry a c r
      | .refused reason => errorExit (a.has jsonOption.key) reason.message
      | .failed f => fail f := by
  have hsteps : listKinds fs a = loadConfig fs a >>= fun c =>
      buildRegistry (a.has jsonOption.key) c >>= showRegistry a c := rfl
  rw [hsteps]
  -- Nothing comes after an error message or a failure, so that the first step with one decides.
  have hjudged := judged fs (a.value? configOption.key)
  generalize verdict fs (a.value? configOption.key) = v at hjudged
  cases hjudged with
  | accepted hload hr =>
    rw [loadConfig_ok hload, pure_bind, buildRegistry, hr]
    exact pure_bind _ _
  | notLoaded hload hreported =>
    rw [loadConfig_error hload, if_pos hreported]
    exact errorExit_bind _ _ _
  | rejected hload hr =>
    rw [loadConfig_ok hload, pure_bind, buildRegistry, hr]
    exact errorExit_bind _ _ _
  | notRead hload hreported =>
    rw [loadConfig_error hload, if_neg (Bool.eq_false_iff.mp hreported)]
    exact fail_bind _ _
  | @notBuilt _ e hload hr hrejected =>
    rw [loadConfig_ok hload, pure_bind, buildRegistry, hr]
    cases e with
    | rejected reason => exact absurd rfl (hrejected reason)
    | _ => exact fail_bind _ _

section

open Command.Action

/-- With a registry at hand, all that can go wrong is to show it. -/
theorem showRegistry_onlyShows (a : Arguments) (c : Config) (r : Registry) :
    (showRegistry a c r).OnlyShows := by
  unfold showRegistry
  split
  · exact printJson_onlyShows _
  · refine (OnlyShows.orFail _ fun _ => rfl).bind fun _ => (OnlyShows.print _).bind fun _ =>
      (OnlyShows.orFail _ fun _ => rfl).bind fun _ => (OnlyShows.print _).bind fun _ => ?_
    split
    · exact (OnlyShows.orFail _ fun _ => rfl).bind fun _ => .print _
    · exact .pure ()

end

/-! ## Scanning -/

/-- A configuration that is not complete is refused. -/
theorem rebuild_of_incomplete {c : Config} (h : c.isComplete = false) :
    ∃ name, (rebuild c.annotations c.languages (some {}) none).result =
      .error (.rejected (.sectionMissing name)) := by
  unfold rebuild Plan.of
  by_cases hannotations : c.annotations.isPresent = true
  · have hlanguages : c.languages.isPresent = false := by
      rw [Config.isComplete, hannotations, Bool.true_and] at h
      exact h
    rw [hannotations, hlanguages]
    exact ⟨_, rfl⟩
  · rw [Bool.not_eq_true] at hannotations
    rw [hannotations]
    exact ⟨_, rfl⟩

section

variable (documents : List Document) {c : Config}

/-- The first step of a session whose configuration is complete but refused. -/
theorem step_start_refused {e : RegistryError} (hcomplete : c.isComplete = true)
    (hr : (rebuild c.annotations c.languages (some {}) none).result = .error (.rejected e)) :
    let s := (sessionOver documents c).step .start
    s.result = .ok (.generation none) ∧ s.session.registry = none ∧
      s.session.lastError = some (.registry e) := by
  intro s
  have hs : s = (sessionOver documents c).reload := rfl
  rw [hs, Session.reload]
  simp only [sessionOver, Session.new, hcomplete, if_true, Session.rebuildFrom]
  rw [hr]
  exact ⟨rfl, rfl, rfl⟩

/-- A failure that is no refusal escapes from the start of a session. -/
theorem step_start_failed {e : RebuildError} (hcomplete : c.isComplete = true)
    (hr : (rebuild c.annotations c.languages (some {}) none).result = .error e)
    (hrejected : ∀ reason, e ≠ .rejected reason) :
    ((sessionOver documents c).step .start).result = .error (.rebuild e) := by
  change (Session.reload _).result = _
  unfold Session.reload
  simp only [sessionOver, Session.new, hcomplete, if_true, Session.rebuildFrom]
  rw [hr]
  cases e with
  | rejected reason => exact absurd rfl (hrejected reason)
  | _ => rfl

end

section

variable {fs : Files} {a : Arguments}

/-- A scan with a configuration that is refused ends with an error message.  It is the reason, unless
that is a section that is missing. -/
theorem run_scanFiles_refused (hfiles : a.operands ≠ []) {reason : Refusal}
    (h : Judged fs (a.value? configOption.key) (.refused reason)) :
    ∃ message stderr, (scanFiles fs a).run {} =
        (errorExit (a.has jsonOption.key) message : Action Unit).run { stderr } ∧
      ((∀ name, reason ≠ .registry (.sectionMissing name)) → message = reason.message) := by
  cases h with
  | notLoaded hload hreported =>
    refine ⟨_, "", ?_, fun _ => rfl⟩
    rw [scanFiles_eq hfiles, loadConfig_error hload, if_pos hreported, errorExit_bind]
  | @rejected c e hload hr =>
    by_cases hcomplete : c.isComplete = true
    · -- The session refuses the configuration for the same reason, and keeps it.
      obtain ⟨opened, hopened⟩ := run_scanFiles_complete hfiles hload hcomplete
      obtain ⟨hresult, hregistry, hreason⟩ :=
        step_start_refused (readable fs (a.value? "language") a.operands) hcomplete hr
      obtain ⟨warnings, hwarned, heq⟩ := startSession_eq hresult (a.has jsonOption.key) c
      obtain ⟨stderr, hwarned⟩ := hwarned { stderr := opened }
      refine ⟨e.message, stderr, ?_, fun _ => rfl⟩
      rw [hopened, heq, hregistry, hreason, bind_assoc, run_bind_ok hwarned]
      exact congrArg (fun x : Action Unit => x.run { stderr }) (errorExit_bind _ _ _)
    · -- A scan looks for missing sections by itself, and has its own words for them.
      rw [Bool.not_eq_true] at hcomplete
      obtain ⟨name, hmissing⟩ := rebuild_of_incomplete hcomplete
      cases hr.symm.trans hmissing
      refine ⟨configPath c ++ ": no '" ++ missingSection c ++ "' section", "", ?_,
        fun hother => absurd rfl (hother name)⟩
      rw [scanFiles_eq hfiles, loadConfig_ok hload, pure_bind, hcomplete]
      exact congrArg (fun x : Action Unit => x.run {}) (errorExit_bind _ _ _)

/-- A failure on the way to a registry ends a scan. -/
theorem run_scanFiles_failed (hfiles : a.operands ≠ []) {f : Failure}
    (h : Judged fs (a.value? configOption.key) (.failed f)) :
    ∃ stderr, (scanFiles fs a).run {} = (.error (.failed f), { stderr }) := by
  cases h with
  | notRead hload hreported =>
    refine ⟨"", ?_⟩
    rw [scanFiles_eq hfiles, loadConfig_error hload, if_neg (Bool.eq_false_iff.mp hreported),
      fail_bind]
    rfl
  | @notBuilt c e hload hr hrejected =>
    -- What is not complete is refused, and so would not come as far as this.
    have hcomplete : c.isComplete = true := by
      by_contra hincomplete
      obtain ⟨name, hmissing⟩ := rebuild_of_incomplete (Bool.eq_false_iff.mpr hincomplete)
      exact hrejected _ (Except.error.inj (hr.symm.trans hmissing))
    obtain ⟨stderr, hopened⟩ := run_scanFiles_complete hfiles hload hcomplete
    refine ⟨stderr, ?_⟩
    rw [hopened, startSession]
    simp only [step_start_failed _ hcomplete hr hrejected, fail_bind]
    rfl

end

/-! ## How the commands end -/

/-- A reported error ends with the code for errors. -/
theorem status_errorExit (json : Bool) (message : String) (o : Output) :
    (Result.of ((errorExit json message : Action Unit).run o)).status = .exited errorCode := by
  obtain ⟨o', hrun⟩ := run_errorExit (α := Unit) json message o
  rw [hrun]
  rfl

/-- An error message in JSON is all that is printed on the first channel. -/
theorem stdout_errorExit (message : String) :
    ∃ text, Report.json 0 (.table [("error", .str message)]) = .ok text ∧
      ∀ stderr, (Result.of ((errorExit true message : Action Unit).run { stderr })).output.stdout =
        text ++ "\n" :=
  ⟨_, rfl, fun _ => String.empty_append⟩

/-- A command that only shows something exits with the code zero, unless it fails to show it. -/
theorem status_of_onlyShows {x : Action Unit} (hx : x.OnlyShows) :
    x.result.status = .exited 0 ∨ ∃ f, f.isShowing = true ∧ x.result.status = .failed f := by
  have hlast : (x >>= fun _ => exitIf false) = x := bind_pure_unit
  have hstatus := status_of_exitIf hx false {}
  rw [hlast] at hstatus
  exact hstatus

/-- How a command ends that has come to a verdict. -/
inductive Verdict.Ends : Verdict → Status → Prop
  | shown {c : Config} {r : Registry} : Ends (.accepted c r) (.exited 0)
  | notShown {c : Config} {r : Registry} {f : Failure} (h : f.isShowing = true) :
      Ends (.accepted c r) (.failed f)
  | refused {reason : Refusal} : Ends (.refused reason) (.exited errorCode)
  | failed {f : Failure} (h : f.isShowing = false) : Ends (.failed f) (.failed f)

namespace Verdict.Ends

variable {v : Verdict} {s t : Status}

/-- After an accepted configuration only showing can fail. -/
theorem of_status {c : Config} {r : Registry}
    (h : s = .exited 0 ∨ ∃ f, f.isShowing = true ∧ s = .failed f) : Ends (.accepted c r) s := by
  obtain rfl | ⟨f, hf, rfl⟩ := h
  · exact .shown
  · exact .notShown hf

/-- A command ends with the code of an error unless its configuration is accepted and it has shown
what there is to show. -/
theorem code_iff (h : v.Ends s) :
    s.code = errorCode ↔ (∀ c r, v ≠ .accepted c r) ∨ s.failsShowing = true := by
  cases h with
  | shown => simp [Status.code, Status.failsShowing, errorCode]
  | notShown hf => simp [Status.code, Status.failsShowing, hf]
  | refused => simp [Status.code]
  | failed => simp [Status.code]

/-- Only an accepted configuration is shown. -/
theorem not_failsShowing (h : v.Ends s) (hv : ∀ c r, v ≠ .accepted c r) :
    s.failsShowing = false := by
  cases h with
  | shown => exact absurd rfl (hv _ _)
  | notShown => exact absurd rfl (hv _ _)
  | refused => rfl
  | failed hf => exact hf

/-- Two commands that have come to one verdict end with codes that agree, unless just one of them
fails to show something. -/
theorem codes_agree_iff (h : v.Ends s) (h' : v.Ends t) :
    (s.code = errorCode ↔ t.code = errorCode) ↔ s.failsShowing = t.failsShowing := by
  rw [h.code_iff, h'.code_iff]
  by_cases hv : ∀ c r, v ≠ .accepted c r
  · rw [h.not_failsShowing hv, h'.not_failsShowing hv]
    simp [hv]
  · rw [or_iff_right hv, or_iff_right hv]
    exact Bool.eq_iff_iff.symm

end Verdict.Ends

/-- No failure on the way to a registry is one of showing something. -/
theorem Judged.not_isShowing {fs : Files} {asked : Option String} {f : Failure}
    (h : Judged fs asked (.failed f)) : f.isShowing = false := by
  cases h with
  | notRead => rfl
  | notBuilt => rfl

section

variable {fs : Files} {a : Arguments} {line : List String}

/-- Listing the kinds ends as the verdict says. -/
theorem kinds_ends (h : kindsEntry.Takes line a) :
    (verdict fs (a.value? configOption.key)).Ends (runLine fs ("kinds" :: line)).status := by
  have hline : runLine fs ("kinds" :: line) = (listKinds fs a).result :=
    runLine_of_takes (List.mem_cons_of_mem _ List.mem_cons_self) h fs
  rw [hline, listKinds_eq]
  have hjudged := judged fs (a.value? configOption.key)
  generalize verdict fs (a.value? configOption.key) = v at hjudged
  cases v with
  | accepted c r => exact .of_status (status_of_onlyShows (showRegistry_onlyShows a c r))
  | refused reason =>
    rw [result_eq, status_errorExit]
    exact .refused
  | failed f => exact .failed hjudged.not_isShowing

/-- So does a scan that no kind makes fail. -/
theorem scan_ends (h : scanEntry.Takes line a) (hfiles : a.operands ≠ [])
    (hfail : a.values "fail-on" = []) :
    (verdict fs (a.value? configOption.key)).Ends (runLine fs ("scan" :: line)).status := by
  have hline : runLine fs ("scan" :: line) = (scanFiles fs a).result :=
    runLine_of_takes List.mem_cons_self h fs
  rw [hline]
  have hjudged := judged fs (a.value? configOption.key)
  generalize verdict fs (a.value? configOption.key) = v at hjudged
  cases v with
  | accepted c r =>
    obtain ⟨hload, hr⟩ := hjudged
    have hnone : fails a (allFindings fs r a) = false := by
      simp [fails, hfail]
    have hstatus := scanFiles_status hfiles hload hr
    rw [hnone] at hstatus
    exact .of_status hstatus
  | refused reason =>
    obtain ⟨message, stderr, hrun, -⟩ := run_scanFiles_refused hfiles hjudged
    rw [result_eq, hrun, status_errorExit]
    exact .refused
  | failed f =>
    obtain ⟨stderr, hrun⟩ := run_scanFiles_failed hfiles hjudged
    rw [result_eq, hrun]
    exact .failed hjudged.not_isShowing

end

/-- The command that lists kinds and a scan that is not to fail on a kind come to one verdict on a
configuration: if it is refused both exit with the code of an error, if reading it or building from it
fails both end in that failure, and if it is accepted each exits with the code zero or fails to show
something.  So the codes of the processes agree unless just one of the two fails to show something.
Except for a section that is missing, both print the reason why a registry is refused in the same form
in JSON.

The configuration is nested no deeper than the limit, and extraction ends on the files, or there would
be no code at all. -/
theorem kinds_code_iff_scan_code {fs : Files} {line line' : List String} {a b : Arguments}
    (hkinds : kindsEntry.Takes line a) (hscan : scanEntry.Takes line' b)
    (hfiles : b.operands ≠ []) (hfail : b.values "fail-on" = [])
    (hconfig : b.value? configOption.key = a.value? configOption.key)
    (_ : ∀ path bytes, Config.Chosen fs ((a.value? configOption.key).map Path.ofString) path →
      fs.look path = .file bytes → Config.isShallow bytes = true)
    (_ : ∀ c r, verdict fs (a.value? configOption.key) = .accepted c r →
      ∀ d ∈ readable fs (b.value? "language") b.operands, r.EndsOn d) :
    let kinds := runLine fs ("kinds" :: line)
    let scan := runLine fs ("scan" :: line')
    let asked := a.value? configOption.key
    (verdict fs asked).Ends kinds.status ∧ (verdict fs asked).Ends scan.status ∧
    ((kinds.status.code = errorCode ↔ scan.status.code = errorCode) ↔
      kinds.status.failsShowing = scan.status.failsShowing) ∧
    ∀ e, verdict fs asked = .refused (.registry e) → (∀ name, e ≠ .sectionMissing name) →
      a.has jsonOption.key = true → b.has jsonOption.key = true →
      ∃ text, Report.json 0 (.table [("error", .str e.message)]) = .ok text ∧
        kinds.output.stdout = text ++ "\n" ∧ scan.output.stdout = text ++ "\n" := by
  intro kinds scan asked
  have hkinds_result : kinds = (listKinds fs a).result :=
    runLine_of_takes (List.mem_cons_of_mem _ List.mem_cons_self) hkinds fs
  have hscan_result : scan = (scanFiles fs b).result :=
    runLine_of_takes List.mem_cons_self hscan fs
  have hkinds_ends : (verdict fs asked).Ends kinds.status := kinds_ends hkinds
  have hscan_ends : (verdict fs asked).Ends scan.status := by
    have hends : (verdict fs (b.value? configOption.key)).Ends scan.status :=
      scan_ends hscan hfiles hfail
    rwa [hconfig] at hends
  refine ⟨hkinds_ends, hscan_ends, hkinds_ends.codes_agree_iff hscan_ends,
    fun e hrefused hother hjson hjson' => ?_⟩
  have hjudged : Judged fs (b.value? configOption.key) (verdict fs asked) :=
    hconfig ▸ judged fs asked
  rw [hrefused] at hjudged
  obtain ⟨message, stderr, hrun, hmessage⟩ := run_scanFiles_refused hfiles hjudged
  obtain rfl := hmessage fun name h => hother name (Refusal.registry.inj h)
  obtain ⟨text, htext, hstdout⟩ := stdout_errorExit e.message
  refine ⟨text, htext, ?_, ?_⟩
  · rw [hkinds_result, listKinds_eq, hrefused, hjson]
    exact hstdout ""
  · rw [hscan_result, result_eq, hrun, hjson']
    exact hstdout stderr

/-- A configuration with a kind whose name is a number. -/
def misnamedConfig : List UInt8 :=
  "annotations=[\x7bname=\"1\",pattern=\"x\"\x7d]\nlanguages=[]".toUTF8.toList

/-- The configuration and a file. -/
def misnamedFiles : Files := FileTree.toFiles
  { root := "/", files := [(["config"], misnamedConfig), (["found"], "x".toUTF8.toList)] }

/-- Both commands refuse the name, and print the same about it. -/
theorem kinds_code_iff_scan_code_misnamed :
    let kinds := runLine misnamedFiles ["kinds", "--config", "config", "--json"]
    let scan := runLine misnamedFiles ["scan", "found", "--config", "config", "--json"]
    kinds.status.code = errorCode ∧ scan.status.code = errorCode ∧
      kinds.output.stdout = scan.output.stdout := by
  have hverdict : ∃ e, verdict misnamedFiles (some "config") = .refused (.registry e) ∧
      ∀ name, e ≠ .sectionMissing name := by
    have hvalue : (match verdict misnamedFiles (some "config") with
        | .refused (.registry (.invalidName _)) => true
        | _ => false) = true := by decide +kernel
    split at hvalue
    · rename_i v hrefused
      exact ⟨.invalidName v, hrefused, nofun⟩
    · cases hvalue
  obtain ⟨e, hrefused, hother⟩ := hverdict
  have hkinds : kindsEntry.Takes ["--config", "config", "--json"]
      { options := [("config", "config"), ("json", "")], operands := [] } :=
    ⟨by decide +kernel, by decide +kernel, .inr rfl⟩
  have hscan : scanEntry.Takes ["found", "--config", "config", "--json"]
      { options := [("config", "config"), ("json", "")], operands := ["found"] } :=
    ⟨by decide +kernel, by decide +kernel, .inl rfl⟩
  have hfile : misnamedFiles.look (Path.ofString "config") = .file misnamedConfig := by
    decide +kernel
  have hshallow : Config.isShallow misnamedConfig = true := by decide +kernel
  obtain ⟨hends, hends', -, hprinted⟩ :=
    @kinds_code_iff_scan_code misnamedFiles _ _ _ _ hkinds hscan nofun rfl rfl
      (by
        rintro path bytes (hpath | ⟨hpath, -⟩) hbytes
        · cases hpath
          cases hfile.symm.trans hbytes
          exact hshallow
        · cases hpath)
      fun c r haccepted => absurd (hrefused.symm.trans haccepted) nofun
  have hrefused' : ∀ c r, verdict misnamedFiles (some "config") ≠ .accepted c r :=
    fun c r haccepted => absurd (hrefused.symm.trans haccepted) nofun
  obtain ⟨text, -, hstdout, hstdout'⟩ := hprinted e hrefused hother rfl rfl
  exact ⟨hends.code_iff.mpr (.inl hrefused'), hends'.code_iff.mpr (.inl hrefused'),
    hstdout.trans hstdout'.symm⟩

/-- A configuration with a colour that cannot be read, a file with an annotation and one without. -/
def unreadableColour : Files := FileTree.toFiles
  { root := "/"
    files := [(["config"],
        ("annotations=[\x7bname=\"K\",pattern=\"k\",color=\"rgb(1,,2)\"\x7d]\n" ++
          "languages=[\x7blanguageIds=[\"c\"],lineComments=[\"#.*\"]\x7d]").toUTF8.toList),
      (["a.c"], "#k".toUTF8.toList), (["b.c"], "#".toUTF8.toList)] }

/-- The command that lists kinds fails because of the colour, while a scan of the file without an
annotation does not come to need it; and a scan of the other file fails because of the colour, which
does not keep the kinds from being listed as JSON. -/
theorem kinds_and_scan_disagree :
    (runLine unreadableColour ["kinds", "--config", "config"]).status.code = errorCode ∧
      (runLine unreadableColour ["scan", "b.c", "--config", "config"]).status.code = 0 ∧
      (runLine unreadableColour ["kinds", "--config", "config", "--json"]).status.code = 0 ∧
      (runLine unreadableColour ["scan", "a.c", "--config", "config"]).status.code = errorCode := by
  refine ⟨?_, ?_, ?_, ?_⟩ <;> decide +kernel

end Marginalia.Command
