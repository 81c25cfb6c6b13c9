import Marginalia.Files.Tree
import Marginalia.Proofs.Command.Reporting
import Marginalia.Proofs.Findings.Listing

/-!
# What a scan does with its files

A scan opens the files that can be read, starts a session over them, and lists their findings.  None
of this can fail once the configuration is accepted, and it only prints warnings
(`run_scanFiles_accepted`).  What is left is to show the findings, which may fail but never ends the
command with a code (`showFindings_onlyShows`), and to end with the code of an error if there is an
annotation of a kind asked for.  So the code of a scan is settled by the annotations of its files
alone (`scan_exit_code`).
-/

namespace Marginalia.Command

/-! ## Opening files -/

/-- The language of a file: the one asked for, or if that is empty or none is, the one that its path
suggests. -/
def languageOf (asked : Option String) (p : Path) : String :=
  match asked with
  | some language => if language.isEmpty then guessLanguage p else language
  | none => guessLanguage p

/-- The text of a file with the given bytes. -/
def textOf (bytes : List UInt8) : List Char := Text.unifyLineEnds (Text.decodeLossy bytes)

/-- The document of a file with the given bytes. -/
def documentOf (language : Option String) (p : Path) (bytes : List UInt8) : Document :=
  { text := some (String.ofList (textOf bytes)), language := languageOf language p, uri := p.text }

/-- A document is what is read of a file. -/
theorem ofPath_eq (fs : Files) (p : Path) (language : Option String) :
    Document.ofPath fs p language = (fs.read p).map (documentOf language p) := by
  unfold Document.ofPath
  cases fs.read p with
  | error e => rfl
  | ok bytes => rfl

/-- It has the text of the file. -/
theorem documentOf_chars (language : Option String) (p : Path) (bytes : List UInt8) :
    (documentOf language p bytes).chars = textOf bytes := String.toList_ofList

/-- The documents of the files that can be read, in order. -/
def readable (fs : Files) (language : Option String) (files : List String) : List Document :=
  files.filterMap fun file => (Document.ofPath fs (Path.ofString file) language).toOption

/-- A file that can be read comes first. -/
theorem readable_cons_ok {fs : Files} {language : Option String} {file : String} {d : Document}
    (h : Document.ofPath fs (Path.ofString file) language = .ok d) (files : List String) :
    readable fs language (file :: files) = d :: readable fs language files := by
  rw [readable, List.filterMap_cons_some (by rw [h]; rfl)]
  rfl

/-- A file that cannot be read is left out. -/
theorem readable_cons_error {fs : Files} {language : Option String} {file : String}
    {e : FileError} (h : Document.ofPath fs (Path.ofString file) language = .error e)
    (files : List String) :
    readable fs language (file :: files) = readable fs language files := by
  rw [readable, List.filterMap_cons_none (by rw [h]; rfl)]
  rfl

/-- The documents are those of the files that can be read. -/
theorem mem_readable {fs : Files} {language : Option String} {files : List String} {d : Document} :
    d ∈ readable fs language files ↔ ∃ file ∈ files, ∃ bytes,
      fs.read (Path.ofString file) = .ok bytes ∧ d = documentOf language (Path.ofString file) bytes := by
  rw [readable, List.mem_filterMap]
  refine exists_congr fun file => and_congr_right fun _ => ?_
  rw [ofPath_eq]
  cases fs.read (Path.ofString file) with
  | error e => exact ⟨nofun, nofun⟩
  | ok bytes => simp [Except.map, Except.toOption, eq_comm]

example : (readable (FileTree.toFiles { root := "/", files := [(["a"], []), (["b"], [])] }) none
    ["a", "gone", "b"]).length = 2 := by decide +kernel

/-- A document that was read has a text. -/
theorem hasText_of_mem_readable {fs : Files} {language : Option String} {files : List String}
    {d : Document} (h : d ∈ readable fs language files) : d.HasText := by
  obtain ⟨file, -, bytes, -, rfl⟩ := mem_readable.mp h
  exact ⟨rfl, rfl⟩

/-- Opening files warns about those that cannot be read, and opens the others. -/
theorem openFiles_returns (fs : Files) (language : Option String) (files : List String) :
    (openFiles fs language files).Returns (readable fs language files) := by
  induction files with
  | nil => exact .pure []
  | cons file files ih =>
    unfold openFiles
    dsimp only
    cases hfile : Document.ofPath fs (Path.ofString file) language with
    | ok d =>
      rw [readable_cons_ok hfile]
      exact ih.bind (.pure _)
    | error e =>
      rw [readable_cons_error hfile]
      exact (warn_returns _).bind ih

/-! ## Starting a session -/

theorem map_snd_zip_references (documents : List Document) :
    (documents.zip (references documents)).map Prod.snd = references documents :=
  List.map_snd_zip (by simp [references])

/-- Each document is found by its reference. -/
theorem docAt_of_mem_zip {documents : List Document} {e : Document × DocRef}
    (he : e ∈ documents.zip (references documents)) :
    Session.docAt (documents.map some) e.2 = some e.1 ∧ e.1 ∈ documents := by
  obtain ⟨i, hi, rfl⟩ := List.mem_iff_getElem.mp he
  rw [List.length_zip, references, List.length_map, List.length_range, Nat.min_self] at hi
  rw [List.getElem_zip]
  refine ⟨?_, List.getElem_mem hi⟩
  simp [Session.docAt, references, hi]

/-- References do not matter for what is made of documents. -/
theorem flatMap_zip_references {α : Type} (documents : List Document) (f : Document → List α) :
    ((documents.zip (references documents)).flatMap fun e => f e.1) = documents.flatMap f := by
  rw [← List.flatMap_map, List.map_fst_zip (by simp [references])]

/-- The start of a session that does not fail prints warnings, and after them there is a registry or
else an error message. -/
theorem startSession_eq {s : Session} {outcome : Session.Outcome}
    (hresult : (s.step .start).result = .ok outcome) (json : Bool) (c : Config) :
    ∃ warnings : Action PUnit, warnings.Returns () ∧ startSession json s c = warnings >>= fun _ =>
      match (s.step .start).session.registry with
      | some r => pure ((s.step .start).session, r)
      | none => errorExit json (((s.step .start).session.lastError.map Refusal.message).getD
          "no annotations configured") := by
  have hwarned {ω : Type} (message : ω → String) (ws : List ω) :
      (ws.forM fun w => warn (message w)).Returns () := .forM (fun w => warn_returns (message w)) ws
  refine ⟨do
    (patternWarnings c.annotations c.languages).forM fun w => warn w.message
    (s.step .start).warnings.forM fun w => warn w.message, (hwarned _ _).bind (hwarned _ _), ?_⟩
  unfold startSession
  simp only [hresult]
  exact (bind_assoc _ _ _).symm

/-- The start of a session returns its registry, if there is one by then. -/
theorem startSession_returns {json : Bool} {s : Session} {c : Config} {r : Registry}
    {outcome : Session.Outcome} (hresult : (s.step .start).result = .ok outcome)
    (hregistry : (s.step .start).session.registry = some r) :
    (startSession json s c).Returns ((s.step .start).session, r) := by
  obtain ⟨warnings, hwarned, heq⟩ := startSession_eq hresult json c
  rw [heq, hregistry]
  exact hwarned.bind (.pure _)

/-- A session whose configuration can be built starts without an error. -/
theorem step_start_result {documents : List (Option Document)} {w : Workspace} {c : Config}
    {r : Registry} (hr : (rebuild c.annotations c.languages (some {}) none).result = .ok r) :
    ((Session.new documents w (.ok c)).step .start).result =
      .ok (.generation (some r.generation)) := by
  change (Session.reload _).result = _
  unfold Session.reload
  simp only [Session.new, isComplete_of_rebuild hr, if_true, Session.rebuildFrom]
  rw [hr]
  rfl

/-! ## Scanning and showing -/

/-- What a scan reports as JSON. -/
def scanReport (files : Nat) (found : List Finding) : Value :=
  .table [("files", .int files), ("total", .int found.length),
    ("annotations", .list (found.map findingEntry))]

/-- Prints how many findings there are, and in how many documents. -/
def printCount (documents : List Document) (found : List Finding) : Action Unit :=
  print ("\n" ++ toString found.length ++ " annotations in " ++ toString documents.length ++
    " files\n")

/-- Shows the findings of documents in the form that the arguments ask for. -/
def showFindings (a : Arguments) (sink : Sink) (documents : List Document) (found : List Finding) :
    Action Unit :=
  if a.has jsonOption.key then printJson (scanReport documents.length found)
  else if a.has "show" then showAll sink (documents.zip (references documents))
  else do
    if !found.isEmpty then printFindings sink found
    printCount documents found

/-- All findings of a scan with a registry. -/
def allFindings (fs : Files) (r : Registry) (a : Arguments) : List Finding :=
  (readable fs (a.value? "language") a.operands).flatMap r.findingsOf

/-- The findings of the kinds that the arguments ask for. -/
def wantedFindings (a : Arguments) (all : List Finding) : List Finding :=
  all.filter fun f => isWanted (a.values "kind") f.kind

/-- Is there a finding of a kind on which the command is to fail? -/
def fails (a : Arguments) (all : List Finding) : Bool :=
  all.any fun f => (a.values "fail-on").contains f.kind

/-- Ends the command with the code of an error if the condition holds. -/
def exitIf (condition : Bool) : Action Unit :=
  if condition then throw (.exit errorCode) else pure ()

/-- The part of a scan that comes after the start of its session. -/
def finishScan (a : Arguments) (documents : List Document) (s : Session) (r : Registry) :
    Action Unit := do
  let unknown := unknownKinds (a.values "kind" ++ a.values "fail-on") r
  if !unknown.isEmpty then warn ("unknown annotation kinds: " ++ ", ".intercalate unknown)
  let all ← orFail (s.sink.findings [] (documents.zip (references documents))) .scan
  showFindings a s.sink documents (wantedFindings a all)
  exitIf (fails a all)

/-- Findings are shown in one of three forms. -/
theorem showFindings_bind (a : Arguments) (sink : Sink) (documents : List Document)
    (found : List Finding) (f : Unit → Action Unit) :
    (showFindings a sink documents found >>= f) =
      if a.has jsonOption.key then printJson (scanReport documents.length found) >>= f
      else if a.has "show" then showAll sink (documents.zip (references documents)) >>= f
      else if !found.isEmpty then
        printFindings sink found >>= fun _ => printCount documents found >>= f
      else printCount documents found >>= f := by
  unfold showFindings
  split
  · rfl
  · split
    · rfl
    · split
      · exact bind_assoc _ _ _
      · rfl

/-- A scan of at least one file, step by step. -/
theorem scanFiles_eq {a : Arguments} (hfiles : a.operands ≠ []) (fs : Files) :
    scanFiles fs a = (do
      let c ← loadConfig fs a
      if !c.isComplete then
        errorExit (a.has jsonOption.key) (configPath c ++ ": no '" ++ missingSection c ++ "' section")
      let documents ← openFiles fs (a.value? "language") a.operands
      let started ← startSession (a.has jsonOption.key) (sessionOver documents c) c
      finishScan a documents started.1 started.2) := by
  have hsome : ¬ a.operands.isEmpty = true := fun h => hfiles (List.isEmpty_iff.mp h)
  unfold scanFiles finishScan
  simp only [showFindings_bind]
  rw [if_neg hsome]
  rfl

/-- A scan with a configuration that is complete comes as far as to start its session. -/
theorem run_scanFiles_complete {fs : Files} {a : Arguments} {c : Config}
    (hfiles : a.operands ≠ [])
    (hload : Config.load fs ((a.value? configOption.key).map Path.ofString) = .ok c)
    (hcomplete : c.isComplete = true) :
    let documents := readable fs (a.value? "language") a.operands
    ∃ stderr, (scanFiles fs a).run {} =
      (startSession (a.has jsonOption.key) (sessionOver documents c) c >>= fun started =>
        finishScan a documents started.1 started.2).run { stderr } := by
  have hloaded : (loadConfig fs a).run {} = (.ok c, {}) := by
    rw [loadConfig, hload]
    rfl
  obtain ⟨opened, hopened⟩ := openFiles_returns fs (a.value? "language") a.operands {}
  refine ⟨opened, ?_⟩
  rw [scanFiles_eq hfiles, run_bind_ok hloaded]
  simp only [hcomplete, Bool.not_true, Bool.false_eq_true, if_false]
  exact run_bind_ok hopened

/-- Behind the start of a session come warnings, and then the findings are shown. -/
theorem run_finishScan (a : Arguments) {documents : List Document} {s : Session}
    {all : List Finding}
    (hall : s.sink.findings [] (documents.zip (references documents)) = .ok all) (r : Registry)
    (o : Output) :
    ∃ stderr, (finishScan a documents s r).run o =
      (showFindings a s.sink documents (wantedFindings a all) >>= fun _ =>
        exitIf (fails a all)).run { o with stderr } := by
  unfold finishScan
  dsimp only
  rw [orFail_ok Failure.scan hall]
  split
  · obtain ⟨stderr, hwarned⟩ := warn_returns ("unknown annotation kinds: " ++
      ", ".intercalate (unknownKinds (a.values "kind" ++ a.values "fail-on") r)) o
    exact ⟨stderr, (run_bind_ok hwarned).trans (run_bind_ok rfl)⟩
  · exact ⟨o.stderr, run_bind_ok rfl⟩

/-- A scan with a configuration that is accepted comes as far as to show its findings. -/
theorem run_scanFiles_accepted {fs : Files} {a : Arguments} {c : Config} {r : Registry}
    (hfiles : a.operands ≠ [])
    (hload : Config.load fs ((a.value? configOption.key).map Path.ofString) = .ok c)
    (hr : (rebuild c.annotations c.languages (some {}) none).result = .ok r) :
    let documents := readable fs (a.value? "language") a.operands
    let all := allFindings fs r a
    ∃ sink stderr, (scanFiles fs a).run {} =
      (showFindings a sink documents (wantedFindings a all) >>= fun _ =>
        exitIf (fails a all)).run { stderr } := by
  intro documents all
  obtain ⟨opened, hopened⟩ := run_scanFiles_complete hfiles hload (isComplete_of_rebuild hr)
  -- The session is over the documents in order, so that its findings are theirs.
  have hlisted : ∀ e ∈ documents.zip (references documents),
      Session.docAt (documents.map some) e.2 = some e.1 ∧ e.1.HasText := fun e he =>
    ⟨(docAt_of_mem_zip he).1, hasText_of_mem_readable (docAt_of_mem_zip he).2⟩
  obtain ⟨hregistry, hfindings⟩ := start_findings hr (documents.map some) _ hlisted
  rw [map_snd_zip_references] at hregistry hfindings
  rw [flatMap_zip_references] at hfindings
  have hstart : (startSession (a.has jsonOption.key) (sessionOver documents c) c).Returns
      (((sessionOver documents c).step .start).session, r) :=
    startSession_returns (step_start_result hr) hregistry
  obtain ⟨started, hstarted⟩ := hstart { stderr := opened }
  obtain ⟨stderr, hfinished⟩ := run_finishScan a hfindings r { stderr := started }
  refine ⟨((sessionOver documents c).step .start).session.sink, stderr, ?_⟩
  rw [hopened, run_bind_ok hstarted]
  exact hfinished

/-! ## Showing the findings -/

section

open Command.Action

/-- Printing a report does not exit. -/
theorem printJson_onlyShows (v : Value) : (printJson v).OnlyShows :=
  (OnlyShows.orFail _ fun _ => rfl).bind fun _ => .print _

/-- Nor does showing whole documents. -/
theorem showAll_onlyShows (sink : Sink) (listed : List (Document × DocRef)) :
    (showAll sink listed).OnlyShows := by
  induction listed with
  | nil => exact .pure ()
  | cons e listed ih =>
    exact (OnlyShows.print _).bind fun _ => (OnlyShows.orFail _ fun _ => rfl).bind fun _ => ih

/-- Nor does printing the table. -/
theorem printFindings_onlyShows (sink : Sink) (found : List Finding) :
    (printFindings sink found).OnlyShows := by
  have hstyles : (sink.live.forM fun h => do
      let _ ← orFail (Style.ofOptions h.options) fun e => .display (.style e)).OnlyShows :=
    .forM (fun h => (OnlyShows.orFail _ fun _ => rfl).bind fun _ => .pure ()) _
  exact hstyles.bind fun _ => (OnlyShows.orFail _ fun _ => rfl).bind fun _ => .print _

/-- In whatever form the findings are shown, all that can go wrong is to show them. -/
theorem showFindings_onlyShows (a : Arguments) (sink : Sink) (documents : List Document)
    (found : List Finding) : (showFindings a sink documents found).OnlyShows := by
  unfold showFindings
  split
  · exact printJson_onlyShows _
  · split
    · exact showAll_onlyShows sink _
    · split
      · exact (printFindings_onlyShows sink found).bind fun _ => .print _
      · exact .print _

end

/-! ## How a scan ends -/

/-- The file has an annotation of the kind: it can be read, no descriptor for its language breaks off
in its text, and one of them finds such an annotation. -/
def HasAnnotation (fs : Files) (r : Registry) (language : Option String) (kind file : String) :
    Prop :=
  ∃ bytes, fs.read (Path.ofString file) = .ok bytes ∧
    (∀ d ∈ r.languagesFor (languageOf language (Path.ofString file)),
      ∃ xs, d.annotations (textOf bytes).toArray = .ok xs) ∧
    ∃ d ∈ r.languagesFor (languageOf language (Path.ofString file)),
      ∃ xs, d.annotations (textOf bytes).toArray = .ok xs ∧ ∃ x ∈ xs, x.kind = kind

/-- The code for a condition under which the command is to fail. -/
def exitCode (condition : Bool) : Nat := if condition then errorCode else 0

/-- The code tells whether the condition holds. -/
theorem exitCode_eq_errorCode {condition : Bool} :
    exitCode condition = errorCode ↔ condition = true := by
  cases condition <;> decide

/-- To exit on a condition ends the run. -/
theorem run_exitIf (condition : Bool) (o : Output) :
    Result.of ((exitIf condition).run o) = ⟨o, .exited (exitCode condition)⟩ := by
  cases condition <;> rfl

/-- Behind a step that only shows something the condition decides on the code. -/
theorem status_of_exitIf {x : Action Unit} (hx : x.OnlyShows) (condition : Bool) (o : Output) :
    (Result.of ((x >>= fun _ => exitIf condition).run o)).status = .exited (exitCode condition) ∨
      ∃ f, f.isShowing = true ∧
        (Result.of ((x >>= fun _ => exitIf condition).run o)).status = .failed f := by
  match hrun : x.run o with
  | (.ok (), o₁) =>
    rw [run_bind_ok hrun, run_exitIf]
    exact .inl rfl
  | (.error stop, o₁) =>
    obtain ⟨f, rfl, hf⟩ := hx o stop o₁ hrun
    rw [run_bind_error hrun]
    exact .inr ⟨f, hf, rfl⟩

section

variable {fs : Files} {a : Arguments} {c : Config} {r : Registry}

/-- How a scan with a configuration that is accepted ends. -/
theorem scanFiles_status (hfiles : a.operands ≠ [])
    (hload : Config.load fs ((a.value? configOption.key).map Path.ofString) = .ok c)
    (hr : (rebuild c.annotations c.languages (some {}) none).result = .ok r) :
    (scanFiles fs a).result.status = .exited (exitCode (fails a (allFindings fs r a))) ∨
      ∃ f, f.isShowing = true ∧ (scanFiles fs a).result.status = .failed f := by
  obtain ⟨sink, stderr, hrun⟩ := run_scanFiles_accepted hfiles hload hr
  rw [result_eq, hrun]
  exact status_of_exitIf (showFindings_onlyShows a sink _ _) _ _

/-- A scan that reports as JSON prints its report, if that can be written. -/
theorem scanFiles_result_json (hfiles : a.operands ≠ [])
    (hload : Config.load fs ((a.value? configOption.key).map Path.ofString) = .ok c)
    (hr : (rebuild c.annotations c.languages (some {}) none).result = .ok r)
    (hjson : a.has jsonOption.key = true) :
    ∃ stderr, (scanFiles fs a).result =
      match Report.json 0 (scanReport (readable fs (a.value? "language") a.operands).length
        (wantedFindings a (allFindings fs r a))) with
      | .ok text => ⟨{ stdout := text ++ "\n", stderr },
          .exited (exitCode (fails a (allFindings fs r a)))⟩
      | .error e => ⟨{ stderr }, .failed (.json e)⟩ := by
  obtain ⟨sink, stderr, hrun⟩ := run_scanFiles_accepted hfiles hload hr
  refine ⟨stderr, ?_⟩
  rw [result_eq, hrun, showFindings, if_pos hjson, printJson]
  cases Report.json 0 (scanReport _ (wantedFindings a (allFindings fs r a))) with
  | error e => rfl
  | ok text => exact run_exitIf _ _

/-- With a report that can be written, the code tells whether there are findings. -/
theorem scan_status_json {line : List String} (h : scanEntry.Takes line a)
    (hfiles : a.operands ≠ [])
    (hload : Config.load fs ((a.value? configOption.key).map Path.ofString) = .ok c)
    (hr : (rebuild c.annotations c.languages (some {}) none).result = .ok r)
    (hjson : a.has jsonOption.key = true) {all : List Finding} (hall : allFindings fs r a = all)
    (hwritten : (Report.json 0 (scanReport (readable fs (a.value? "language") a.operands).length
      (wantedFindings a all))).toBool = true) :
    (runLine fs ("scan" :: line)).status = .exited (exitCode (fails a all)) := by
  have hline : runLine fs ("scan" :: line) = (scanFiles fs a).result :=
    runLine_of_takes List.mem_cons_self h fs
  obtain ⟨stderr, hresult⟩ := scanFiles_result_json hfiles hload hr hjson
  rw [hall] at hresult
  rw [hline, hresult]
  revert hwritten
  cases Report.json 0 (scanReport _ (wantedFindings a all)) with
  | error e => exact nofun
  | ok text => exact fun _ => rfl

/-- A file has an annotation of a kind if a finding of its document has it. -/
theorem hasAnnotation_iff (hr : (rebuild c.annotations c.languages (some {}) none).result = .ok r)
    {language : Option String} {kind file : String} :
    HasAnnotation fs r language kind file ↔ ∃ bytes, fs.read (Path.ofString file) = .ok bytes ∧
      ∃ f ∈ r.findingsOf (documentOf language (Path.ofString file) bytes), f.kind = kind := by
  refine exists_congr fun bytes => and_congr_right fun _ => ?_
  rw [Registry.exists_finding_iff (rebuild_languagesFor hr _), documentOf_chars,
    ← exists_hitsOfAll_eq_ok]
  constructor
  · rintro ⟨⟨xs, hxs⟩, d, hd, ys, hys, x, hx, hkind⟩
    exact ⟨xs, hxs, x, (mem_hitsOfAll hxs).mpr ⟨d, hd, ys, hys, hx⟩, hkind⟩
  · rintro ⟨xs, hxs, x, hx, hkind⟩
    obtain ⟨d, hd, ys, hys, hx⟩ := (mem_hitsOfAll hxs).mp hx
    exact ⟨⟨xs, hxs⟩, d, hd, ys, hys, x, hx, hkind⟩

/-- A scan is to fail if one of its files has an annotation of a kind asked for. -/
theorem fails_iff (hr : (rebuild c.annotations c.languages (some {}) none).result = .ok r) :
    fails a (allFindings fs r a) = true ↔ ∃ file ∈ a.operands, ∃ kind ∈ a.values "fail-on",
      HasAnnotation fs r (a.value? "language") kind file := by
  simp only [fails, allFindings, List.any_eq_true, List.contains_iff_mem, List.mem_flatMap,
    hasAnnotation_iff hr]
  constructor
  · rintro ⟨f, ⟨d, hd, hf⟩, hkind⟩
    obtain ⟨file, hfile, bytes, hbytes, rfl⟩ := mem_readable.mp hd
    exact ⟨file, hfile, f.kind, hkind, bytes, hbytes, f, hf, rfl⟩
  · rintro ⟨file, hfile, kind, hkind, bytes, hbytes, f, hf, rfl⟩
    exact ⟨f, ⟨_, mem_readable.mpr ⟨file, hfile, bytes, hbytes, rfl⟩, hf⟩, hkind⟩

/-- The code of a scan with a configuration that is accepted, if it ends with one. -/
theorem scan_code_eq {line : List String} {code : Nat} (h : scanEntry.Takes line a)
    (hfiles : a.operands ≠ [])
    (hload : Config.load fs ((a.value? configOption.key).map Path.ofString) = .ok c)
    (hr : (rebuild c.annotations c.languages (some {}) none).result = .ok r)
    (hcode : (runLine fs ("scan" :: line)).status = .exited code) :
    code = exitCode (fails a (allFindings fs r a)) := by
  have hline : runLine fs ("scan" :: line) = (scanFiles fs a).result :=
    runLine_of_takes List.mem_cons_self h fs
  rw [hline] at hcode
  rcases scanFiles_status hfiles hload hr with hstatus | ⟨f, -, hstatus⟩
  · cases hcode.symm.trans hstatus
    rfl
  · cases hcode.symm.trans hstatus

end

/-- The code of a scan that ends with one: that of an error if one of its files has an annotation of
a kind on which it is to fail, and else zero.  How the findings are chosen and shown makes no
difference. -/
theorem scan_exit_code {fs : Files} {line : List String} {a : Arguments} {c : Config} {r : Registry}
    {code : Nat} (h : scanEntry.Takes line a) (hfiles : a.operands ≠ [])
    (hload : Config.load fs ((a.value? configOption.key).map Path.ofString) = .ok c)
    (hr : (rebuild c.annotations c.languages (some {}) none).result = .ok r)
    (hcode : (runLine fs ("scan" :: line)).status = .exited code) :
    (code = errorCode ↔ ∃ file ∈ a.operands, ∃ kind ∈ a.values "fail-on",
      HasAnnotation fs r (a.value? "language") kind file) ∧
    (code ≠ errorCode → code = 0) ∧
    ∀ (line' : List String) (a' : Arguments) (code' : Nat), scanEntry.Takes line' a' →
      a'.operands = a.operands → a'.value? configOption.key = a.value? configOption.key →
      a'.value? "language" = a.value? "language" → a'.values "fail-on" = a.values "fail-on" →
      (runLine fs ("scan" :: line')).status = .exited code' → code' = code := by
  have hall := scan_code_eq h hfiles hload hr hcode
  refine ⟨?_, fun hne => ?_, fun line' a' code' h' hoperands hconfig hlanguage hfail hcode' => ?_⟩
  · rw [hall, exitCode_eq_errorCode, fails_iff hr]
  · rw [hall] at hne ⊢
    exact if_neg fun hfails => hne (if_pos hfails)
  · rw [← hconfig] at hload
    rw [hall, scan_code_eq h' (hoperands ▸ hfiles) hload hr hcode', fails, fails, allFindings,
      allFindings, hoperands, hlanguage, hfail]

/-- A kind whose pattern goes back behind the place where it is found, and two languages with one
tag. -/
def cutOffConfig : String :=
  "annotations=[\x7bname=\"K\",pattern=\"x|(?:(?<=a)b)*+(?=z)\"\x7d]\n" ++
  "languages=[\x7blanguageIds=[\"t\"],lineComments=[\"x\"]\x7d," ++
  "\x7blanguageIds=[\"t\"],lineComments=[\"zb\"]\x7d]"

/-- A file with an annotation in a comment of the first language, and one where extraction breaks off
in a comment of the second language behind it. -/
def cutOffFiles : Files := FileTree.toFiles
  { root := "/"
    files := [(["config"], cutOffConfig.toUTF8.toList), (["found"], "x".toUTF8.toList),
      (["broken"], "xzb".toUTF8.toList)] }

/-- The arguments of a scan that is to fail on the kind. -/
def cutOffLine (files : List String) : List String :=
  files ++ ["--language", "t", "--config", "config", "--fail-on", "K", "--json"]

/-- These arguments, read. -/
def cutOffArguments (files : List String) : Arguments where
  options := [("language", "t"), ("config", "config"), ("fail-on", "K"), ("json", "")]
  operands := files

/-- The configuration and the findings of the two files. -/
theorem cutOff_evaluated :
    ∃ c r d, Config.load cutOffFiles (some (Path.ofString "config")) = .ok c ∧
      (rebuild c.annotations c.languages (some {}) none).result = .ok r ∧
      d ∈ r.languagesFor "t" ∧
      d.annotations (textOf "xzb".toUTF8.toList).toArray = .ok [⟨"K", 0, 1, "x"⟩] ∧
      allFindings cutOffFiles r (cutOffArguments ["found"]) = [⟨"found", "K", 1, 1, "x", none⟩] ∧
      allFindings cutOffFiles r (cutOffArguments ["broken"]) = [] := by
  have hvalue : ((Config.load cutOffFiles (some (Path.ofString "config"))).toOption.map fun c =>
      (rebuild c.annotations c.languages (some {}) none).result.toOption.map fun r =>
        ((r.languagesFor "t").map fun d =>
          (d.annotations (textOf "xzb".toUTF8.toList).toArray).toOption,
        allFindings cutOffFiles r (cutOffArguments ["found"]),
        allFindings cutOffFiles r (cutOffArguments ["broken"]))) =
      some (some ([some [⟨"K", 0, 1, "x"⟩], none], [⟨"found", "K", 1, 1, "x", none⟩], [])) := by
    decide +kernel
  obtain ⟨c, hc, hvalue⟩ := Option.map_eq_some_iff.mp hvalue
  obtain ⟨r, hr, hvalue⟩ := Option.map_eq_some_iff.mp hvalue
  obtain ⟨hlanguages, hfound, hbroken⟩ := Prod.mk.inj hvalue |>.imp_right Prod.mk.inj
  obtain ⟨d, ds, hds, hd, -⟩ := List.map_eq_cons_iff.mp hlanguages
  exact ⟨c, r, d, eq_ok_of_toOption hc, eq_ok_of_toOption hr, hds ▸ List.mem_cons_self,
    eq_ok_of_toOption hd, hfound, hbroken⟩

/-- The annotation in the file makes the scan end with the code of an error. -/
theorem scan_exit_code_found :
    ∃ c r, Config.load cutOffFiles (some (Path.ofString "config")) = .ok c ∧
      (rebuild c.annotations c.languages (some {}) none).result = .ok r ∧
      (runLine cutOffFiles ("scan" :: cutOffLine ["found"])).status = .exited errorCode ∧
      HasAnnotation cutOffFiles r (some "t") "K" "found" := by
  obtain ⟨c, r, -, hload, hr, -, -, hfound, -⟩ := cutOff_evaluated
  have htakes : scanEntry.Takes (cutOffLine ["found"]) (cutOffArguments ["found"]) :=
    ⟨by decide +kernel, by decide +kernel, .inl rfl⟩
  have hstatus : (runLine cutOffFiles ("scan" :: cutOffLine ["found"])).status =
      .exited errorCode :=
    scan_status_json htakes nofun hload hr rfl hfound (by decide +kernel)
  obtain ⟨⟨hcode, -⟩, -⟩ := scan_exit_code htakes nofun hload hr hstatus
  obtain ⟨file, hfile, kind, hkind, h⟩ := hcode rfl
  cases List.mem_singleton.mp hfile
  cases List.mem_singleton.mp hkind
  exact ⟨c, r, hload, hr, hstatus, h⟩

/-- One of the two languages finds the annotation, but because extraction breaks off in the other one
the scan ends with the code zero. -/
theorem scan_passes_over_broken_file :
    ∃ c r d, Config.load cutOffFiles (some (Path.ofString "config")) = .ok c ∧
      (rebuild c.annotations c.languages (some {}) none).result = .ok r ∧
      scanEntry.Takes (cutOffLine ["broken"]) (cutOffArguments ["broken"]) ∧
      cutOffFiles.read (Path.ofString "broken") = .ok "xzb".toUTF8.toList ∧
      d ∈ r.languagesFor (languageOf (some "t") (Path.ofString "broken")) ∧
      d.annotations (textOf "xzb".toUTF8.toList).toArray = .ok [⟨"K", 0, 1, "x"⟩] ∧
      "K" ∈ (cutOffArguments ["broken"]).values "fail-on" ∧
      (runLine cutOffFiles ("scan" :: cutOffLine ["broken"])).status = .exited 0 := by
  obtain ⟨c, r, d, hload, hr, hd, hhits, -, hbroken⟩ := cutOff_evaluated
  have htakes : scanEntry.Takes (cutOffLine ["broken"]) (cutOffArguments ["broken"]) :=
    ⟨by decide +kernel, by decide +kernel, .inl rfl⟩
  have hread : cutOffFiles.read (Path.ofString "broken") = .ok "xzb".toUTF8.toList :=
    eq_ok_of_toOption (by decide +kernel)
  exact ⟨c, r, d, hload, hr, htakes, hread, hd, hhits, List.mem_singleton_self _,
    scan_status_json htakes nofun hload hr rfl hbroken (by decide +kernel)⟩

end Marginalia.Command
