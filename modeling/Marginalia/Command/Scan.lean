import Marginalia.Command.Basic
import Marginalia.Document.Source
import Marginalia.Findings
import Marginalia.Registry.Warnings
import Marginalia.Report.Grid
import Marginalia.Session

/-!
# The command that scans files

Opens every file as a document of a session, and reports what is painted: as a table, as JSON, or as
the highlighted files themselves.
-/

namespace Marginalia.Command

/-- The options of the command. -/
def scanOptions : List OptionSpec :=
  [{ key := "language", long := "--language", short := some 'l', takesValue := true },
   { key := "kind", long := "--kind", short := some 'k', takesValue := true },
   { key := "fail-on", long := "--fail-on", takesValue := true },
   { key := "show", long := "--show" }, configOption, jsonOption]

/-- Opens files in order, with a warning for each that cannot be read. -/
def openFiles (fs : Files) (language : Option String) : List String → Action (List Document)
  | [] => pure []
  | file :: files => do
    let p := Path.ofString file
    match Document.ofPath fs p language with
    | .ok d => return d :: (← openFiles fs language files)
    | .error e =>
      warn ("cannot read " ++ p.text ++ ": " ++ e.fault.text)
      openFiles fs language files

/-- The references to documents, in order. -/
def references (documents : List Document) : List DocRef := (List.range documents.length).map some

/-- A session over documents that are all open. -/
def sessionOver (documents : List Document) (c : Config) : Session :=
  Session.new (documents.map some) (Workspace.ofDocuments (references documents)) (.ok c)

/-- The section that a configuration lacks. -/
def missingSection (c : Config) : String :=
  if c.annotations.isPresent then "languages" else "annotations"

/-- The path of a configuration. -/
def configPath (c : Config) : String := (c.path.map Path.text).getD "None"

/-- Starts a session and prints its warnings. -/
def startSession (json : Bool) (s : Session) (c : Config) : Action (Session × Registry) := do
  let r := s.step .start
  match r.result with
  | .error (.rebuild e) => fail (.rebuild e)
  | .error (.load e) => fail (.load e)
  | _ =>
    (patternWarnings c.annotations c.languages).forM fun w => warn w.message
    r.warnings.forM fun w => warn w.message
    match r.session.registry with
    | some registry => return (r.session, registry)
    | none =>
      let reason := (r.session.lastError.map Refusal.message).getD "no annotations configured"
      errorExit json reason

/-- The kinds asked for that the registry does not have, in increasing order. -/
def unknownKinds (asked : List String) (r : Registry) : List String :=
  Language.idSet (asked.filter fun k => !r.kindNames.contains k)

/-- A finding as JSON shows it. -/
def findingEntry (f : Finding) : Value :=
  .table ([("file", .str f.path), ("kind", .str f.kind), ("line", .int f.line),
    ("column", .int f.column), ("text", .str f.text)] ++
      (f.hover.toList.map fun h => ("hover", .str h)))

/-- The row of a finding, the place of which is given. -/
def findingRow (place : Markup.Rendered) (f : Finding) : List Console.Seamed :=
  [Console.seamed place, ⟨Text.sanitize f.kind.toList, []⟩, ⟨Text.sanitize f.text.toList, []⟩]

/-- The columns of the table of findings. -/
def findingColumns : List Report.Column :=
  [{ header := "Location", wrap := false }, { header := "Kind", wrap := false },
    { header := "Text" }]

/-- Prints the table of findings.  The styles of all kinds have to be readable. -/
def printFindings (sink : Sink) (fs : List Finding) : Action Unit := do
  sink.live.forM fun h => do
    let _ ← orFail (Style.ofOptions h.options) fun e => .display (.style e)
  let places ← rendered (Markup.shownCells (fs.map (·.location.toList)))
  let rows := (places.zip fs).map fun (place, f) => findingRow place f
  print (({ columns := findingColumns, rows } : Report.Grid).plain consoleWidth)

/-- Shows documents one after the other. -/
def showAll (sink : Sink) : List (Document × DocRef) → Action Unit
  | [] => pure ()
  | (d, ref) :: rest => do
    let (text, r) := sink.showDocument consoleWidth d ref
    print text
    let _ ← orFail r .display
    showAll sink rest

/-- Scans files. -/
def scanFiles (fs : Files) (a : Arguments) : Action Unit := do
  let json := a.has jsonOption.key
  if a.operands.isEmpty then errorExit json "At least one file is required"
  let c ← loadConfig fs a
  if !c.isComplete then
    errorExit json (configPath c ++ ": no '" ++ missingSection c ++ "' section")
  let documents ← openFiles fs (a.value? "language") a.operands
  let (session, registry) ← startSession json (sessionOver documents c) c
  let kinds := a.values "kind"
  let failOn := a.values "fail-on"
  let unknown := unknownKinds (kinds ++ failOn) registry
  if !unknown.isEmpty then warn ("unknown annotation kinds: " ++ ", ".intercalate unknown)
  let visible := documents.zip (references documents)
  let all ← orFail (session.sink.findings [] visible) .scan
  let findings := all.filter fun f => isWanted kinds f.kind
  if json then
    printJson (.table [("files", .int documents.length), ("total", .int findings.length),
      ("annotations", .list (findings.map findingEntry))])
  else if a.has "show" then showAll session.sink visible
  else
    if !findings.isEmpty then printFindings session.sink findings
    print ("\n" ++ toString findings.length ++ " annotations in " ++ toString documents.length ++
      " files\n")
  if all.any fun f => failOn.contains f.kind then throw (.exit errorCode)

end Marginalia.Command
