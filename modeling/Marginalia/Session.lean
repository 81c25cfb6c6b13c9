import Marginalia.Config.Load
import Marginalia.Scan
import Marginalia.Workspace

/-!
# Sessions

A session keeps one registry over the open documents of a host and reacts to what the host does.
When the configuration changes a new registry is built as a whole before it takes the place of the
old one, so a configuration that is refused, incomplete or unreadable leaves everything as it was.
When documents change, every open one is scanned again and painted.

`Session.step` is one event.  It gives what the event returns or the error it ends in, the warnings
it issues, and the session after it.
-/

namespace Marginalia

/-- Why a configuration was refused although a session goes on. -/
inductive Refusal
  | load (error : LoadError)
  | registry (error : RegistryError)
deriving Repr

/-- The wording of a refusal. -/
def Refusal.message : Refusal → String
  | .load e => e.message
  | .registry e => e.message

/-- What a session warns about. -/
inductive SessionWarning
  /-- A configuration was refused; `kept` says whether another one is still in use. -/
  | refused (reason : Refusal) (kept : Bool)
  | skipped (document : String) (reason : PaintError)
deriving Repr

/-- The wording of a warning. -/
def SessionWarning.message : SessionWarning → String
  | .refused reason kept =>
    "todomark: configuration rejected (" ++ reason.message ++ "); " ++
      if kept then "keeping previous configuration" else "no annotations active"
  | .skipped document reason => "todomark: skipped " ++ document ++ ": " ++ reason.message

/-- Why an event ends in an error. -/
inductive SessionError
  | load (error : LoadError)
  | rebuild (error : RebuildError)
  | workspace (error : WorkspaceError)
  | document (error : DocumentError)
  /-- The event is about a document that is none. -/
  | noDocument
deriving Repr

/-- The wording of a session error. -/
def SessionError.message : SessionError → String
  | .load e => e.message
  | .rebuild e => e.message
  | .workspace e => e.message
  | .document e => e.message
  | .noDocument => "'NoneType' object has no attribute 'set_text'"

/-- A session. -/
structure Session where
  /-- All documents of the host; a place without a document stands for the reference to none. -/
  documents : List (Option Document)
  workspace : Workspace
  /-- What reading the configuration gives at present. -/
  source : Except LoadError Config
  sink : Sink := {}
  /-- The registry in use. -/
  registry : Option Registry := none
  /-- The registries that were in use before, oldest first. -/
  retired : List Registry := []
  lastError : Option Refusal := none

namespace Session

/-- What the host can do. -/
inductive Event
  | start
  | reload
  | close
  | enter
  | leave
  | textChanged
  | activeChanged
  | configChanged
  | rescan
  | setSource (source : Except LoadError Config)
  /-- From now on there are no styles for these kinds. -/
  | refuseStyles (kinds : List String)
  | setText (index : Nat) (text : Option String)
  /-- Opens a document that is new to the host. -/
  | add (document : Option Document)
  /-- Opens a document that the host has already, once more if it is open. -/
  | openDoc (index : Nat)
  | closeDoc (index : Nat)
  | setActive (index : Nat)
  | decorationsFor (index : Nat)

/-- What an event returns. -/
inductive Outcome
  | nothing
  | entered
  | generation (number : Option Nat)
  | scanned (results : List (DocRef × Decorations))
  | opened (count : Nat)
  | painted (decorations : Decorations)
deriving Repr

/-- What an event leaves. -/
structure Reaction where
  result : Except SessionError Outcome
  warnings : List SessionWarning := []
  session : Session

/-- A new session. -/
def new (documents : List (Option Document)) (workspace : Workspace)
    (source : Except LoadError Config) : Session := { documents, workspace, source }

/-- The document at a place. -/
def document? (s : Session) (index : Nat) : Option Document := (s.documents[index]?).getD none

/-- The reference to the document at a place. -/
def refAt (s : Session) (index : Nat) : DocRef :=
  if (s.document? index).isSome then some index else none

/-- All registries of the session, oldest first. -/
def registries (s : Session) : List Registry := s.retired ++ s.registry.toList

/-- The number of the registry in use. -/
def generation (s : Session) : Option Nat := s.registry.map (·.generation)

/-! ## Scanning -/

/-- What a pass over documents leaves. -/
structure Pass where
  results : List (DocRef × Decorations) := []
  warnings : List SessionWarning := []
  sink : Sink
deriving Repr

/-- Scans and paints one document, if it is one. -/
def Pass.visit (documents : List (Option Document)) (r : Registry) (p : Pass) (ref : DocRef) :
    Pass :=
  match ref.bind (fun i => (documents[i]?).getD none) with
  | none => p
  | some d =>
    match paintDocument d ref r p.sink with
    | (.ok groups, sink) => { p with results := p.results ++ [(ref, groups)], sink }
    | (.error e, sink) => { p with warnings := p.warnings ++ [.skipped d.literal e], sink }

/-- Scans and paints every open document with the registry in use. -/
def pass (s : Session) : Pass :=
  match s.registry with
  | none => { sink := s.sink }
  | some r => s.workspace.documents.foldl (Pass.visit s.documents r) { sink := s.sink }

/-- Scans every open document. -/
def rescan (s : Session) (outcome : List (DocRef × Decorations) → Outcome) : Reaction :=
  let p := s.pass
  { result := .ok (outcome p.results), warnings := p.warnings,
    session := { s with sink := p.sink } }

/-! ## Loading and closing -/

/-- Refuses a configuration and goes on with what there is. -/
def refuse (s : Session) (reason : Refusal) : Reaction where
  result := .ok (.generation s.generation)
  warnings := [.refused reason s.registry.isSome]
  session := { s with lastError := some reason }

/-- Puts a new registry in the place of the old one, which `previous` is by now. -/
def install (s : Session) (new : Registry) (previous : Option Registry) (sink : Sink) : Session :=
  { s with registry := some new, retired := s.retired ++ previous.toList, sink, lastError := none }

/-- Builds a registry from a complete configuration and scans with it. -/
def rebuildFrom (s : Session) (c : Config) : Reaction :=
  let b := Marginalia.rebuild c.annotations c.languages (some s.sink) s.registry
  let sink := b.sink.getD s.sink
  match b.result with
  | .ok new => (s.install new b.previous sink).rescan fun _ => .generation (some new.generation)
  | .error (.rejected e) => { s with sink }.refuse (.registry e)
  | .error e => { result := .error (.rebuild e), session := { s with sink } }

/-- Reads the configuration and, if it is complete, builds a registry from it. -/
def reload (s : Session) : Reaction :=
  match s.source with
  | .error e =>
    if e.isRefusal then s.refuse (.load e) else { result := .error (.load e), session := s }
  | .ok c =>
    if c.isComplete then s.rebuildFrom c
    else { result := .ok (.generation s.generation), session := s }

/-- Takes back the styles of the registry in use. -/
def close (s : Session) : Session :=
  match s.registry with
  | none => s
  | some r =>
    let (r, sink) := r.release s.sink
    { s with registry := none, retired := s.retired ++ [r], sink }

/-! ## Events -/

/-- An event that returns nothing and cannot fail. -/
def quiet (s : Session) : Reaction := { result := .ok .nothing, session := s }

/-- What a reaction returns replaced, unless it is an error. -/
def Reaction.returning (r : Reaction) (o : Outcome) : Reaction :=
  { r with result := r.result.map fun _ => o }

/-- Replaces the text of a document. -/
def setText (s : Session) (index : Nat) (text : Option String) : Reaction :=
  match s.document? index with
  | none => { result := .error .noDocument, session := s }
  | some d =>
    let (d, r) := d.setText text
    { result := (r.mapError .document).map fun _ => .nothing
      session := { s with documents := s.documents.set index (some d) } }

/-- Opens a document of the host. -/
def openRef (s : Session) (ref : DocRef) : Reaction :=
  let workspace := s.workspace.openDoc ref
  { result := .ok (.opened workspace.documents.length), session := { s with workspace } }

/-- A change of the open documents. -/
def inWorkspace (s : Session) (r : Except WorkspaceError Workspace) : Reaction :=
  match r with
  | .ok workspace => { s with workspace }.quiet
  | .error e => { result := .error (.workspace e), session := s }

/-- A document as diagnostics show it. -/
def shown (s : Session) (index : Nat) : String :=
  ((s.document? index).map Document.literal).getD "None"

/-- One event. -/
def step (s : Session) : Event → Reaction
  | .start => s.reload
  | .reload => s.reload
  | .enter => s.reload.returning .entered
  | .configChanged => s.reload.returning .nothing
  | .close => s.close.quiet
  | .leave => s.close.quiet
  | .textChanged => s.rescan fun _ => .nothing
  | .activeChanged => s.rescan fun _ => .nothing
  | .rescan => s.rescan .scanned
  | .setSource source => { s with source }.quiet
  | .refuseStyles kinds => { s with sink := { s.sink with refused := kinds } }.quiet
  | .setText index text => s.setText index text
  | .add d =>
    let ref : DocRef := if d.isSome then some s.documents.length else none
    { s with documents := s.documents ++ [d] }.openRef ref
  | .openDoc index => s.openRef (s.refAt index)
  | .closeDoc index => s.inWorkspace (s.workspace.closeDoc (s.refAt index))
  | .setActive index => s.inWorkspace (s.workspace.setActive (s.refAt index) (s.shown index))
  | .decorationsFor index =>
    { result := .ok (.painted (s.sink.decorationsFor (s.refAt index))), session := s }

/-- The session after a run of events. -/
def run (s : Session) (es : List Event) : Session := es.foldl (fun s e => (s.step e).session) s

end Session

end Marginalia
