import Marginalia.Scan

/-!
# Runs of registries on one sink

A ledger keeps all registries that were built on one sink, in the order in which they were built.
Its events are what a host can do with them: build one, with or without the sink and on top of any
earlier one, release one, or paint a document with one.
-/

namespace Marginalia

/-- A sink and the registries built on it. -/
structure Ledger where
  sink : Sink := {}
  registries : List Registry := []
deriving Repr

namespace Ledger

/-- What a host can do with the registries. -/
inductive Event
  /-- Builds a registry; styles for the kinds in `refused` are not to be had. -/
  | rebuild (annotations : Section AnnotationEntry) (languages : Section LanguageEntry)
      (previous : Option Nat) (withSink : Bool) (refused : List String)
  | release (registry : Nat)
  | paint (registry : Nat) (doc : Document) (document : DocRef)
deriving Repr

/-- What an event gives. -/
inductive Outcome
  | none
  | built (registry : Registry)
  | notBuilt (error : RebuildError)
  | painted (decorations : Decorations)
  | notPainted (error : PaintError)
deriving Repr

/-- Puts a registry back in its place. -/
def restore (rs : List Registry) (i : Option Nat) (r : Option Registry) : List Registry :=
  match i, r with
  | some i, some r => rs.set i r
  | _, _ => rs

/-- One event.  An event about a registry that does not exist does nothing. -/
def step (l : Ledger) : Event → Outcome × Ledger
  | .rebuild annotations languages previous withSink refused =>
    let sink := { l.sink with refused }
    let old := previous.bind (l.registries[·]?)
    let b := Marginalia.rebuild annotations languages (if withSink then some sink else none) old
    let registries := restore l.registries previous b.previous
    let sink := b.sink.getD sink
    match b.result with
    | .ok r => (.built r, ⟨sink, registries ++ [r]⟩)
    | .error e => (.notBuilt e, ⟨sink, registries⟩)
  | .release i =>
    match l.registries[i]? with
    | some r =>
      let (r, sink) := r.release l.sink
      (.none, ⟨sink, l.registries.set i r⟩)
    | none => (.none, l)
  | .paint i doc document =>
    match l.registries[i]? with
    | some r =>
      match paintDocument doc document r l.sink with
      | (.ok groups, sink) => (.painted groups, { l with sink })
      | (.error e, sink) => (.notPainted e, { l with sink })
    | none => (.none, l)

/-- The ledger after a run of events. -/
def run (l : Ledger) (es : List Event) : Ledger := es.foldl (fun l e => (l.step e).2) l

end Ledger

end Marginalia
