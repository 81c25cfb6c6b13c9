import Marginalia.Decoration
import Marginalia.Registry.Error

/-!
# The sink that decorations are painted on

A sink hands out style handles and remembers, for each handle and document, the decorations painted
last. Painting replaces what the same handle painted on the same document before.  Disposing of a
handle removes all that was painted with it, and it can be painted with no more.
-/

namespace Marginalia

/-- A style that was handed out for a kind. -/
structure StyleHandle where
  kind : String
  options : Style.Options
  ident : Nat
  disposed : Bool := false
deriving Repr

/-- The handle as diagnostics show it. -/
def StyleHandle.literal (h : StyleHandle) : String :=
  "<StyleHandle " ++ h.kind ++ "#" ++ toString h.ident ++
    (if h.disposed then " disposed" else "") ++ ">"

/-- What a handle painted on a document. -/
structure Painted where
  ident : Nat
  document : DocRef
  decorations : List Decoration
deriving DecidableEq, Repr

/-- Are these the same handle and the same document? -/
def Painted.sameKey (p q : Painted) : Bool := p.ident == q.ident && p.document == q.document

/-- The handles handed out, what is painted, the number of paints, and the kinds for which there is
no style. -/
structure Sink where
  handles : List StyleHandle := []
  painted : List Painted := []
  paintCalls : Nat := 0
  refused : List String := []
deriving Repr

/-- A disposed handle was painted with. -/
structure DisposedStyle where
  handle : StyleHandle
deriving Repr

/-- The wording of the error. -/
def DisposedStyle.message (e : DisposedStyle) : String := "cannot paint with " ++ e.handle.literal

namespace Sink

/-- The handle with a number. -/
def handle? (s : Sink) (ident : Nat) : Option StyleHandle := s.handles.find? (·.ident == ident)

/-- The handles that are not disposed. -/
def live (s : Sink) : List StyleHandle := s.handles.filter (!·.disposed)

/-- Hands out a style for a kind, with the next number. -/
def create (s : Sink) (kind : String) (options : Style.Options) :
    Except RebuildError (StyleHandle × Sink) :=
  if s.refused.contains kind then .error (.outOfStyles kind)
  else
    let h : StyleHandle := { kind, options, ident := s.handles.length + 1 }
    .ok (h, { s with handles := s.handles ++ [h] })

/-- Hands out a style for a kind, with the options that a value gives. -/
def createFrom (s : Sink) (kind : String) (options : Value) :
    Except RebuildError (StyleHandle × Sink) := do
  s.create kind (← (Style.Options.ofValue options).mapError .badOptions)

/-- Takes a style back, and removes what was painted with it. -/
def dispose (s : Sink) (ident : Nat) : Sink :=
  { s with
    handles := s.handles.map fun h => if h.ident == ident then { h with disposed := true } else h
    painted := s.painted.filter (·.ident != ident) }

/-- Puts what was painted in the place of what the same handle painted on the same document, or at
the end. -/
def put (p : Painted) : List Painted → List Painted
  | [] => [p]
  | q :: qs => if q.sameKey p then p :: qs else q :: put p qs

/-- Paints decorations on a document.  Without a handle nothing happens. -/
def paint (s : Sink) (handle : Option Nat) (document : DocRef) (decorations : List Decoration) :
    Except DisposedStyle Sink :=
  match handle with
  | none => .ok s
  | some ident =>
    let painted : Sink :=
      { s with
        paintCalls := s.paintCalls + 1, painted := put ⟨ident, document, decorations⟩ s.painted }
    match s.handle? ident with
    | some h => if h.disposed then .error ⟨h⟩ else .ok painted
    | none => .ok painted

/-- Sets the decorations of a kind, keeping the place of the kind if it has one. -/
def setKind (kind : String) (decorations : List Decoration) : Decorations → Decorations
  | [] => [(kind, decorations)]
  | (k, ds) :: rest =>
    if k = kind then (k, decorations) :: rest else (k, ds) :: setKind kind decorations rest

/-- The kind of the handle with a number. -/
def kindOf (s : Sink) (ident : Nat) : String := ((s.handle? ident).map (·.kind)).getD ""

/-- What is painted on a document, by kind.  Of two handles of one kind the one painted later
counts. -/
def decorationsFor (s : Sink) (document : DocRef) : Decorations :=
  (s.painted.filter (·.document == document)).foldl
    (fun acc p => setKind (s.kindOf p.ident) p.decorations acc) []

end Sink

end Marginalia
